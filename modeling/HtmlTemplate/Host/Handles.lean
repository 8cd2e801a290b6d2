/-
# Handles

A caller reaches containers through handles. Several handles may lead to one container.
Locking goes through a handle too: the handle that locked a container is the only one that
can unlock it again, and a second attempt to lock it fails through whichever handle.
-/

import HtmlTemplate.Host.Heap

namespace HtmlTemplate.Host

/-- A heap, the containers its handles lead to, and the handles that hold a lock. -/
structure Handles where
  heap : Heap
  targets : Array ContainerId
  holders : List Nat

namespace Handles

/-- No containers and no handles. -/
def empty : Handles := ⟨.empty, #[], []⟩

/-- The container that a handle leads to. -/
def target? (handles : Handles) (handle : Nat) : Option ContainerId := handles.targets[handle]?

/-- A new handle on a container. -/
def attach (handles : Handles) (id : ContainerId) : Nat × Handles :=
  (handles.targets.size, { handles with targets := handles.targets.push id })

/-- A new container and a handle on it. -/
def create (handles : Handles) (container : Container) : Nat × Handles :=
  let (id, heap) := handles.heap.alloc container
  { handles with heap }.attach id

/-- Lock the container of a handle, unless it is locked. -/
def lock? (handles : Handles) (handle : Nat) : Option Handles :=
  match handles.target? handle with
  | none => none
  | some id =>
      if (handles.heap.inspect? id).isSome then
        some { handles with
          heap := handles.heap.setLocked id true
          holders := handle :: handles.holders }
      else none

/-- Release the lock that was taken through a handle, if it holds one. -/
def unlock (handles : Handles) (handle : Nat) : Handles :=
  match handles.target? handle with
  | none => handles
  | some id =>
      if handle ∈ handles.holders then
        { handles with
          heap := handles.heap.setLocked id false
          holders := handles.holders.filter (· ≠ handle) }
      else handles

end Handles

end HtmlTemplate.Host
