/-
# Places below an object

A value stands at a place below an object: one goes from the object through properties and
items, and every container on the way is open. A place is known by the containers around
it, the outermost first and the object itself left out, and by the name of the property
that was passed last. An item of a list has no name of its own and goes by the name of the
list. Reports show these names, so a place says what a report may call a value.

Two places may hold one value, with different names and with different containers around
them.
-/

import HtmlTemplate.Proofs.Host.Paths

namespace HtmlTemplate.Host

/-- Somebody holds the container. A reference that leads nowhere, which no caller can have,
counts as held. -/
def Heap.IsLocked (heap : Heap) (id : ContainerId) : Prop :=
  ∀ cell, heap.cell? id = some cell → cell.locked = true

/-- A container that goes by the name `outer` stores a value, which goes by the name `key`. -/
inductive Container.Stores (outer : String) : Container → String → Value → Prop where
  | item {items : List Value} {value : Value} (stored : value ∈ items) :
      Stores outer (.array items) outer value
  | property {cls : ObjectClass} {props : Data.OrderedMap PropertyKey Property} {name : String}
      {value : Value} (stored : (.name name, .data value) ∈ props.entries) :
      Stores outer (.object cls props) name value

/-- A value stands below the object `root`, inside the containers `around`, and goes by the name
`key`. -/
inductive Heap.Place (heap : Heap) (root : ContainerId) :
    List ContainerId → String → Value → Prop where
  | property {props : Data.OrderedMap PropertyKey Property} {name : String} {value : Value}
      (opened : heap.inspect? root = some (.object .plain props))
      (stored : (.name name, .data value) ∈ props.entries) : Place heap root [] name value
  | inside {around : List ContainerId} {outer key : String} {id : ContainerId}
      {container : Container} {value : Value} (place : Place heap root around outer (.ref id))
      (opened : heap.inspect? id = some container) (stored : container.Stores outer key value) :
      Place heap root (around ++ [id]) key value

variable {heap : Heap} {root id : ContainerId} {key : String}

/-- A container cannot be looked into exactly while somebody holds it. -/
theorem Heap.inspect?_eq_none_iff : heap.inspect? id = none ↔ heap.IsLocked id := by
  rw [Heap.inspect?.eq_def, Heap.IsLocked]
  cases heap.cell? id with
  | none => simp
  | some cell =>
      obtain ⟨container, locked⟩ := cell
      cases locked with
      | true => simp
      | false => simp

/-- The values of an object are what it stores under its keys. -/
theorem mem_storedValues_iff {entries : List (PropertyKey × Property)} {value : Value} :
    value ∈ storedValues entries ↔ ∃ key, (key, .data value) ∈ entries := by
  rw [storedValues, List.mem_filterMap]
  constructor
  · intro found
    obtain ⟨⟨key, property⟩, stored, holds⟩ := found
    cases property with
    | accessor => cases holds
    | data other =>
        cases holds
        exact ⟨key, stored⟩
  · intro found
    obtain ⟨key, stored⟩ := found
    exact ⟨(key, .data value), stored, rfl⟩

theorem Container.Stores.mem_children {outer : String} {container : Container} {value : Value}
    (stores : container.Stores outer key value) : value ∈ container.children := by
  cases stores with
  | item stored => exact stored
  | property stored => exact mem_storedValues_iff.mpr ⟨_, stored⟩

namespace Heap.Place

variable {around : List ContainerId}

/-- The containers around a container are a path that leads to it. -/
theorem isChain (place : heap.Place root around key (.ref id)) :
    List.IsChain heap.Holds (root :: (around ++ [id])) := by
  generalize is : Value.ref id = value at place
  induction place generalizing id with
  | property opened stored =>
      subst is
      have step := (holds_iff_of_inspect? opened).mpr (mem_storedValues_iff.mpr ⟨_, stored⟩)
      exact .cons_cons step (.singleton id)
  | inside place opened stored ih =>
      subst is
      have step := (holds_iff_of_inspect? opened).mpr stored.mem_children
      rw [List.append_assoc]
      apply List.isChain_cons_split.mpr
      exact ⟨ih rfl, .cons_cons step (.singleton id)⟩

/-- Each of the containers around a container leads to it in at least one step. -/
theorem transGen (place : heap.Place root around key (.ref id)) {outer : ContainerId}
    (isAround : outer ∈ root :: around) : Relation.TransGen heap.Holds outer id := by
  have chain : List.IsChain (Relation.TransGen heap.Holds) ((root :: around) ++ [id]) :=
    place.isChain.imp fun _ _ => .single
  exact (List.pairwise_append.mp chain.pairwise).2.2 outer isAround id List.mem_cons_self

/-- The object reaches whatever stands below it. -/
theorem reaches (place : heap.Place root around key (.ref id)) : heap.Reaches root id :=
  (place.transGen List.mem_cons_self).to_reflTransGen

end Heap.Place

end HtmlTemplate.Host
