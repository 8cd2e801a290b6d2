/-
# Acceptable objects

An object may be passed as arguments when everything below it is open plain data, no
container lies inside itself, and no path goes through more containers than the limit
allows. The condition speaks of the heap as a graph. It names no order in which items or
properties are visited and no table of what was finished, so neither can matter; that the
order does not is stated as a theorem.

A path counts a shared container each time it leads through one. Since paths may be as long
as they like, the bound alone would exclude cycles; both are stated, for a caller is told
of them separately.
-/

import HtmlTemplate.Proofs.Host.Paths
import HtmlTemplate.Host.Describe

namespace HtmlTemplate.Host

/-- Whether a value, taken for itself, is data that a template can show. -/
def Value.IsData : Value → Prop
  | .undefined | .bigint _ | .symbol _ | .function _ => False
  | .null | .bool _ | .number _ | .string _ | .ref _ => True

/-- Whether every property is a stored value under a string name. -/
def NamesData (entries : List (PropertyKey × Property)) : Prop :=
  ∀ entry ∈ entries, ∃ name value, entry = (.name name, .data value)

/-- Whether a container, taken for itself, is plain: a list, or a plain object whose
properties are stored values under string names. -/
def Container.IsPlain : Container → Prop
  | .array _ => True
  | .object cls props => cls = .plain ∧ NamesData props.entries

/-- What makes an object acceptable as arguments. A reference that leads nowhere, which no
caller can have, counts as locked. -/
structure Heap.Acceptable (heap : Heap) (root : ContainerId) : Prop where
  isObject : ∃ props, heap.inspect? root = some (.object .plain props)
  unlocked : ∀ id, heap.Reaches root id → ∃ container, heap.inspect? id = some container
  plain : ∀ id container, heap.Reaches root id → heap.inspect? id = some container →
    container.IsPlain
  data : ∀ id container, heap.Reaches root id → heap.inspect? id = some container →
    ∀ value ∈ container.children, value.IsData
  acyclic : ∀ id, heap.Reaches root id → ¬ Relation.TransGen heap.Holds id id
  shallow : ∀ path, List.IsChain heap.Holds (root :: path) → path.length ≤ maxNestingDepth

/-- The same contents in another order. -/
inductive Container.Reorders : Container → Container → Prop where
  | array {items others : List Value} (same : items.Perm others) :
      Reorders (.array items) (.array others)
  | object {cls : ObjectClass} {props others : Data.OrderedMap PropertyKey Property}
      (same : props.entries.Perm others.entries) :
      Reorders (.object cls props) (.object cls others)

namespace Container.Reorders

variable {container other : Container}

theorem symm (reorders : container.Reorders other) : other.Reorders container := by
  cases reorders with
  | array same => exact .array same.symm
  | object same => exact .object same.symm

theorem mem_children_iff (reorders : container.Reorders other) (value : Value) :
    value ∈ container.children ↔ value ∈ other.children := by
  cases reorders with
  | array same => exact same.mem_iff
  | object same => exact (same.filterMap _).mem_iff

theorem isPlain (reorders : container.Reorders other) (plain : container.IsPlain) :
    other.IsPlain := by
  cases reorders with
  | array same => trivial
  | object same => exact ⟨plain.1, fun entry stored => plain.2 entry (same.mem_iff.mpr stored)⟩

end Container.Reorders

/-- The same containers with the same locks, each with its contents in some order. -/
def Heap.Reorders (heap other : Heap) : Prop :=
  ∀ id, Option.Rel (fun cell cell' =>
    cell.locked = cell'.locked ∧ cell.container.Reorders cell'.container)
      (heap.cell? id) (other.cell? id)

namespace Heap.Reorders

variable {heap other : Heap} {id : ContainerId}

theorem symm (reorders : heap.Reorders other) : other.Reorders heap := by
  intro id
  have here := reorders id
  revert here
  cases heap.cell? id <;> cases other.cell? id <;> rintro ⟨⟩
  · exact .none
  · rename_i both
    exact .some ⟨both.1.symm, both.2.symm⟩

theorem exists_inspect? (reorders : heap.Reorders other) {container : Container}
    (opened : heap.inspect? id = some container) :
    ∃ container', other.inspect? id = some container' ∧ container.Reorders container' := by
  have here := reorders id
  rw [inspect?_eq_some_iff.mp opened] at here
  cases found : other.cell? id with
  | none =>
      rw [found] at here
      cases here
  | some cell =>
      rw [found] at here
      obtain ⟨unlocked, contents⟩ := here
      have seen : other.cell? id = some ⟨cell.container, false⟩ := by
        rw [found, show false = cell.locked from unlocked]
      exact ⟨cell.container, inspect?_eq_some_iff.mpr seen, contents⟩

theorem holds_of_holds (reorders : heap.Reorders other) {outer inner : ContainerId}
    (holds : heap.Holds outer inner) : other.Holds outer inner := by
  obtain ⟨cell, found, stored⟩ := holds
  have here := reorders outer
  rw [found] at here
  cases foundOther : other.cell? outer with
  | none =>
      rw [foundOther] at here
      cases here
  | some cell' =>
      rw [foundOther] at here
      obtain ⟨_, contents⟩ := here
      exact ⟨cell', foundOther, (contents.mem_children_iff _).mp stored⟩

/-- The order of contents has no part in the graph. -/
theorem holds_eq (reorders : heap.Reorders other) : heap.Holds = other.Holds := by
  funext outer inner
  exact propext ⟨reorders.holds_of_holds, reorders.symm.holds_of_holds⟩

end Heap.Reorders

/-- An acceptable object is acceptable in whatever order things are stored. -/
theorem Heap.Acceptable.reorder {heap other : Heap} {root : ContainerId}
    (reorders : heap.Reorders other) (acceptable : heap.Acceptable root) :
    other.Acceptable root := by
  have sameReach : other.Reaches root = heap.Reaches root := by
    rw [Heap.Reaches, Heap.Reaches, reorders.holds_eq]
  constructor
  case isObject =>
    obtain ⟨props, opened⟩ := acceptable.isObject
    obtain ⟨container, openedOther, contents⟩ := reorders.exists_inspect? opened
    cases contents with
    | object same => exact ⟨_, openedOther⟩
  case unlocked =>
    intro id reaches
    rw [sameReach] at reaches
    obtain ⟨container, opened⟩ := acceptable.unlocked id reaches
    obtain ⟨container', openedOther, _⟩ := reorders.exists_inspect? opened
    exact ⟨container', openedOther⟩
  case plain =>
    intro id container reaches opened
    rw [sameReach] at reaches
    obtain ⟨original, openedFirst, contents⟩ := reorders.symm.exists_inspect? opened
    exact contents.symm.isPlain (acceptable.plain id original reaches openedFirst)
  case data =>
    intro id container reaches opened value stored
    rw [sameReach] at reaches
    obtain ⟨original, openedFirst, contents⟩ := reorders.symm.exists_inspect? opened
    exact acceptable.data id original reaches openedFirst value
      ((contents.mem_children_iff value).mp stored)
  case acyclic =>
    intro id reaches
    rw [sameReach] at reaches
    rw [← reorders.holds_eq]
    exact acceptable.acyclic id reaches
  case shallow =>
    intro path chain
    rw [← reorders.holds_eq] at chain
    exact acceptable.shallow path chain

end HtmlTemplate.Host
