/-
# Paths through the caller's data

A container holds another when a reference to it is among the values stored in it: an item
of a list, or the value of a property. Paths follow this relation and nothing else. They
lead through locked containers and instances of classes too, so what can be reached is a
fact about the heap and does not depend on who may look into it.
-/

import HtmlTemplate.Host.Heap
import Mathlib.Data.List.Chain
import Mathlib.Logic.Relation

namespace HtmlTemplate.Host

/-- The values that properties hold, in order. -/
def storedValues (entries : List (PropertyKey × Property)) : List Value :=
  entries.filterMap fun entry =>
    match entry.2 with
    | .data value => some value
    | .accessor => none

@[simp]
theorem storedValues_cons_data (key : PropertyKey) (value : Value)
    (rest : List (PropertyKey × Property)) :
    storedValues ((key, .data value) :: rest) = value :: storedValues rest := rfl

@[simp]
theorem children_object (cls : ObjectClass) (props : Data.OrderedMap PropertyKey Property) :
    (Container.object cls props).children = storedValues props.entries := rfl

namespace Heap

variable {heap : Heap} {outer inner id : ContainerId} {container : Container}

/-- A reference to the inner container is stored in the outer one. -/
def Holds (heap : Heap) (outer inner : ContainerId) : Prop :=
  ∃ cell, heap.cell? outer = some cell ∧ .ref inner ∈ cell.container.children

/-- Some number of steps, possibly none, leads from the first container to the second. -/
def Reaches (heap : Heap) : ContainerId → ContainerId → Prop :=
  Relation.ReflTransGen heap.Holds

/-- A value leads to what its container reaches; a primitive value leads nowhere. -/
def LeadsTo (heap : Heap) (value : Value) (id : ContainerId) : Prop :=
  ∃ first, value = .ref first ∧ heap.Reaches first id

/-- A path starts at the container of a value and goes on through stored references. -/
def IsPath (heap : Heap) (value : Value) : List ContainerId → Prop
  | [] => True
  | first :: rest => value = .ref first ∧ List.IsChain heap.Holds (first :: rest)

/-- To look into a container is to see its cell, which is not locked. -/
theorem inspect?_eq_some_iff :
    heap.inspect? id = some container ↔ heap.cell? id = some ⟨container, false⟩ := by
  unfold inspect?
  split
  · rename_i found seen
    simp [seen]
  · rename_i other
    constructor
    · intro h
      cases h
    · intro h
      exact absurd h (other container)

/-- An open container holds exactly the references among its children. -/
theorem holds_iff_of_inspect? (opened : heap.inspect? outer = some container) :
    heap.Holds outer inner ↔ .ref inner ∈ container.children := by
  simp [Holds, inspect?_eq_some_iff.mp opened]

/-- What a child leads to can be reached from the container around it. -/
theorem reaches_of_child (opened : heap.inspect? outer = some container) {child : Value}
    (stored : child ∈ container.children) (leads : heap.LeadsTo child id) :
    heap.Reaches outer id := by
  obtain ⟨first, rfl, reached⟩ := leads
  exact .head ((holds_iff_of_inspect? opened).mpr stored) reached

/-- Whatever a container reaches is itself or is led to by one of its children. -/
theorem reaches_iff_of_inspect? (opened : heap.inspect? outer = some container) :
    heap.Reaches outer id ↔
      id = outer ∨ ∃ child ∈ container.children, heap.LeadsTo child id := by
  constructor
  · intro reached
    obtain same | ⟨first, step, rest⟩ := Relation.ReflTransGen.cases_head reached
    · exact .inl same.symm
    · exact .inr ⟨.ref first, (holds_iff_of_inspect? opened).mp step, first, rfl, rest⟩
  · rintro (rfl | ⟨child, stored, leads⟩)
    · exact .refl
    · exact reaches_of_child opened stored leads

/-- A container reaches itself in at least one step exactly when a child leads back. -/
theorem transGen_self_iff (opened : heap.inspect? outer = some container) :
    Relation.TransGen heap.Holds outer outer ↔
      ∃ child ∈ container.children, heap.LeadsTo child outer := by
  rw [Relation.TransGen.head'_iff]
  constructor
  · rintro ⟨first, step, rest⟩
    exact ⟨.ref first, (holds_iff_of_inspect? opened).mp step, first, rfl, rest⟩
  · rintro ⟨child, stored, first, rfl, rest⟩
    exact ⟨first, (holds_iff_of_inspect? opened).mpr stored, rest⟩

/-- A path from a reference is empty, or its container followed by a path from a child. -/
theorem isPath_cons_iff (opened : heap.inspect? outer = some container)
    (path : List ContainerId) :
    heap.IsPath (.ref outer) (outer :: path) ↔
      path = [] ∨ ∃ child ∈ container.children, heap.IsPath child path := by
  cases path with
  | nil => simp [IsPath]
  | cons next rest =>
      simp only [IsPath, List.isChain_cons_cons, true_and, reduceCtorEq, false_or]
      constructor
      · rintro ⟨step, chain⟩
        exact ⟨.ref next, (holds_iff_of_inspect? opened).mp step, rfl, chain⟩
      · rintro ⟨child, stored, rfl, chain⟩
        exact ⟨(holds_iff_of_inspect? opened).mpr stored, chain⟩

end Heap

end HtmlTemplate.Host
