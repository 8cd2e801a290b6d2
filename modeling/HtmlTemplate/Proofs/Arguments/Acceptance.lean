/-
# Which arguments are accepted

Arguments are accepted exactly when they are an acceptable object. The proof goes by the
plain unfolding, whose success at a place is a condition on what the value there leads to.
The condition on a container splits into conditions on its children, with one place less to
nest in and the container itself among those around them.
-/

import HtmlTemplate.Proofs.Host.Acceptable
import HtmlTemplate.Proofs.Arguments.Agreement

namespace HtmlTemplate.Arguments

open Host Render

variable {α β : Type}

/-- What has to hold of a value at a place inside the containers `above` with room for `room`
more: the condition on arguments, as far as it concerns what the value leads to. -/
structure Admits (heap : Heap) (room : Nat) (above : List ContainerId) (value : Host.Value) :
    Prop where
  data : value.IsData
  opened : ∀ id, heap.LeadsTo value id → ∃ container, heap.inspect? id = some container ∧
    container.IsPlain ∧ ∀ child ∈ container.children, child.IsData
  outside : ∀ id, heap.LeadsTo value id → id ∉ above
  acyclic : ∀ id, heap.LeadsTo value id → ¬ Relation.TransGen heap.Holds id id
  shallow : ∀ path, heap.IsPath value path → path.length ≤ room

section Steps

variable {heap : Heap} {room : Nat} {above : List ContainerId} {id : ContainerId}
  {container : Container}

/-- A primitive value leads nowhere, so only the value itself matters. -/
theorem admits_iff_isData {value : Host.Value} (notRef : ∀ id, value ≠ .ref id) :
    Admits heap room above value ↔ value.IsData := by
  have nowhere (id : ContainerId) : ¬ heap.LeadsTo value id := by
    rintro ⟨first, rfl, _⟩
    exact notRef first rfl
  refine ⟨Admits.data, fun data => ⟨data, ?_, ?_, ?_, ?_⟩⟩
  · exact fun id leads => absurd leads (nowhere id)
  · exact fun id leads => absurd leads (nowhere id)
  · exact fun id leads => absurd leads (nowhere id)
  · intro path isPath
    cases path with
    | nil => exact Nat.zero_le room
    | cons first rest => exact absurd isPath.1 (notRef first)

/-- The condition on a container in terms of the conditions on its children. -/
theorem admits_ref_iff (opened : heap.inspect? id = some container) :
    Admits heap (room + 1) above (.ref id) ↔
      id ∉ above ∧ container.IsPlain ∧
        ∀ child ∈ container.children, Admits heap room (id :: above) child := by
  have here : heap.LeadsTo (.ref id) id := ⟨id, rfl, .refl⟩
  have below {child : Host.Value} (stored : child ∈ container.children) {inner : ContainerId}
      (leads : heap.LeadsTo child inner) : heap.LeadsTo (.ref id) inner :=
    ⟨id, rfl, Heap.reaches_of_child opened stored leads⟩
  constructor
  · intro admits
    obtain ⟨same, sameOpened, plain, data⟩ := admits.opened id here
    obtain rfl := Option.some.inj (opened.symm.trans sameOpened)
    refine ⟨admits.outside id here, plain, fun child stored => ⟨data child stored, ?_, ?_, ?_, ?_⟩⟩
    · exact fun inner leads => admits.opened inner (below stored leads)
    · intro inner leads back
      obtain rfl | aboveIt := List.mem_cons.mp back
      · exact admits.acyclic inner here
          ((Heap.transGen_self_iff opened).mpr ⟨child, stored, leads⟩)
      · exact admits.outside inner (below stored leads) aboveIt
    · exact fun inner leads => admits.acyclic inner (below stored leads)
    · intro path isPath
      have longer := admits.shallow (id :: path)
        ((Heap.isPath_cons_iff opened path).mpr (.inr ⟨child, stored, isPath⟩))
      exact Nat.le_of_succ_le_succ longer
  · rintro ⟨outside, plain, children⟩
    have reached {inner : ContainerId} (leads : heap.LeadsTo (.ref id) inner) :
        inner = id ∨ ∃ child ∈ container.children, heap.LeadsTo child inner := by
      obtain ⟨first, ⟨⟩, reaches⟩ := leads
      exact (Heap.reaches_iff_of_inspect? opened).mp reaches
    refine ⟨trivial, ?_, ?_, ?_, ?_⟩
    · intro inner leads
      obtain rfl | ⟨child, stored, leads⟩ := reached leads
      · exact ⟨container, opened, plain, fun child stored => (children child stored).data⟩
      · exact (children child stored).opened inner leads
    · intro inner leads
      obtain rfl | ⟨child, stored, leads⟩ := reached leads
      · exact outside
      · exact fun aboveIt =>
          (children child stored).outside inner leads (List.mem_cons_of_mem id aboveIt)
    · intro inner leads
      obtain rfl | ⟨child, stored, leads⟩ := reached leads
      · intro cycle
        obtain ⟨child, stored, back⟩ := (Heap.transGen_self_iff opened).mp cycle
        exact (children child stored).outside inner back List.mem_cons_self
      · exact (children child stored).acyclic inner leads
    · intro path isPath
      cases path with
      | nil => exact Nat.zero_le _
      | cons first rest =>
          obtain ⟨⟩ := isPath.1
          obtain rfl | ⟨child, stored, isPath⟩ := (Heap.isPath_cons_iff opened rest).mp isPath
          · exact Nat.succ_le_succ (Nat.zero_le room)
          · exact Nat.succ_le_succ ((children child stored).shallow rest isPath)

/-- Without room there is no place for a container. -/
theorem not_admits_of_no_room : ¬ Admits heap 0 above (.ref id) := fun admits =>
  absurd (admits.shallow [id] ⟨rfl, .singleton id⟩) (Nat.not_succ_le_zero 0)

end Steps

section Unfolding

variable {unfold : String → Host.Value → Except Cause Value} {good : Host.Value → Prop}

/-- A list is unfolded exactly when each of its items is. -/
theorem mapM_ok_iff (f : α → Except Cause β) (items : List α) :
    (∃ results, items.mapM f = .ok results) ↔ ∀ item ∈ items, ∃ result, f item = .ok result := by
  induction items with
  | nil => exact ⟨fun _ item stored => absurd stored List.not_mem_nil, fun _ => ⟨[], rfl⟩⟩
  | cons item rest ih =>
      rw [List.mapM_cons, List.forall_mem_cons, ← ih]
      cases f item with
      | error cause => simp [bind, Except.bind]
      | ok result => cases rest.mapM f <;> simp [bind, Except.bind, pure, Except.pure]

/-- A property is unfolded exactly when it is a good value under a string name. -/
theorem unfoldProperty_ok_iff
    (each : ∀ key value, (∃ tree, unfold key value = .ok tree) ↔ good value)
    (entry : PropertyKey × Property) :
    (∃ field, unfoldProperty unfold entry = .ok field) ↔
      ∃ name value, entry = (.name name, .data value) ∧ good value := by
  match entry with
  | (.symbol description, property) => simp [unfoldProperty]
  | (.name name, .accessor) => simp [unfoldProperty]
  | (.name name, .data value) =>
      have value_iff := each name value
      cases unfolded : unfold name value with
      | error cause => simp_all [unfoldProperty, bind, Except.bind]
      | ok tree => simp_all [unfoldProperty, bind, Except.bind, pure, Except.pure]

/-- Properties are unfolded exactly when all are good values under string names. -/
theorem unfoldProperties_ok_iff
    (each : ∀ key value, (∃ tree, unfold key value = .ok tree) ↔ good value)
    (entries : List (PropertyKey × Property)) :
    (∃ fields, entries.mapM (unfoldProperty unfold) = .ok fields) ↔
      NamesData entries ∧ ∀ value ∈ storedValues entries, good value := by
  rw [mapM_ok_iff]
  constructor
  · intro unfolds
    refine ⟨fun entry stored => ?_, fun value stored => ?_⟩
    · obtain ⟨name, value, named, _⟩ := (unfoldProperty_ok_iff each entry).mp (unfolds entry stored)
      exact ⟨name, value, named⟩
    · obtain ⟨⟨key, property⟩, stored, holds⟩ := List.mem_filterMap.mp stored
      obtain ⟨name, value, ⟨⟩, isGood⟩ := (unfoldProperty_ok_iff each _).mp (unfolds _ stored)
      obtain rfl := Option.some.inj holds
      exact isGood
  · rintro ⟨named, good⟩ entry stored
    obtain ⟨name, value, rfl⟩ := named entry stored
    refine (unfoldProperty_ok_iff each _).mpr ⟨name, value, rfl, good value ?_⟩
    exact List.mem_filterMap.mpr ⟨_, stored, rfl⟩

/-- A container is unfolded exactly when it is plain and all its children are good. -/
theorem unfoldContainer_ok_iff
    (each : ∀ key value, (∃ tree, unfold key value = .ok tree) ↔ good value) (key : String)
    (container : Container) :
    (∃ tree, unfoldContainer unfold key container = .ok tree) ↔
      container.IsPlain ∧ ∀ child ∈ container.children, good child := by
  match container with
  | .array items =>
      have items_iff : (∃ trees, items.mapM (unfold key) = .ok trees) ↔
          ∀ item ∈ items, good item := by
        rw [mapM_ok_iff]
        exact forall₂_congr fun item _ => each key item
      cases unfolded : items.mapM (unfold key) <;>
        simp_all [unfoldContainer, bind, Except.bind, pure, Except.pure, Container.IsPlain,
          Container.children]
  | .object (.named cls) props => simp [unfoldContainer, Container.IsPlain]
  | .object .plain props =>
      have props_iff := unfoldProperties_ok_iff each props.entries
      cases unfolded : props.entries.mapM (unfoldProperty unfold) <;>
        simp_all [unfoldContainer, bind, Except.bind, pure, Except.pure, Container.IsPlain]

end Unfolding

/-- A value is unfolded exactly when its place admits it, whatever key it is reported under. -/
theorem unfoldValue_ok_iff (heap : Heap) (room : Nat) (above : List ContainerId) (key : String)
    (value : Host.Value) :
    (∃ tree, unfoldValue heap room above key value = .ok tree) ↔
      Admits heap room above value := by
  induction room using Nat.strong_induction_on generalizing above key value with
  | _ room ih =>
      cases value with
      | undefined | bigint value | symbol description | function name =>
          rw [unfoldValue, admits_iff_isData fun id => by rintro ⟨⟩]
          simp [Value.IsData]
      | null | bool value | number value | string value =>
          rw [unfoldValue, admits_iff_isData fun id => by rintro ⟨⟩]
          simp [Value.IsData]
      | ref id =>
          have here : heap.LeadsTo (.ref id) id := ⟨id, rfl, .refl⟩
          rw [unfoldValue_ref]
          by_cases outside : id ∈ above
          · have refused : ¬ Admits heap room above (.ref id) := fun admits =>
              admits.outside id here outside
            simp [outside, refused]
          rw [if_neg outside]
          cases room with
          | zero => simp [not_admits_of_no_room]
          | succ room =>
              cases opened : heap.inspect? id with
              | none =>
                  have refused : ¬ Admits heap (room + 1) above (.ref id) := fun admits => by
                    obtain ⟨container, seen, _⟩ := admits.opened id here
                    cases opened.symm.trans seen
                  simp [refused]
              | some container =>
                  have inside := unfoldContainer_ok_iff
                    (ih room (Nat.lt_succ_self room) (id :: above)) key container
                  rw [admits_ref_iff opened]
                  exact inside.trans ⟨fun both => ⟨outside, both⟩, And.right⟩

/-- The properties of the arguments are there to be read exactly when they are a plain object
that nobody holds. -/
theorem argumentProperties_eq_ok_iff {heap : Heap} {arguments : Host.Value} {id : ContainerId}
    {entries : List (PropertyKey × Property)} :
    argumentProperties heap arguments = .ok (id, entries) ↔
      arguments = .ref id ∧
        ∃ props, heap.inspect? id = some (.object .plain props) ∧ entries = props.entries := by
  cases arguments with
  | ref root =>
      have notArray {props : Data.OrderedMap PropertyKey Property}
          (opened : heap.inspect? root = some (.object .plain props)) :
          heap.isArray root = false := by
        rw [Heap.isArray, Heap.inspect?_eq_some_iff.mp opened]
        rfl
      constructor
      · intro read
        unfold argumentProperties at read
        dsimp only at read
        split at read
        · cases read
        · split at read
          · rename_i props opened
            obtain ⟨⟩ := read
            exact ⟨rfl, props, opened, rfl⟩
          · cases read
          · cases read
      · rintro ⟨⟨⟩, props, opened, rfl⟩
        simp [argumentProperties, notArray opened, opened]
  | _ => simp [argumentProperties]

/-- An object is acceptable exactly when its properties are named data whose places admit them. -/
theorem acceptable_iff {heap : Heap} {root : ContainerId} :
    heap.Acceptable root ↔
      (∃ props, heap.inspect? root = some (.object .plain props)) ∧
        Admits heap (maxNestingDepth + 1) [] (.ref root) := by
  have reached {id : ContainerId} : heap.LeadsTo (.ref root) id ↔ heap.Reaches root id := by
    constructor
    · rintro ⟨first, ⟨⟩, reaches⟩
      exact reaches
    · exact fun reaches => ⟨root, rfl, reaches⟩
  constructor
  · intro acceptable
    refine ⟨acceptable.isObject, trivial, ?_, ?_, ?_, ?_⟩
    · intro id leads
      obtain ⟨container, opened⟩ := acceptable.unlocked id (reached.mp leads)
      exact ⟨container, opened, acceptable.plain id container (reached.mp leads) opened,
        acceptable.data id container (reached.mp leads) opened⟩
    · exact fun id _ => List.not_mem_nil
    · exact fun id leads => acceptable.acyclic id (reached.mp leads)
    · intro path isPath
      cases path with
      | nil => exact Nat.zero_le _
      | cons first rest =>
          obtain ⟨⟩ := isPath.1
          exact Nat.succ_le_succ (acceptable.shallow rest isPath.2)
  · rintro ⟨isObject, admits⟩
    constructor
    case isObject => exact isObject
    case unlocked =>
      intro id reaches
      obtain ⟨container, opened, _⟩ := admits.opened id (reached.mpr reaches)
      exact ⟨container, opened⟩
    case plain =>
      intro id container reaches opened
      obtain ⟨same, seen, plain, _⟩ := admits.opened id (reached.mpr reaches)
      obtain rfl := Option.some.inj (seen.symm.trans opened)
      exact plain
    case data =>
      intro id container reaches opened
      obtain ⟨same, seen, _, data⟩ := admits.opened id (reached.mpr reaches)
      obtain rfl := Option.some.inj (seen.symm.trans opened)
      exact data
    case acyclic => exact fun id reaches => admits.acyclic id (reached.mpr reaches)
    case shallow =>
      exact fun path chain => Nat.le_of_succ_le_succ (admits.shallow (root :: path) ⟨rfl, chain⟩)

/-- Arguments are unfolded exactly when they are an acceptable object. -/
theorem unfold_ok_iff (heap : Heap) (arguments : Host.Value) :
    (∃ trees, unfold heap arguments = .ok trees) ↔
      ∃ root, arguments = .ref root ∧ heap.Acceptable root := by
  have below (id : ContainerId) (props : Data.OrderedMap PropertyKey Property)
      (opened : heap.inspect? id = some (.object .plain props)) :
      (∃ trees, props.entries.mapM (unfoldProperty (unfoldValue heap maxNestingDepth [id])) =
        .ok trees) ↔ heap.Acceptable id := by
    rw [unfoldProperties_ok_iff fun key value => unfoldValue_ok_iff heap _ [id] key value,
      acceptable_iff, admits_ref_iff opened]
    exact ⟨fun both => ⟨⟨props, opened⟩, List.not_mem_nil, ⟨rfl, both.1⟩, both.2⟩,
      fun accepted => ⟨accepted.2.2.1.2, accepted.2.2.2⟩⟩
  constructor
  · rintro ⟨trees, unfolded⟩
    cases read : argumentProperties heap arguments with
    | error cause =>
        rw [unfold, read] at unfolded
        cases unfolded
    | ok found =>
        obtain ⟨id, entries⟩ := found
        obtain ⟨rfl, props, opened, rfl⟩ := argumentProperties_eq_ok_iff.mp read
        rw [unfold, read] at unfolded
        exact ⟨id, rfl, (below id props opened).mp ⟨trees, unfolded⟩⟩
  · rintro ⟨root, rfl, acceptable⟩
    obtain ⟨props, opened⟩ := acceptable.isObject
    have read := argumentProperties_eq_ok_iff.mpr
      ⟨rfl, props, opened, rfl⟩
    obtain ⟨trees, unfolded⟩ := (below root props opened).mpr acceptable
    exact ⟨trees, by rw [unfold, read]; exact unfolded⟩

/-- Acceptance is exactly a condition on the heap as a graph: the conversion gives a result
if and only if the arguments are an acceptable object. So the verdict is the same on every
heap in which only the order of items and properties differs. -/
theorem convert_ok_iff_acceptable (heap : Heap) (arguments : Host.Value) :
    ((∃ graph, convert heap arguments = .ok graph) ↔
        ∃ root, arguments = .ref root ∧ heap.Acceptable root) ∧
      ∀ other, heap.Reorders other →
        ((∃ graph, convert heap arguments = .ok graph) ↔
          ∃ graph, convert other arguments = .ok graph) := by
  have exact (heap : Heap) : (∃ graph, convert heap arguments = .ok graph) ↔
      ∃ root, arguments = .ref root ∧ heap.Acceptable root := by
    rw [convert_ok_iff_unfold_ok, unfold_ok_iff]
  refine ⟨exact heap, fun other reorders => ?_⟩
  rw [exact heap, exact other]
  exact exists_congr fun root => and_congr_right fun _ =>
    ⟨Heap.Acceptable.reorder reorders, Heap.Acceptable.reorder reorders.symm⟩

end HtmlTemplate.Arguments
