/-
# Every refusal has its grounds

When arguments are refused, something is wrong with them, and it is what the report says.
This is stated of the heap as a graph: a report of a cycle comes with a container that leads
back to itself, a report of deep nesting with a path that is too long, every other report
with the container or the value that it is about. In particular nothing is refused for
being shared.

The conversion carries a stack, a table and a room for more containers, and each report is
made from these. While a value is converted, the stack holds exactly the containers around
its place and the room is what they leave of the limit. The one report that speaks of
containers that are not being walked is that of a finished container for which there is no
room: its height was taken when it was finished, and some path below it is as long.
-/

import HtmlTemplate.Proofs.Host.Places
import HtmlTemplate.Proofs.Arguments.Acceptance
import HtmlTemplate.Proofs.Arguments.Copies
import HtmlTemplate.Render.Template

namespace HtmlTemplate.Arguments

open Host Render

variable {α β : Type}

/-- What is wrong below the object `root` when its conversion reports this. A path that is too long
may go on below the container that is reported, and the name is that of the container's place. -/
def GroundsBelow (heap : Heap) (root : ContainerId) : Cause → Prop
  | .cyclicReference => ∃ id, heap.Reaches root id ∧ Relation.TransGen heap.Holds id id
  | .nestingTooDeep key limit =>
      limit = maxNestingDepth ∧ ∃ around id deeper, heap.Place root around key (.ref id) ∧
        List.IsChain heap.Holds (root :: (around ++ id :: deeper)) ∧
          maxNestingDepth < (around ++ id :: deeper).length
  | .uninspectable key => ∃ around id, heap.Place root around key (.ref id) ∧ heap.IsLocked id
  | .invalidArgument key message =>
      .invalidArgument key message = Cause.accessorProperty key ∧
        ∃ id props, heap.Reaches root id ∧ heap.inspect? id = some (.object .plain props) ∧
          (.name key, .accessor) ∈ props.entries
  | .invalidKey key =>
      ∃ id props description property, heap.Reaches root id ∧
        heap.inspect? id = some (.object .plain props) ∧
          (.symbol description, property) ∈ props.entries ∧
            key = (PropertyKey.symbol description).display
  | .invalidValue key typeName note =>
      (∃ around value, heap.Place root around key value ∧ ¬ value.IsData ∧
          heap.typeName? value = some typeName ∧ note = none) ∨
        ∃ around id props, heap.Place root around key (.ref id) ∧
          heap.inspect? id = some (.object (.named typeName) props) ∧ note = some plainObjectNote
  | .invalidArguments _ | .missingArgument _ => False

/-- Whether a value is a plain object, held or not. -/
def IsPlainObject (heap : Heap) (value : Host.Value) : Prop :=
  ∃ id cell props, value = .ref id ∧ heap.cell? id = some cell ∧
    cell.container = .object .plain props

/-- What is wrong with arguments that are refused with this report. -/
def Grounds (heap : Heap) (arguments : Host.Value) : Cause → Prop
  | .invalidArguments payload =>
      payload = describe heap arguments ∧ ¬ IsPlainObject heap arguments
  | cause =>
      ∃ root, arguments = .ref root ∧
        (heap.IsLocked root ∧ cause = .uninspectable argumentsName ∨ GroundsBelow heap root cause)

/-- What is wrong with the properties of a plain object, whatever values they have. -/
inductive PropertyFault (entries : List (PropertyKey × Property)) : Cause → Prop where
  | accessor {name : String} (stored : (.name name, .accessor) ∈ entries) :
      PropertyFault entries (.accessorProperty name)
  | symbolKey {description : String} {property : Property}
      (stored : (.symbol description, property) ∈ entries) :
      PropertyFault entries (.invalidKey (PropertyKey.symbol description).display)

/-- The report comes from the conversion of this value, in some state with this stack. -/
def RefusedAt (heap : Heap) (room : Nat) (stack : List ContainerId) (key : String)
    (value : Host.Value) (cause : Cause) : Prop :=
  ∃ before : Progress, before.Valid heap ∧ before.onStack = stack ∧
    (convertValue heap room key value).run before = .error cause

section Refusals

variable {heap : Heap} {room : Nat} {key : String} {before : Progress} {cause : Cause}

/-- Of two steps the first fails, or it succeeds and the second fails. -/
theorem run_bind_eq_error {first : Conversion α} {next : α → Conversion β}
    (run : (first >>= next).run before = .error cause) :
    first.run before = .error cause ∨
      ∃ a middle, first.run before = .ok (a, middle) ∧ (next a).run middle = .error cause := by
  rw [StateT.run_bind] at run
  cases here : first.run before with
  | error other =>
      rw [here] at run
      cases run
      exact .inl rfl
  | ok found =>
      rw [here] at run
      exact .inr ⟨found.1, found.2, rfl, run⟩

/-- A list is refused because of one of its items. -/
theorem refusedAt_of_convertItems {items : List Host.Value} (valid : before.Valid heap)
    (run : (convertItems (convertValue heap room key) items).run before = .error cause) :
    ∃ item ∈ items, RefusedAt heap room before.onStack key item cause := by
  induction items generalizing before with
  | nil => cases run
  | cons item rest ih =>
      rcases run_bind_eq_error run with here | ⟨done, middle, first, run⟩
      · exact ⟨item, List.mem_cons_self, before, valid, rfl, here⟩
      · obtain ⟨tree, finishes⟩ := convertValue_finishes valid first
        rcases run_bind_eq_error run with later | ⟨_, _, _, run⟩
        · obtain ⟨other, stored, refused⟩ := ih finishes.valid later
          rw [finishes.step.onStack] at refused
          exact ⟨other, List.mem_cons_of_mem item stored, refused⟩
        · cases run

/-- A plain object is refused because of a property, or because of the value of one. -/
theorem refusedAt_of_convertProperties {entries : List (PropertyKey × Property)}
    (valid : before.Valid heap)
    (run : (convertProperties (convertValue heap room) entries).run before = .error cause) :
    PropertyFault entries cause ∨ ∃ name value, (.name name, .data value) ∈ entries ∧
      RefusedAt heap room before.onStack name value cause := by
  induction entries generalizing before with
  | nil => cases run
  | cons entry rest ih =>
      match entry with
      | (.symbol description, property) =>
          cases run
          exact .inl (.symbolKey List.mem_cons_self)
      | (.name name, .accessor) =>
          cases run
          exact .inl (.accessor List.mem_cons_self)
      | (.name name, .data value) =>
          rcases run_bind_eq_error run with here | ⟨done, middle, first, run⟩
          · exact .inr ⟨name, value, List.mem_cons_self, before, valid, rfl, here⟩
          · obtain ⟨tree, finishes⟩ := convertValue_finishes valid first
            rcases run_bind_eq_error run with later | ⟨_, _, _, run⟩
            · rcases ih finishes.valid later with fault | ⟨other, stored, mem, refused⟩
              · cases fault with
                | accessor mem => exact .inl (.accessor (List.mem_cons_of_mem _ mem))
                | symbolKey mem => exact .inl (.symbolKey (List.mem_cons_of_mem _ mem))
              · rw [finishes.step.onStack] at refused
                exact .inr ⟨other, stored, List.mem_cons_of_mem _ mem, refused⟩
            · cases run

/-- A container is refused because of a property, for being an instance of a class, or because of
a value that it stores. -/
theorem refusedAt_of_convertContainer {container : Container} (valid : before.Valid heap)
    (run : (convertContainer (convertValue heap room) key container).run before =
      .error cause) :
    (∃ props, container = .object .plain props ∧ PropertyFault props.entries cause) ∨
      (∃ cls props, container = .object (.named cls) props ∧
        cause = .invalidValue key cls (some plainObjectNote)) ∨
        ∃ name value, container.Stores key name value ∧
          RefusedAt heap room before.onStack name value cause := by
  match container with
  | .array items =>
      rcases run_bind_eq_error run with inside | ⟨_, _, _, run⟩
      · obtain ⟨item, stored, refused⟩ := refusedAt_of_convertItems valid inside
        exact .inr (.inr ⟨key, item, .item stored, refused⟩)
      · cases run
  | .object (.named cls) props =>
      cases run
      exact .inr (.inl ⟨cls, props, rfl, rfl⟩)
  | .object .plain props =>
      rcases run_bind_eq_error run with inside | ⟨_, _, _, run⟩
      · rcases refusedAt_of_convertProperties valid inside with
          fault | ⟨name, value, stored, refused⟩
        · exact .inl ⟨props, rfl, fault⟩
        · exact .inr (.inr ⟨name, value, .property stored, refused⟩)
      · cases run

/-- Why a reference is refused, check by check. -/
inductive RefusesRef (heap : Heap) (room : Nat) (key : String) (id : ContainerId)
    (before : Progress) : Cause → Prop where
  | sharedTooDeep {done : Converted} (found : before.converted[id]? = some done)
      (tooHigh : room < done.height) :
      RefusesRef heap room key id before (.nestingTooDeep key maxNestingDepth)
  | cycle (onStack : id ∈ before.onStack) : RefusesRef heap room key id before .cyclicReference
  | noRoom (full : room = 0) :
      RefusesRef heap room key id before (.nestingTooDeep key maxNestingDepth)
  | locked (shut : heap.inspect? id = none) :
      RefusesRef heap room key id before (.uninspectable key)
  | inside {smaller : Nat} {container : Container} {cause : Cause} (enough : room = smaller + 1)
      (unfinished : id ∉ before.converted) (opened : heap.inspect? id = some container)
      (run : (convertContainer (convertValue heap smaller) key container).run (before.enter id) =
        .error cause) : RefusesRef heap room key id before cause

/-- The checks are all that a reference is refused by. -/
theorem refusesRef_of_convertValue {id : ContainerId}
    (run : (convertValue heap room key (.ref id)).run before = .error cause) :
    RefusesRef heap room key id before cause := by
  rw [run_convertValue_ref] at run
  cases found : before.converted[id]? with
  | some done =>
      rw [found] at run
      dsimp only at run
      by_cases fits : done.height ≤ room
      · rw [if_pos fits] at run
        cases run
      · rw [if_neg fits] at run
        cases run
        exact .sharedTooDeep found (Nat.lt_of_not_le fits)
  | none =>
      rw [found] at run
      dsimp only at run
      by_cases onStack : id ∈ before.onStack
      · rw [if_pos onStack] at run
        cases run
        exact .cycle onStack
      rw [if_neg onStack] at run
      cases room with
      | zero =>
          cases run
          exact .noRoom rfl
      | succ smaller =>
          cases opened : heap.inspect? id with
          | none =>
              rw [opened] at run
              cases run
              exact .locked opened
          | some container =>
              rw [opened] at run
              dsimp only at run
              have unfinished : id ∉ before.converted := fun finished => by
                rw [Std.HashMap.getElem?_eq_some_getElem finished] at found
                cases found
              cases inside : (convertContainer (convertValue heap smaller) key container).run
                (before.enter id) with
              | error other =>
                  rw [inside] at run
                  cases run
                  exact .inside rfl unfinished opened inside
              | ok result =>
                  rw [inside] at run
                  cases run

/-- The height of a finished container is real: below it there is a path that is too long for
any place without room for the height. Without one the value would be admitted, and unfolded,
with less room too. -/
theorem exists_isPath_of_lt_height {value : Host.Value} {done : Converted} {tree : Value}
    (shows : ShowsValue heap before value done tree) (tooHigh : room < done.height) :
    ∃ path, heap.IsPath value path ∧ room < path.length := by
  by_contra allShort
  have fits (room : Nat) :
      FitsIn room done.height tree (unfoldValue heap room [] argumentsName value) :=
    shows.fits room [] argumentsName fun _ _ _ _ => List.not_mem_nil
  have unfolds : unfoldValue heap done.height [] argumentsName value = .ok tree := by
    have atHeight := fits done.height
    rwa [FitsIn, if_pos (Nat.le_refl _)] at atHeight
  have admits : Admits heap done.height [] value :=
    (unfoldValue_ok_iff heap _ [] argumentsName value).mp ⟨tree, unfolds⟩
  have admitsLess : Admits heap room [] value :=
    { admits with
      shallow := fun path isPath => Nat.le_of_not_lt fun long => allShort ⟨path, isPath, long⟩ }
  obtain ⟨other, unfoldsLess⟩ :=
    (unfoldValue_ok_iff heap room [] argumentsName value).mpr admitsLess
  have atRoom := fits room
  rw [FitsIn, if_neg (Nat.not_le_of_lt tooHigh), unfoldsLess] at atRoom
  obtain ⟨deeper, ⟨⟩⟩ := atRoom

end Refusals

section Below

variable {heap : Heap} {root id : ContainerId} {key : String} {cause : Cause}

/-- A property that is not a stored value under a string name is the grounds of its report. -/
theorem groundsBelow_of_propertyFault {props : Data.OrderedMap PropertyKey Property}
    (reaches : heap.Reaches root id) (opened : heap.inspect? id = some (.object .plain props))
    (fault : PropertyFault props.entries cause) : GroundsBelow heap root cause := by
  cases fault with
  | accessor stored => exact ⟨rfl, id, props, reaches, opened, stored⟩
  | symbolKey stored => exact ⟨id, props, _, _, reaches, opened, stored, rfl⟩

/-- A path that goes on below a container is the grounds of a report of deep nesting, if it is
too long. -/
theorem groundsBelow_of_path {around deeper : List ContainerId}
    (place : heap.Place root around key (.ref id))
    (chain : List.IsChain heap.Holds (id :: deeper))
    (long : maxNestingDepth < around.length + (deeper.length + 1)) :
    GroundsBelow heap root (.nestingTooDeep key maxNestingDepth) := by
  refine ⟨rfl, around, id, deeper, place, List.isChain_cons_split.mpr ⟨place.isChain, chain⟩, ?_⟩
  rwa [List.length_append, List.length_cons]

/-- What is wrong below an object is wrong with it as arguments. -/
theorem GroundsBelow.grounds (below : GroundsBelow heap root cause) :
    Grounds heap (.ref root) cause := by
  cases cause with
  | invalidArguments payload => exact below.elim
  | _ => exact ⟨root, rfl, .inr below⟩

/-- Whatever is reported while a value is converted at its place has its grounds below the object,
as long as the stack and the room are those of the place. -/
theorem groundsBelow_of_refusedAt {room : Nat} {around : List ContainerId} {value : Host.Value}
    (place : heap.Place root around key value) (left : room + around.length = maxNestingDepth)
    (refused : RefusedAt heap room (root :: around).reverse key value cause) :
    GroundsBelow heap root cause := by
  induction room using Nat.strong_induction_on generalizing around key value with
  | _ room ih =>
      obtain ⟨before, valid, stack, run⟩ := refused
      cases value with
      | null | bool value | number value | string value =>
          rw [convertValue] at run
          cases run
      | undefined | bigint value | symbol description | function name =>
          rw [convertValue] at run
          cases run
          exact .inl ⟨around, _, place, not_false, rfl, rfl⟩
      | ref id =>
          cases refusesRef_of_convertValue run with
          | cycle onStack =>
              rw [stack, List.mem_reverse] at onStack
              exact ⟨id, place.reaches, place.transGen onStack⟩
          | noRoom full =>
              apply groundsBelow_of_path place (.singleton id)
              rw [List.length_nil]
              omega
          | locked shut => exact ⟨around, id, place, Heap.inspect?_eq_none_iff.mp shut⟩
          | sharedTooDeep found tooHigh =>
              obtain ⟨tree, shows⟩ := valid.shown id _ found
              obtain ⟨path, isPath, long⟩ := exists_isPath_of_lt_height shows tooHigh
              cases path with
              | nil => exact absurd long (Nat.not_lt_zero room)
              | cons first deeper =>
                  obtain ⟨⟨⟩, chain⟩ := isPath
                  apply groundsBelow_of_path place chain
                  rw [List.length_cons] at long
                  omega
          | @inside smaller container _ enough unfinished opened run =>
              rcases refusedAt_of_convertContainer (valid.enter unfinished) run with
                ⟨props, rfl, fault⟩ | ⟨cls, props, rfl, rfl⟩ | ⟨name, child, stores, refused⟩
              · exact groundsBelow_of_propertyFault place.reaches opened fault
              · exact .inr ⟨around, id, props, place, opened, rfl⟩
              · have deeper : smaller + (around ++ [id]).length = maxNestingDepth := by
                  rw [List.length_append, List.length_singleton]
                  omega
                have entered : (before.enter id).onStack = (root :: (around ++ [id])).reverse := by
                  show id :: before.onStack = _
                  rw [stack]
                  simp
                rw [entered] at refused
                exact ih smaller (by omega) (.inside place opened stores) deeper refused

end Below

/-- A reference is no plain object if what it leads to is something else. -/
theorem not_isPlainObject_ref {heap : Heap} {root : ContainerId} {cell : Cell}
    (found : heap.cell? root = some cell)
    (differs : ∀ props, cell.container ≠ .object .plain props) :
    ¬ IsPlainObject heap (.ref root) := by
  intro isPlain
  obtain ⟨id, other, props, ⟨⟩, foundToo, plain⟩ := isPlain
  obtain rfl := Option.some.inj (found.symm.trans foundToo)
  exact differs props plain

/-- A list is no plain object, also while somebody holds it. -/
theorem not_isPlainObject_of_isArray {heap : Heap} {root : ContainerId}
    (isArray : heap.isArray root = true) : ¬ IsPlainObject heap (.ref root) := by
  rw [Heap.isArray] at isArray
  cases found : heap.cell? root with
  | none =>
      rw [found] at isArray
      cases isArray
  | some cell =>
      rw [found] at isArray
      change cell.container.isArray = true at isArray
      apply not_isPlainObject_ref found
      intro props plain
      rw [plain] at isArray
      cases isArray

/-- The arguments as a whole are refused for not being a plain object, or for being held. -/
theorem grounds_of_argumentProperties {heap : Heap} {arguments : Host.Value} {cause : Cause}
    (refused : argumentProperties heap arguments = .error cause) :
    Grounds heap arguments cause := by
  cases arguments with
  | ref root =>
      by_cases isArray : heap.isArray root = true
      · rw [argumentProperties, if_pos isArray] at refused
        cases refused
        exact ⟨rfl, not_isPlainObject_of_isArray isArray⟩
      · rw [argumentProperties, if_neg isArray] at refused
        cases opened : heap.inspect? root with
        | none =>
            rw [opened] at refused
            cases refused
            exact ⟨root, rfl, .inl ⟨Heap.inspect?_eq_none_iff.mp opened, rfl⟩⟩
        | some container =>
            rw [opened] at refused
            have found := Heap.inspect?_eq_some_iff.mp opened
            cases container with
            | array items =>
                cases refused
                exact ⟨rfl, not_isPlainObject_ref found fun props plain => by cases plain⟩
            | object cls props =>
                cases cls with
                | plain => cases refused
                | named cls =>
                    cases refused
                    exact ⟨rfl, not_isPlainObject_ref found fun props plain => by cases plain⟩
  | _ =>
      cases refused
      refine ⟨rfl, fun isPlain => ?_⟩
      obtain ⟨id, cell, props, ⟨⟩, _⟩ := isPlain

/-- Whatever is wrong when arguments are refused is what the report says. -/
theorem grounds_of_convert {heap : Heap} {arguments : Host.Value} {cause : Cause}
    (refused : convert heap arguments = .error cause) : Grounds heap arguments cause := by
  rw [convert] at refused
  cases read : argumentProperties heap arguments with
  | error other =>
      rw [read] at refused
      cases refused
      exact grounds_of_argumentProperties read
  | ok found =>
      obtain ⟨root, entries⟩ := found
      obtain ⟨rfl, props, opened, rfl⟩ := argumentProperties_eq_ok_iff.mp read
      rw [read] at refused
      dsimp only [bind, Except.bind] at refused
      cases run : (convertProperties (convertValue heap maxNestingDepth) props.entries).run
        (.start root) with
      | ok result =>
          rw [run] at refused
          cases refused
      | error other =>
          rw [run] at refused
          cases refused
          apply GroundsBelow.grounds
          rcases refusedAt_of_convertProperties (Progress.valid_start heap root) run with
            fault | ⟨name, value, stored, refused⟩
          · exact groundsBelow_of_propertyFault .refl opened fault
          · exact groundsBelow_of_refusedAt (.property opened stored) rfl refused

/-- Every refusal has its grounds: it names the file that was asked for, and what it reports is
wrong with the arguments. -/
theorem accept_error_has_grounds {heap : Heap} {arguments : Host.Value} {file : String}
    {error : Render.Error} (refused : accept heap arguments file = .error error) :
    error.file = file ∧ Grounds heap arguments error.cause := by
  rw [accept] at refused
  cases converted : convert heap arguments with
  | ok graph =>
      rw [converted] at refused
      cases refused
  | error cause =>
      rw [converted] at refused
      cases refused
      exact ⟨rfl, grounds_of_convert converted⟩

/-- A refusal by the plain unfolding is one by the conversion, except that a nesting too deep may
be reported under another key. -/
theorem convert_eq_error_of_unfold {heap : Heap} {arguments : Host.Value} {cause : Cause}
    (refused : unfold heap arguments = .error cause)
    (shallow : ∀ key limit, cause ≠ .nestingTooDeep key limit) :
    convert heap arguments = .error cause := by
  obtain ⟨graph, _, unfolded⟩ | ⟨found, other, converted, unfolded, same⟩ :=
    convert_agrees heap arguments
  · rw [unfolded] at refused
    cases refused
  · rw [unfolded] at refused
    obtain rfl := Except.error.inj refused
    rw [converted]
    have kept : other.forgetDepthKey = other := by
      cases other with
      | nestingTooDeep key limit => exact absurd rfl (shallow key limit)
      | _ => rfl
    rw [kept] at same
    cases found with
    | nestingTooDeep key limit => exact absurd same.symm (shallow "" limit)
    | _ => exact congrArg Except.error same

/-- Arguments with a list that occurs twice, the second time in an object that leads back to the
arguments. -/
def sharedAndCyclic : Heap where
  cells := #[
    ⟨.object .plain ⟨[(.name "first", .data (.ref ⟨1⟩)), (.name "second", .data (.ref ⟨2⟩))],
      by decide⟩, false⟩,
    ⟨.array [.string "x"], false⟩,
    ⟨.object .plain ⟨[(.name "again", .data (.ref ⟨1⟩)), (.name "up", .data (.ref ⟨0⟩))],
      by decide⟩, false⟩]

/-- They are refused for the cycle through the arguments, and not for the list. -/
theorem accept_error_has_grounds_cycle :
    accept sharedAndCyclic (.ref ⟨0⟩) "page" = .error ⟨"page", .cyclicReference⟩ ∧
      ∃ id, sharedAndCyclic.Reaches ⟨0⟩ id ∧ Relation.TransGen sharedAndCyclic.Holds id id := by
  have refused : accept sharedAndCyclic (.ref ⟨0⟩) "page" = .error ⟨"page", .cyclicReference⟩ := by
    have cyclic : convert sharedAndCyclic (.ref ⟨0⟩) = .error .cyclicReference :=
      convert_eq_error_of_unfold rfl fun key limit same => by cases same
    rw [accept, cyclic]
    rfl
  obtain ⟨_, root, ⟨⟩, held | below⟩ := accept_error_has_grounds refused
  · cases held.2
  · exact ⟨refused, below⟩

end HtmlTemplate.Arguments
