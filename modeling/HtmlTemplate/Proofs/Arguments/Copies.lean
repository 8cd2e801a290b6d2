/-
# Nodes are copies of containers

While arguments are converted, every container that is finished has become one node, and
this node is a copy: it has the same kind and as many places in the same order, and each
place holds the same primitive value or the node that the container there became. The
invariant says so of a state, and also that no two containers became one node and that
there are no other nodes. It is kept because a node is made once, when its container is
finished, and a container that is met again is looked up in the table.

What is in a container is gone through in one way, whether it is a list or an object. A
successful walk is a chain of conversions, each in the state that the one before it left,
and all that is proved of walks is proved by induction on this chain.
-/

import HtmlTemplate.Proofs.Arguments.Agreement

namespace HtmlTemplate.Arguments

open Host Render

variable {α β : Type}

section Copying

variable {became others : ContainerId → NodeId → Prop}

/-- A place is a copy of a value: of a primitive value the value itself, and of a reference
the node that its container became. -/
inductive Copies (became : ContainerId → NodeId → Prop) : Host.Value → Slot → Prop where
  | null : Copies became .null .null
  | bool (value : Bool) : Copies became (.bool value) (.bool value)
  | number (value : Float) : Copies became (.number value) (.number value)
  | string (value : String) : Copies became (.string value) (.string value)
  | ref {id : ContainerId} {node : NodeId} (same : became id node) :
      Copies became (.ref id) (.node node)

/-- A field is a copy of a property: it has the same name, and a copy of its value. -/
inductive CopiesProperty (became : ContainerId → NodeId → Prop) :
    PropertyKey × Property → String × Slot → Prop where
  | data (name : String) {value : Host.Value} {slot : Slot} (copies : Copies became value slot) :
      CopiesProperty became (.name name, .data value) (name, slot)

/-- A node is a copy of a container: of the same kind, with copies of what is in it, in the
same order. -/
inductive CopiesContents (became : ContainerId → NodeId → Prop) : Container → Node → Prop where
  | array {items : List Host.Value} {slots : List Slot}
      (each : List.Forall₂ (Copies became) items slots) :
      CopiesContents became (.array items) (.array slots)
  | object {props : Data.OrderedMap PropertyKey Property} {fields : List (String × Slot)}
      (each : List.Forall₂ (CopiesProperty became) props.entries fields) :
      CopiesContents became (.object .plain props) (.object fields)

/-- What is a copy stays one when more containers become nodes. -/
theorem Copies.mono (grows : ∀ id node, became id node → others id node) {value : Host.Value}
    {slot : Slot} (copies : Copies became value slot) : Copies others value slot := by
  cases copies with
  | null => exact .null
  | bool value => exact .bool value
  | number value => exact .number value
  | string value => exact .string value
  | ref same => exact .ref (grows _ _ same)

theorem CopiesProperty.mono (grows : ∀ id node, became id node → others id node)
    {entry : PropertyKey × Property} {field : String × Slot}
    (copies : CopiesProperty became entry field) : CopiesProperty others entry field := by
  cases copies with
  | data name copies => exact .data name (copies.mono grows)

theorem CopiesContents.mono (grows : ∀ id node, became id node → others id node)
    {container : Container} {node : Node} (copies : CopiesContents became container node) :
    CopiesContents others container node := by
  cases copies with
  | array each => exact .array (each.imp fun _ _ => Copies.mono grows)
  | object each => exact .object (each.imp fun _ _ => CopiesProperty.mono grows)

end Copying

namespace Progress

variable {heap : Heap} {before progress : Progress} {id other : ContainerId}
  {container : Container} {contents : Node} {node : NodeId}

/-- The container is finished and became this node. -/
def Became (progress : Progress) (id : ContainerId) (node : NodeId) : Prop :=
  ∃ height, progress.converted[id]? = some ⟨.node node, height⟩

/-- What the table has an entry for is finished. -/
theorem mem_converted_of_getElem? {done : Converted}
    (found : progress.converted[id]? = some done) : id ∈ progress.converted :=
  Std.HashMap.mem_iff_isSome_getElem?.mpr (by rw [found]; rfl)

theorem Became.mem_converted (became : progress.Became id node) : id ∈ progress.converted := by
  rcases became with ⟨height, found⟩
  exact mem_converted_of_getElem? found

/-- What a container became it remains. -/
theorem Extends.became (step : before.Extends progress) (became : before.Became id node) :
    progress.Became id node := by
  rcases became with ⟨height, found⟩
  exact ⟨height, step.converted id _ found⟩

/-- The finished containers and the nodes correspond one to one, and each node is a copy of
its container. -/
structure Copied (heap : Heap) (progress : Progress) : Prop where
  copy : ∀ id node, progress.Became id node → ∃ container contents,
    heap.inspect? id = some container ∧ progress.nodes[node.index]? = some contents ∧
      CopiesContents progress.Became container contents
  distinct : ∀ id other node, progress.Became id node → progress.Became other node → id = other
  onto : ∀ index < progress.nodes.size, ∃ id, progress.Became id ⟨index⟩
  total : ∀ id ∈ progress.converted, ∃ node, progress.Became id node

/-- Nothing is finished at the start. -/
theorem not_mem_converted_start (arguments id : ContainerId) :
    id ∉ (start arguments).converted := Std.HashMap.not_mem_empty

/-- There is nothing to copy at the start. -/
theorem copied_start (heap : Heap) (arguments : ContainerId) :
    (start arguments).Copied heap where
  copy id _ became := absurd became.mem_converted (not_mem_converted_start arguments id)
  distinct id _ _ became := absurd became.mem_converted (not_mem_converted_start arguments id)
  onto index bound := absurd bound (Nat.not_lt_zero index)
  total id finished := absurd finished (not_mem_converted_start arguments id)

/-- To enter a container finishes nothing. -/
theorem Copied.enter (copied : progress.Copied heap) (id : ContainerId) :
    (progress.enter id).Copied heap :=
  ⟨copied.copy, copied.distinct, copied.onto, copied.total⟩

/-- A node that a container became is there. -/
theorem Copied.index_lt (copied : progress.Copied heap) (became : progress.Became id node) :
    node.index < progress.nodes.size := by
  rcases copied.copy id node became with ⟨container, contents, _, found, _⟩
  exact (Array.getElem?_eq_some_iff.mp found).1

/-- To finish a container makes it the next node, and the others stay what they were. -/
theorem became_leave_iff (unfinished : id ∉ progress.converted) (height : Nat) :
    (progress.leave id contents height).2.Became other node ↔
      other = id ∧ node = ⟨progress.nodes.size⟩ ∨ progress.Became other node := by
  unfold Became
  rw [getElem?_leave]
  by_cases same : id = other
  · subst same
    have none : progress.converted[id]? = none := Std.HashMap.getElem?_eq_none unfinished
    simp [none, Progress.leave, eq_comm]
  · simp [same, Ne.symm same]

/-- To finish a container with a copy of it keeps the invariant. The new node comes after all
others, so no container became it before. -/
theorem Copied.leave (copied : progress.Copied heap) (unfinished : id ∉ progress.converted)
    (opened : heap.inspect? id = some container)
    (copies : CopiesContents progress.Became container contents) (height : Nat) :
    (progress.leave id contents height).2.Copied heap := by
  have grows (other : ContainerId) (node : NodeId) (became : progress.Became other node) :
      (progress.leave id contents height).2.Became other node :=
    (became_leave_iff unfinished height).mpr (.inr became)
  have new : (progress.leave id contents height).2.Became id ⟨progress.nodes.size⟩ :=
    (became_leave_iff unfinished height).mpr (.inl ⟨rfl, rfl⟩)
  constructor
  case copy =>
    intro other node became
    rcases (became_leave_iff unfinished height).mp became with ⟨rfl, rfl⟩ | earlier
    · exact ⟨container, contents, opened, Array.getElem?_push_size, copies.mono grows⟩
    · rcases copied.copy other node earlier with ⟨container, old, opened, found, copies⟩
      refine ⟨container, old, opened, ?_, copies.mono grows⟩
      show (progress.nodes.push contents)[node.index]? = some old
      rw [Array.getElem?_push_lt (copied.index_lt earlier), ← found,
        Array.getElem?_eq_getElem (copied.index_lt earlier)]
  case distinct =>
    intro first second node becameFirst becameSecond
    rcases (became_leave_iff unfinished height).mp becameFirst with ⟨rfl, rfl⟩ | earlier
    · rcases (became_leave_iff unfinished height).mp becameSecond with ⟨rfl, _⟩ | earlierToo
      · rfl
      · exact absurd (copied.index_lt earlierToo) (Nat.lt_irrefl _)
    · rcases (became_leave_iff unfinished height).mp becameSecond with ⟨rfl, rfl⟩ | earlierToo
      · exact absurd (copied.index_lt earlier) (Nat.lt_irrefl _)
      · exact copied.distinct first second node earlier earlierToo
  case onto =>
    intro index bound
    rw [show (progress.leave id contents height).2.nodes = progress.nodes.push contents from rfl,
      Array.size_push] at bound
    rcases Nat.lt_succ_iff_lt_or_eq.mp bound with below | rfl
    · rcases copied.onto index below with ⟨other, became⟩
      exact ⟨other, grows other _ became⟩
    · exact ⟨id, new⟩
  case total =>
    intro other finished
    rcases (mem_leave_iff ..).mp finished with rfl | earlier
    · exact ⟨_, new⟩
    · rcases copied.total other earlier with ⟨node, became⟩
      exact ⟨node, grows other node became⟩

end Progress

section Runs

variable {convert : String → Host.Value → Conversion Converted} {before after : Progress}

/-- Two conversions in a row succeed when the first does and then the second. -/
theorem run_bind_eq_ok_iff {first : Conversion α} {next : α → Conversion β} {result : β} :
    (first >>= next).run before = .ok (result, after) ↔
      ∃ a middle, first.run before = .ok (a, middle) ∧
        (next a).run middle = .ok (result, after) := by
  rw [StateT.run_bind]
  cases first.run before with
  | error cause => simp [bind, Except.bind]
  | ok found =>
      show (next found.1).run found.2 = .ok (result, after) ↔ _
      constructor
      · exact fun run => ⟨found.1, found.2, rfl, run⟩
      · rintro ⟨a, middle, ⟨⟩, run⟩
        exact run

/-- A successful walk through values, each under its key: one after the other is converted in
the state that the one before it left. -/
inductive Walk (convert : String → Host.Value → Conversion Converted) :
    List (String × Host.Value) → Progress → List Slot → Progress → Prop where
  | nil (progress : Progress) : Walk convert [] progress [] progress
  | cons {key : String} {value : Host.Value} {rest : List (String × Host.Value)}
      {before middle after : Progress} {done : Converted} {slots : List Slot}
      (first : (convert key value).run before = .ok (done, middle))
      (others : Walk convert rest middle slots after) :
      Walk convert ((key, value) :: rest) before (done.slot :: slots) after

/-- The values of the properties, up to the first that is not a value under a string name. -/
def namedValues : List (PropertyKey × Property) → List (String × Host.Value)
  | (.name name, .data value) :: rest => (name, value) :: namedValues rest
  | _ => []

/-- What is converted on a walk through a container, each value under the key that it is
reported by. Instances of classes are refused before. -/
def visits (key : String) : Container → List (String × Host.Value)
  | .array items => items.map fun item => (key, item)
  | .object (.named _) _ => []
  | .object .plain props => namedValues props.entries

/-- Items that could be converted were walked through. -/
theorem walk_of_convertItems {key : String} {items : List Host.Value} {slots : List Slot}
    {height : Nat}
    (run : (convertItems (convert key) items).run before = .ok ((slots, height), after)) :
    Walk convert (items.map fun item => (key, item)) before slots after := by
  induction items generalizing before slots height with
  | nil =>
      cases run
      exact .nil _
  | cons item rest ih =>
      rcases run_bind_eq_ok_iff.mp run with ⟨done, middle, first, run⟩
      rcases run_bind_eq_ok_iff.mp run with ⟨⟨slots, height⟩, last, others, run⟩
      cases run
      exact .cons first (ih others)

/-- Properties that could be converted were walked through, and copies of their values make
copies of them. -/
theorem walk_of_convertProperties {entries : List (PropertyKey × Property)}
    {fields : List (String × Slot)} {height : Nat}
    (run : (convertProperties convert entries).run before = .ok ((fields, height), after)) :
    ∃ slots, Walk convert (namedValues entries) before slots after ∧
      ∀ became, List.Forall₂ (Copies became) ((namedValues entries).map Prod.snd) slots →
        List.Forall₂ (CopiesProperty became) entries fields := by
  induction entries generalizing before fields height with
  | nil =>
      cases run
      exact ⟨[], .nil _, fun became _ => .nil⟩
  | cons entry rest ih =>
      match entry with
      | (.symbol description, property) => cases run
      | (.name name, .accessor) => cases run
      | (.name name, .data value) =>
          rcases run_bind_eq_ok_iff.mp run with ⟨done, middle, first, run⟩
          rcases run_bind_eq_ok_iff.mp run with ⟨⟨fields, height⟩, last, others, run⟩
          cases run
          rcases ih others with ⟨slots, walk, copy⟩
          refine ⟨done.slot :: slots, .cons first walk, fun became copies => ?_⟩
          cases copies with
          | cons here later => exact .cons (.data name here) (copy became later)

/-- A container that could be converted was walked through, and copies of what is in it make a
copy of it. -/
theorem walk_of_convertContainer {key : String} {container : Container} {node : Node}
    {height : Nat}
    (run : (convertContainer convert key container).run before = .ok ((node, height), after)) :
    ∃ slots, Walk convert (visits key container) before slots after ∧
      ∀ became, List.Forall₂ (Copies became) ((visits key container).map Prod.snd) slots →
        CopiesContents became container node := by
  match container with
  | .array items =>
      rcases run_bind_eq_ok_iff.mp run with ⟨⟨slots, height⟩, last, inside, run⟩
      cases run
      refine ⟨slots, walk_of_convertItems inside, fun became copies => .array ?_⟩
      simpa [visits, Function.comp_def] using copies
  | .object (.named cls) props => cases run
  | .object .plain props =>
      rcases run_bind_eq_ok_iff.mp run with ⟨⟨fields, height⟩, last, inside, run⟩
      cases run
      rcases walk_of_convertProperties inside with ⟨slots, walk, copy⟩
      exact ⟨slots, walk, fun became copies => .object (copy became copies)⟩

/-- Everything that a successful conversion of a reference does: it takes a finished container
from the table, or it enters an open one, walks through it and finishes it. -/
theorem convertValue_ref_cases {heap : Heap} {room : Nat} {key : String} {id : ContainerId}
    {done : Converted}
    (run : (convertValue heap room key (.ref id)).run before = .ok (done, after)) :
    (before.converted[id]? = some done ∧ after = before) ∨
      ∃ smaller container node height middle,
        room = smaller + 1 ∧ id ∉ before.converted ∧ id ∉ before.onStack ∧
          heap.inspect? id = some container ∧
          (convertContainer (convertValue heap smaller) key container).run (before.enter id) =
            .ok ((node, height), middle) ∧
          done = (middle.leave id node (height + 1)).1 ∧
          after = (middle.leave id node (height + 1)).2 := by
  rw [run_convertValue_ref] at run
  cases found : before.converted[id]? with
  | some old =>
      rw [found] at run
      dsimp only at run
      split at run
      · cases run
        exact .inl ⟨rfl, rfl⟩
      · cases run
  | none =>
      have unfinished : id ∉ before.converted := fun finished => by
        rw [Std.HashMap.getElem?_eq_some_getElem finished] at found
        cases found
      rw [found] at run
      dsimp only at run
      by_cases onStack : id ∈ before.onStack
      · rw [if_pos onStack] at run
        cases run
      rw [if_neg onStack] at run
      cases room with
      | zero => cases run
      | succ smaller =>
          cases opened : heap.inspect? id with
          | none =>
              rw [opened] at run
              cases run
          | some container =>
              rw [opened] at run
              dsimp only at run
              cases inside : (convertContainer (convertValue heap smaller) key container).run
                (before.enter id) with
              | error cause =>
                  rw [inside] at run
                  cases run
              | ok found =>
                  rw [inside] at run
                  cases run
                  exact .inr ⟨smaller, container, found.1.1, found.1.2, found.2, rfl, unfinished,
                    onStack, rfl, inside, rfl, rfl⟩

end Runs

/-- The values were converted to these places between the two states: both invariants hold
afterwards, nothing was taken back, and the places are copies. -/
structure CopiesInto (heap : Heap) (before : Progress) (values : List Host.Value)
    (slots : List Slot) (after : Progress) : Prop where
  step : before.Extends after
  valid : after.Valid heap
  copied : after.Copied heap
  copies : List.Forall₂ (Copies after.Became) values slots

namespace CopiesInto

variable {heap : Heap} {before middle after : Progress} {value : Host.Value}
  {values : List Host.Value} {slot : Slot} {slots : List Slot}

theorem nil (valid : before.Valid heap) (copied : before.Copied heap) :
    CopiesInto heap before [] [] before :=
  ⟨.refl before, valid, copied, .nil⟩

theorem cons (first : CopiesInto heap before [value] [slot] middle)
    (others : CopiesInto heap middle values slots after) :
    CopiesInto heap before (value :: values) (slot :: slots) after where
  step := first.step.trans others.step
  valid := others.valid
  copied := others.copied
  copies := by
    cases first.copies with
    | cons here _ => exact .cons (here.mono fun id node => others.step.became) others.copies

end CopiesInto

/-- Where a conversion succeeds, so does the plain computation that it agrees with. -/
theorem Agrees.exists_of_ok {result : α} {after : Progress} {plain : Except Cause β}
    {post : α → Progress → β → Prop} (agrees : Agrees (.ok (result, after)) plain post) :
    ∃ b, post result after b := by
  cases plain with
  | error cause => exact agrees.elim
  | ok b => exact ⟨b, agrees⟩

/-- A conversion that succeeds takes nothing back and keeps the invariant of the stack, and
the container of the value is finished afterwards. -/
theorem convertValue_finishes {heap : Heap} {room : Nat} {key : String} {value : Host.Value}
    {before after : Progress} {done : Converted} (valid : before.Valid heap)
    (run : (convertValue heap room key value).run before = .ok (done, after)) :
    ∃ tree, Finishes heap before after [value]
      (fun room above key => unfoldValue heap room above key value) done.slot.toValue
      done.height tree := by
  have agrees := convertValue_agrees heap room key value before valid
  rw [AgreesFrom, run] at agrees
  exact agrees.exists_of_ok

/-- A walk copies what it goes through if each of its steps does. -/
theorem Walk.copiesInto {heap : Heap} {convert : String → Host.Value → Conversion Converted}
    (each : ∀ key value before done after, before.Valid heap → before.Copied heap →
      (convert key value).run before = .ok (done, after) →
      CopiesInto heap before [value] [done.slot] after)
    {list : List (String × Host.Value)} {before after : Progress} {slots : List Slot}
    (walk : Walk convert list before slots after) (valid : before.Valid heap)
    (copied : before.Copied heap) :
    CopiesInto heap before (list.map Prod.snd) slots after := by
  induction walk with
  | nil progress => exact .nil valid copied
  | cons first others ih =>
      have here := each _ _ _ _ _ valid copied first
      exact here.cons (ih here.valid here.copied)

/-- A conversion that succeeds copies the value. -/
theorem convertValue_copiesInto (heap : Heap) (room : Nat) (key : String) (value : Host.Value)
    (before : Progress) (done : Converted) (after : Progress) (valid : before.Valid heap)
    (copied : before.Copied heap)
    (run : (convertValue heap room key value).run before = .ok (done, after)) :
    CopiesInto heap before [value] [done.slot] after := by
  induction room using Nat.strong_induction_on generalizing key value before done after with
  | _ room ih =>
      rcases convertValue_finishes valid run with ⟨tree, finishes⟩
      suffices after.Copied heap ∧ Copies after.Became value done.slot from
        ⟨finishes.step, finishes.valid, this.1, .cons this.2 .nil⟩
      cases value with
      | undefined | bigint value | symbol description | function name =>
          rw [convertValue] at run
          cases run
      | null | bool value | number value | string value =>
          rw [convertValue] at run
          cases run
          exact ⟨copied, by constructor⟩
      | ref id =>
          rcases convertValue_ref_cases run with ⟨found, rfl⟩ | ⟨smaller, container, node, height,
            middle, rfl, unfinished, offStack, opened, inside, rfl, rfl⟩
          · have finished := Progress.mem_converted_of_getElem? found
            rcases copied.total id finished with ⟨node, height, became⟩
            cases found.symm.trans became
            exact ⟨copied, .ref ⟨height, found⟩⟩
          · rcases walk_of_convertContainer inside with ⟨slots, walk, copy⟩
            have walked := walk.copiesInto (ih smaller (Nat.lt_succ_self smaller))
              (valid.enter unfinished) (copied.enter id)
            have stack : middle.onStack = id :: before.onStack := walked.step.onStack
            have stillUnfinished : id ∉ middle.converted := fun finished =>
              walked.valid.fresh id finished (by rw [stack]; exact List.mem_cons_self)
            refine ⟨walked.copied.leave stillUnfinished opened (copy _ walked.copies) _, .ref ?_⟩
            exact (Progress.became_leave_iff stillUnfinished _).mpr (.inl ⟨rfl, rfl⟩)

end HtmlTemplate.Arguments
