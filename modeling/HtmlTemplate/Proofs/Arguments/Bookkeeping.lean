/-
# The books that a conversion keeps

A conversion counts how deep it is, remembers which containers are open, and keeps a table of
the finished ones with their heights. At every stage the books are right: the stack lists the
open containers, each once, and its size is the depth and one for the arguments; no open
container is finished; what a finished container became is exactly as high as the table says,
and everything inside it is finished too. Each turn keeps this. What carries the argument is
that the values of an open container are finished or left, and that its height and its depth
stay within the limit together.
-/

import HtmlTemplate.Proofs.Arguments.Stages
import Mathlib.Data.List.Nodup

namespace HtmlTemplate

namespace Value

mutual

/-- How many lists and objects are nested in a value at most, itself included. -/
def height : Value → Nat
  | .array items => itemsHeight items + 1
  | .object fields => fieldsHeight fields + 1
  | _ => 0

/-- The height of the highest item. -/
def itemsHeight : List Value → Nat
  | [] => 0
  | item :: rest => max item.height (itemsHeight rest)

/-- The height of the highest field. -/
def fieldsHeight : List (String × Value) → Nat
  | [] => 0
  | (_, value) :: rest => max value.height (fieldsHeight rest)

end

theorem itemsHeight_concat (items : List Value) (last : Value) :
    itemsHeight (items ++ [last]) = max (itemsHeight items) last.height := by
  induction items with
  | nil => simp [itemsHeight]
  | cons item rest ih => simp only [List.cons_append, itemsHeight, ih, Nat.max_assoc]

theorem fieldsHeight_concat (fields : List (String × Value)) (name : String) (last : Value) :
    fieldsHeight (fields ++ [(name, last)]) = max (fieldsHeight fields) last.height := by
  induction fields with
  | nil => simp [fieldsHeight]
  | cons field rest ih => simp only [List.cons_append, fieldsHeight, ih, Nat.max_assoc]

end Value

namespace Arguments

open Host Render

namespace Contents

variable {contents : Contents} {key : String} {value : Host.Value} {node : Node} {slot : Slot}

/-- The values that are left. -/
def left : Contents → List Host.Value
  | .items _ _ left => left
  | .fields _ left => storedValues left
  | .refused _ => []

/-- The height of the highest value that was made, given the values of the nodes. -/
def heightIn (values : Array Value) : Contents → Nat
  | .items _ made _ => Value.itemsHeight (made.map (Slot.toValue values))
  | .fields made _ =>
      Value.fieldsHeight (made.map fun field => (field.1, field.2.toValue values))
  | .refused _ => 0

/-- A value is due where it is the first item, or the value of the first property. -/
theorem of_due_eq_value (due : contents.due = .value key value) :
    (∃ made rest, contents = .items key made (value :: rest)) ∨
      ∃ made rest, contents = .fields made ((.name key, .data value) :: rest) := by
  unfold Contents.due at due
  split at due <;> cases due
  · exact .inl ⟨_, _, rfl⟩
  · exact .inr ⟨_, _, rfl⟩

/-- The end is due where nothing is left. -/
theorem of_due_eq_finished (due : contents.due = .finished node) :
    ∃ key, contents = .ofNode key node := by
  unfold Contents.due at due
  split at due <;> cases due
  · exact ⟨_, rfl⟩
  · exact ⟨argumentsName, rfl⟩

/-- What is due is the first of the values that are left. -/
theorem left_of_due (due : contents.due = .value key value) (slot : Slot) :
    contents.left = value :: (contents.receive slot).left := by
  obtain ⟨made, rest, rfl⟩ | ⟨made, rest, rfl⟩ := of_due_eq_value due <;> rfl

theorem left_of_finished (due : contents.due = .finished node) : contents.left = [] := by
  obtain ⟨key, rfl⟩ := of_due_eq_finished due
  cases node <;> rfl

theorem heightIn_receive (due : contents.due = .value key value) (slot : Slot)
    (values : Array Value) :
    (contents.receive slot).heightIn values =
      max (contents.heightIn values) (slot.toValue values).height := by
  obtain ⟨made, rest, rfl⟩ | ⟨made, rest, rfl⟩ := of_due_eq_value due
  · simp [receive, heightIn, Value.itemsHeight_concat]
  · simp [receive, heightIn, Value.fieldsHeight_concat]

/-- The node of a container that was walked to its end is one higher than what is in it. -/
theorem height_of_finished (due : contents.due = .finished node) (values : Array Value) :
    (node.toValue values).height = contents.heightIn values + 1 := by
  obtain ⟨key, rfl⟩ := of_due_eq_finished due
  cases node <;> simp [Node.toValue, Value.height, ofNode, heightIn]

/-- All that a container holds is left when it is entered, unless it is refused. -/
theorem mem_left_of_holds {heap : Heap} {outer inner : ContainerId}
    (holds : heap.Holds outer inner) (key : String) :
    .ref inner ∈ (ofContainer key (heap.inspect? outer)).left ∨
      ∃ cause, (ofContainer key (heap.inspect? outer)).due = .fault cause := by
  cases opened : heap.inspect? outer with
  | none => exact .inr ⟨_, rfl⟩
  | some container =>
      have stored := (Heap.holds_iff_of_inspect? opened).mp holds
      match container with
      | .array _ => exact .inl stored
      | .object (.named cls) props => exact .inr ⟨_, rfl⟩
      | .object .plain props => exact .inl stored

theorem heightIn_ofContainer (key : String) (container : Option Container)
    (values : Array Value) : (ofContainer key container).heightIn values = 0 := by
  unfold ofContainer
  split <;> simp [heightIn, Value.itemsHeight, Value.fieldsHeight]

end Contents

namespace Progress

/-- Nothing is taken back, though the stack may be another. -/
def Adds (before after : Progress) : Prop :=
  before.Extends { after with onStack := before.onStack }

namespace Adds

variable {first second third progress : Progress} {id : ContainerId}

theorem trans (earlier : first.Adds second) (later : second.Adds third) : first.Adds third :=
  Extends.trans earlier ⟨rfl, later.nodes, later.converted⟩

theorem enter (progress : Progress) (id : ContainerId) : progress.Adds (progress.enter id) :=
  Extends.refl progress

/-- A container that is finished was not finished before. -/
theorem leave (unfinished : id ∉ progress.converted) (node : Node) (height : Nat) :
    progress.Adds (progress.leave id node height).2 :=
  have step : progress.Extends ((progress.enter id).leave id node height).2 :=
    (Extends.refl (progress.enter id)).leave unfinished
  ⟨rfl, step.nodes, step.converted⟩

end Adds

end Progress

namespace OpenContainer

variable {heap : Heap} {progress after : Progress} {depth : Nat} {container : OpenContainer}
  {key : String} {value : Host.Value} {done : Converted}

/-- The books are right about an open container at this depth: what it holds is finished or left,
its height is that of what was made, and the highest value in it fits into the limit. -/
structure Sound (heap : Heap) (progress : Progress) (depth : Nat) (container : OpenContainer) :
    Prop where
  covered : ∀ inner, heap.Holds container.id inner →
    inner ∈ progress.converted ∨ .ref inner ∈ container.contents.left ∨
      ∃ cause, container.contents.due = .fault cause
  measured : Denotes progress.nodes (fun values => container.contents.heightIn values)
    container.height
  fits : depth + container.height ≤ maxNestingDepth

theorem Sound.mono (sound : container.Sound heap progress depth) (adds : progress.Adds after) :
    container.Sound heap after depth where
  covered inner holds := (sound.covered inner holds).imp_left adds.mem_converted
  measured := by
    obtain ⟨later, nodes⟩ := adds.nodes
    rw [show after.nodes = progress.nodes ++ later from nodes]
    exact sound.measured.append later
  fits := sound.fits

/-- The books stay right when the container takes in what was made of the next value. -/
theorem Sound.receive (sound : container.Sound heap progress depth)
    (due : container.contents.due = .value key value)
    (finished : ∀ id, value = .ref id → id ∈ progress.converted)
    (measured : Denotes progress.nodes (fun values => (done.slot.toValue values).height)
      done.height)
    (fits : depth + done.height ≤ maxNestingDepth) :
    (container.receive done).Sound heap progress depth where
  covered inner holds := by
    rcases sound.covered inner holds with already | left | ⟨cause, fault⟩
    · exact .inl already
    · rw [Contents.left_of_due due done.slot] at left
      rcases List.mem_cons.mp left with next | later
      · exact .inl (finished inner next.symm)
      · exact .inr (.inl later)
    · cases due.symm.trans fault
  measured later := by
    show (container.contents.receive done.slot).heightIn _ = max container.height done.height
    rw [Contents.heightIn_receive due]
    exact congrArg₂ max (sound.measured later) (measured later)
  fits := by
    have here := sound.fits
    simp only [OpenContainer.receive]
    omega

/-- The books are right about a container that was just entered. -/
theorem sound_ofContainer (heap : Heap) (progress : Progress) (key : String) (id : ContainerId)
    (bound : depth ≤ maxNestingDepth) :
    Sound heap progress depth ⟨id, .ofContainer key (heap.inspect? id), 0⟩ where
  covered _ holds := .inr (Contents.mem_left_of_holds holds key)
  measured _ := Contents.heightIn_ofContainer key _ _
  fits := bound

/-- Everything in a container that was walked to its end is finished. -/
theorem Sound.mem_converted {node : Node} {inner : ContainerId}
    (sound : container.Sound heap progress depth)
    (due : container.contents.due = .finished node) (holds : heap.Holds container.id inner) :
    inner ∈ progress.converted := by
  rcases sound.covered inner holds with already | left | ⟨cause, fault⟩
  · exact already
  · rw [Contents.left_of_finished due] at left
    cases left
  · cases due.symm.trans fault

end OpenContainer

/-- The books are right about the open containers, the innermost and those around it. What is due
in each is the one that was entered from it. -/
inductive Nested (heap : Heap) (progress : Progress) :
    OpenContainer → List OpenContainer → Prop where
  | arguments {inner : OpenContainer} (sound : inner.Sound heap progress 0) :
      Nested heap progress inner []
  | inside {inner around : OpenContainer} {outer : List OpenContainer} {key : String}
      (sound : inner.Sound heap progress (outer.length + 1))
      (entered : around.contents.due = .value key (.ref inner.id))
      (below : Nested heap progress around outer) : Nested heap progress inner (around :: outer)

namespace Nested

variable {heap : Heap} {progress after : Progress} {inner other : OpenContainer}
  {outer : List OpenContainer}

theorem sound (nested : Nested heap progress inner outer) :
    inner.Sound heap progress outer.length := by
  cases nested with
  | arguments sound => exact sound
  | inside sound => exact sound

theorem mono (nested : Nested heap progress inner outer) (adds : progress.Adds after) :
    Nested heap after inner outer := by
  induction nested with
  | arguments sound => exact .arguments (sound.mono adds)
  | inside sound entered _ ih => exact .inside (sound.mono adds) entered ih

/-- The innermost container may change as long as the books stay right about it. -/
theorem replace (nested : Nested heap progress inner outer) (same : other.id = inner.id)
    (sound : other.Sound heap progress outer.length) : Nested heap progress other outer := by
  cases nested with
  | arguments _ => exact .arguments sound
  | inside _ entered below => exact .inside sound (same ▸ entered) below

end Nested

namespace Stage

variable {heap : Heap} {root : ContainerId} {stage next : Stage}

/-- Everything that one turn can do. -/
inductive TurnCase (heap : Heap) (stage : Stage) : Stage → Prop where
  | primitive {key : String} {value : Host.Value} {slot : Slot}
      (due : stage.inner.contents.due = .value key value) (notRef : ∀ id, value ≠ .ref id)
      (flat : ∀ values, (slot.toValue values).height = 0) :
      TurnCase heap stage (stage.receive ⟨slot, 0⟩ stage.progress)
  | reuse {key : String} {id : ContainerId} {done : Converted}
      (due : stage.inner.contents.due = .value key (.ref id))
      (found : stage.progress.converted[id]? = some done)
      (fits : stage.depth + done.height ≤ maxNestingDepth) :
      TurnCase heap stage (stage.receive done stage.progress)
  | enter {key : String} {id : ContainerId}
      (due : stage.inner.contents.due = .value key (.ref id))
      (unfinished : id ∉ stage.progress.converted) (closed : id ∉ stage.progress.onStack)
      (fits : stage.depth < maxNestingDepth) : TurnCase heap stage (stage.enter heap key id)
  | leave {node : Node} {around : OpenContainer} {outer : List OpenContainer}
      (due : stage.inner.contents.due = .finished node) (inside : stage.outer = around :: outer) :
      TurnCase heap stage (stage.leaveFor node around outer)

/-- A container that is neither finished nor open is entered. -/
theorem turns_enter {key : String} {id : ContainerId}
    (due : stage.inner.contents.due = .value key (.ref id))
    (unfinished : id ∉ stage.progress.converted) (closed : id ∉ stage.progress.onStack)
    (fits : stage.depth < maxNestingDepth) : Turns heap stage (stage.enter heap key id) := by
  rw [Turns, turn_of_due due, visit, Std.HashMap.getElem?_eq_none unfinished]
  dsimp only
  rw [if_neg closed, if_neg (by omega)]
  rfl

theorem turnCase_of_visit {key : String} {value : Host.Value}
    (due : stage.inner.contents.due = .value key value)
    (visited : stage.visit heap key value = .ok next) : TurnCase heap stage next := by
  cases value with
  | undefined | bigint value | symbol description | function name => cases visited
  | null | bool value | number value | string value =>
      cases visited
      exact .primitive due (fun id => by rintro ⟨⟩) fun values => by simp [Slot.toValue, Value.height]
  | ref id =>
      rw [visit] at visited
      split at visited
      · rename_i done found
        split at visited
        · cases visited
        · cases visited
          exact .reuse due found (by omega)
      · rename_i unfound
        split at visited
        · cases visited
        · split at visited
          · cases visited
          · cases visited
            refine .enter due (fun finished => ?_) ‹_› (by omega)
            rw [Std.HashMap.getElem?_eq_some_getElem finished] at unfound
            cases unfound

/-- A turn does one of these. -/
theorem turnCase_of_turns (turns : Turns heap stage next) : TurnCase heap stage next := by
  unfold Turns turn at turns
  split at turns
  · cases turns
  · rename_i key value due
    cases visited : stage.visit heap key value with
    | error cause =>
        rw [visited] at turns
        cases turns
    | ok dealt =>
        rw [visited] at turns
        cases turns
        exact turnCase_of_visit due visited
  · rename_i node due
    unfold Stage.leave at turns
    split at turns
    · cases turns
    · rename_i around outer inside
      cases turns
      exact .leave due inside

/-- The books are right. -/
structure Sound (heap : Heap) (root : ContainerId) (stage : Stage) : Prop where
  depth : stage.depth = stage.outer.length
  onStack : stage.progress.onStack = (stage.inner :: stage.outer).map OpenContainer.id
  outermost : stage.progress.onStack.getLast? = some root
  distinct : stage.progress.onStack.Nodup
  fresh : ∀ id ∈ stage.progress.converted, id ∉ stage.progress.onStack
  closed : ∀ outer ∈ stage.progress.converted, ∀ inner, heap.Holds outer inner →
    inner ∈ stage.progress.converted
  measured : ∀ (id : ContainerId) (done : Converted),
    stage.progress.converted[id]? = some done →
    Denotes stage.progress.nodes (fun values => (done.slot.toValue values).height) done.height ∧
      0 < done.height ∧ done.height ≤ maxNestingDepth
  nested : Nested heap stage.progress stage.inner stage.outer

namespace Sound

variable {key : String} {value : Host.Value} {done : Converted} {id : ContainerId} {node : Node}

/-- The books are right at the start. -/
theorem start {arguments : Host.Value} {entries : List (PropertyKey × Property)}
    (read : argumentProperties heap arguments = .ok (root, entries)) :
    (Stage.start root entries).Sound heap root where
  depth := rfl
  onStack := rfl
  outermost := rfl
  distinct := List.nodup_singleton root
  fresh id finished := absurd finished Std.HashMap.not_mem_empty
  closed outer finished := absurd finished Std.HashMap.not_mem_empty
  measured id done found := by
    rw [Stage.start, Progress.start, Std.HashMap.getElem?_empty] at found
    cases found
  nested := by
    obtain ⟨-, props, opened, rfl⟩ := argumentProperties_eq_ok_iff.mp read
    have entered := OpenContainer.sound_ofContainer heap (.start root) argumentsName root
      (Nat.zero_le maxNestingDepth)
    rw [opened] at entered
    exact .arguments entered

/-- The innermost container fits into the limit. -/
theorem bounded (sound : stage.Sound heap root) : stage.depth ≤ maxNestingDepth := by
  rw [sound.depth]
  exact (Nat.le_add_right _ _).trans sound.nested.sound.fits

/-- They stay right when what was made of the next value is taken in. -/
theorem receive (sound : stage.Sound heap root) (due : stage.inner.contents.due = .value key value)
    (finished : ∀ id, value = .ref id → id ∈ stage.progress.converted)
    (measured : Denotes stage.progress.nodes (fun values => (done.slot.toValue values).height)
      done.height)
    (fits : stage.depth + done.height ≤ maxNestingDepth) :
    (stage.receive done stage.progress).Sound heap root where
  depth := sound.depth
  onStack := sound.onStack
  outermost := sound.outermost
  distinct := sound.distinct
  fresh := sound.fresh
  closed := sound.closed
  measured := sound.measured
  nested := by
    rw [sound.depth] at fits
    exact sound.nested.replace rfl (sound.nested.sound.receive due finished measured fits)

/-- They stay right when a container is entered. -/
theorem enter (sound : stage.Sound heap root)
    (due : stage.inner.contents.due = .value key (.ref id))
    (unfinished : id ∉ stage.progress.converted) (closed : id ∉ stage.progress.onStack)
    (fits : stage.depth < maxNestingDepth) : (stage.enter heap key id).Sound heap root where
  depth := congrArg (· + 1) sound.depth
  onStack := congrArg (id :: ·) sound.onStack
  outermost := by
    show (id :: stage.progress.onStack).getLast? = some root
    rw [List.getLast?_cons, sound.outermost]
    rfl
  distinct := List.nodup_cons.mpr ⟨closed, sound.distinct⟩
  fresh other finished := by
    intro onStack
    rcases List.mem_cons.mp onStack with rfl | below
    · exact unfinished finished
    · exact sound.fresh other finished below
  closed := sound.closed
  measured := sound.measured
  nested := by
    rw [sound.depth] at fits
    exact .inside (OpenContainer.sound_ofContainer heap _ key id fits) due
      (sound.nested.mono (.enter stage.progress id))

/-- The innermost container is not finished. -/
theorem unfinished (sound : stage.Sound heap root) :
    stage.inner.id ∉ stage.progress.converted := fun finished =>
  sound.fresh _ finished (by rw [sound.onStack]; exact List.mem_cons_self)

/-- The reference to the node that is made is as high as the table will say. -/
theorem measured_leave (sound : stage.Sound heap root)
    (due : stage.inner.contents.due = .finished node) :
    Denotes (stage.progress.nodes.push node)
      (fun values => ((Slot.node ⟨stage.progress.nodes.size⟩).toValue values).height)
      (stage.inner.height + 1) := by
  intro later
  have here := sound.nested.sound.measured #[]
  rw [Array.append_empty] at here
  have found : (Graph.values (stage.progress.nodes.push node ++ later))[stage.progress.nodes.size]? =
      some (node.toValue (Graph.values stage.progress.nodes)) := by
    rw [Graph.values_append _ _ _ (by simp), Graph.values_push, ← Graph.size_values,
      Array.getElem?_push_size]
  simp only [Slot.toValue, Array.getD_eq_getD_getElem?, found, Option.getD_some]
  rw [Contents.height_of_finished due]
  exact congrArg (· + 1) here

/-- They stay right when the innermost container is left. -/
theorem leave {around : OpenContainer} {outer : List OpenContainer}
    (sound : stage.Sound heap root) (due : stage.inner.contents.due = .finished node)
    (inside : stage.outer = around :: outer) :
    (stage.leaveFor node around outer).Sound heap root := by
  have shown := sound.measured_leave due
  obtain ⟨depth, progress, inner, _⟩ := stage
  obtain rfl := inside
  have stack : progress.onStack = inner.id :: (around :: outer).map OpenContainer.id :=
    sound.onStack
  have stackAfter : (progress.leave inner.id node (inner.height + 1)).2.onStack =
      (around :: outer).map OpenContainer.id := by
    rw [Progress.leave, stack, List.erase_cons_head]
  have distinct : (inner.id :: (around :: outer).map OpenContainer.id).Nodup :=
    stack ▸ sound.distinct
  have adds : progress.Adds (progress.leave inner.id node (inner.height + 1)).2 :=
    .leave sound.unfinished node _
  have fits : outer.length + 1 + inner.height ≤ maxNestingDepth := sound.nested.sound.fits
  constructor
  case depth => exact congrArg (· - 1) sound.depth
  case onStack => exact stackAfter
  case outermost =>
    have outermost := sound.outermost
    rw [stack] at outermost
    exact (congrArg List.getLast? stackAfter).trans outermost
  case distinct => exact stackAfter ▸ (List.nodup_cons.mp distinct).2
  case fresh =>
    intro other finished onStack
    have below : other ∈ (around :: outer).map OpenContainer.id := stackAfter ▸ onStack
    rcases (Progress.mem_leave_iff ..).mp finished with rfl | earlier
    · exact (List.nodup_cons.mp distinct).1 below
    · refine sound.fresh other earlier ?_
      rw [stack]
      exact List.mem_cons_of_mem _ below
  case closed =>
    intro outer finished held holds
    refine (Progress.mem_leave_iff ..).mpr (.inr ?_)
    rcases (Progress.mem_leave_iff ..).mp finished with rfl | earlier
    · exact sound.nested.sound.mem_converted due holds
    · exact sound.closed outer earlier held holds
  case measured =>
    intro other done found
    rcases Classical.em (inner.id = other) with same | different
    · have isNew := (Progress.getElem?_leave progress inner.id other node _).symm.trans found
      rw [if_pos same] at isNew
      obtain rfl := Option.some.inj isNew
      exact ⟨shown, Nat.succ_pos _, by simp only [Progress.leave]; omega⟩
    · have isOld := (Progress.getElem?_leave progress inner.id other node _).symm.trans found
      rw [if_neg different] at isOld
      obtain ⟨measured, bounds⟩ := sound.measured other done isOld
      exact ⟨measured.append #[node], bounds⟩
  case nested =>
    cases sound.nested with
    | inside innerSound entered below =>
        refine (below.mono adds).replace rfl ?_
        refine (below.sound.mono adds).receive entered (fun id same => ?_) shown ?_
        · cases same
          exact (Progress.mem_leave_iff ..).mpr (.inl rfl)
        · simp only [Progress.leave]
          omega

/-- Every turn keeps the books right. -/
theorem turn (sound : stage.Sound heap root) (turns : Turns heap stage next) :
    next.Sound heap root := by
  cases turnCase_of_turns turns with
  | primitive due notRef flat =>
      exact sound.receive due (fun id same => absurd same (notRef id)) (fun later => flat _)
        sound.bounded
  | reuse due found fits =>
      refine sound.receive due (fun id same => ?_) (sound.measured _ _ found).1 fits
      cases same
      exact Std.HashMap.mem_iff_isSome_getElem?.mpr (by rw [found]; rfl)
  | enter due unfinished closed fits => exact sound.enter due unfinished closed fits
  | leave due inside => exact sound.leave due inside

/-- No turn takes anything back. -/
theorem adds_turn (sound : stage.Sound heap root) (turns : Turns heap stage next) :
    stage.progress.Adds next.progress := by
  cases turnCase_of_turns turns with
  | primitive | reuse => exact Progress.Extends.refl _
  | enter => exact .enter _ _
  | leave due inside => exact .leave sound.unfinished _ _

/-- However many turns are made, the books stay right and nothing is taken back. -/
theorem leads (sound : stage.Sound heap root) (leads : Leads heap stage next) :
    next.Sound heap root ∧ stage.progress.Adds next.progress := by
  induction leads with
  | refl => exact ⟨sound, Progress.Extends.refl _⟩
  | tail _ turns ih => exact ⟨ih.1.turn turns, ih.2.trans (ih.1.adds_turn turns)⟩

end Sound

/-- The books are right at every stage that a conversion comes to. -/
theorem Reached.sound {arguments : Host.Value} (reached : Reached heap arguments stage) :
    ∃ root, arguments = .ref root ∧ stage.Sound heap root := by
  obtain ⟨root, entries, read, leads⟩ := reached
  exact ⟨root, (argumentProperties_eq_ok_iff.mp read).1, ((Sound.start read).leads leads).1⟩

/-- The conversion of a value that is due, where it succeeds, ends at the stage at which its result
is taken in, at the same depth and with the same containers open. Until then it only adds. -/
theorem Sound.call (sound : stage.Sound heap root) {key : String} {value : Host.Value}
    (due : stage.inner.contents.due = .value key value) {done : Converted} {after : Progress}
    (run : (convertValue heap (maxNestingDepth - stage.depth) key value).run stage.progress =
      .ok (done, after)) :
    Leads heap stage (stage.receive done after) ∧ stage.progress.Extends after := by
  have performs := valuePerforms heap _ stage key value (Nat.add_sub_of_le sound.bounded) due
  rw [run] at performs
  obtain ⟨soundAfter, adds⟩ := sound.leads performs
  exact ⟨performs, soundAfter.onStack.trans sound.onStack.symm, adds.nodes, adds.converted⟩

/-- Everything is in order at this stage of the conversion of the arguments. -/
structure Orderly (heap : Heap) (arguments : Host.Value) (stage : Stage) : Prop where
  /-- No container is both finished and on the stack. -/
  apart : ∀ id ∈ stage.progress.converted, id ∉ stage.progress.onStack
  /-- On the stack are the containers that are being walked, the innermost first. -/
  onStack : stage.progress.onStack = (stage.inner :: stage.outer).map OpenContainer.id
  /-- The outermost of them is the arguments. -/
  outermost : stage.progress.onStack.getLast?.map Host.Value.ref = some arguments
  distinct : stage.progress.onStack.Nodup
  size : stage.progress.onStack.length = stage.depth + 1
  bounded : stage.depth ≤ maxNestingDepth
  /-- The table knows the height of what a finished container became. -/
  measured : ∀ (id : ContainerId) (done : Converted),
    stage.progress.converted[id]? = some done →
      (done.slot.toValue (Graph.values stage.progress.nodes)).height = done.height ∧
        1 ≤ done.height ∧ done.height ≤ maxNestingDepth
  /-- All containers inside a finished one are finished. -/
  closed : ∀ outer ∈ stage.progress.converted, ∀ inner, heap.Reaches outer inner →
    inner ∈ stage.progress.converted
  /-- The conversion of the next value, where it succeeds, returns to the same depth and the same
  stack, and only adds to the table. -/
  calls : ∀ key value done after, stage.inner.contents.due = .value key value →
    (convertValue heap (maxNestingDepth - stage.depth) key value).run stage.progress =
      .ok (done, after) →
    Leads heap stage (stage.receive done after) ∧ stage.progress.Extends after
  /-- Where a finished container is met, its height and the depth leave something to subtract from,
  even without the level that it would be entered at. -/
  reuses : ∀ (id : ContainerId) (done : Converted),
    stage.progress.converted[id]? = some done → 1 ≤ stage.depth + done.height
  /-- There is something to subtract from where a container is left. -/
  leaves : ∀ node next, stage.inner.contents.due = .finished node → Turns heap stage next →
    1 ≤ stage.depth

/-- Where the books are right, everything is in order. -/
theorem Sound.orderly (sound : stage.Sound heap root) : stage.Orderly heap (.ref root) where
  apart := sound.fresh
  onStack := sound.onStack
  outermost := by rw [sound.outermost]; rfl
  distinct := sound.distinct
  size := by rw [sound.onStack, sound.depth, List.length_map, List.length_cons]
  bounded := sound.bounded
  measured id done found := by
    obtain ⟨measured, bounds⟩ := sound.measured id done found
    have now := measured #[]
    rw [Array.append_empty] at now
    exact ⟨now, bounds⟩
  closed outer finished inner reaches := by
    induction reaches with
    | refl => exact finished
    | tail _ holds ih => exact sound.closed _ ih _ holds
  calls key value done after due run := sound.call due run
  reuses id done found := Nat.le_trans (sound.measured id done found).2.1 (Nat.le_add_left _ _)
  leaves node next due turns := by
    rw [sound.depth]
    cases inside : stage.outer with
    | nil => simp [Turns, Stage.turn, due, Stage.leave, inside] at turns
    | cons around outer => exact Nat.succ_pos _

end Stage

open Stage in
/-- A conversion comes to exactly what its stages come to, and at each of them everything is in
order. -/
theorem conversion_orderly (heap : Heap) (arguments : Host.Value) :
    (∀ outcome, convert heap arguments = outcome ↔ ComesTo heap arguments outcome) ∧
      ∀ stage, Reached heap arguments stage → stage.Orderly heap arguments := by
  refine ⟨fun outcome => convert_eq_iff_comesTo, fun stage reached => ?_⟩
  obtain ⟨root, rfl, sound⟩ := reached.sound
  exact sound.orderly

/-- Arguments in which one list occurs twice, the second time in an object. -/
def listSharedBelow : Heap where
  cells := #[
    ⟨.object .plain ⟨[(.name "list", .data (.ref ⟨1⟩)), (.name "object", .data (.ref ⟨2⟩))],
      by decide⟩, false⟩,
    ⟨.array [.string "x"], false⟩,
    ⟨.object .plain ⟨[(.name "sameList", .data (.ref ⟨1⟩))], by decide⟩, false⟩]

open Stage in
/-- Their conversion comes to a stage at which the list is finished and the object is walked. -/
theorem conversion_orderly_shared :
    ∃ stage, Reached listSharedBelow (.ref ⟨0⟩) stage ∧
      stage.progress.converted[(⟨1⟩ : ContainerId)]? = some ⟨.node ⟨0⟩, 1⟩ ∧
      stage.progress.onStack = [⟨2⟩, ⟨0⟩] ∧ stage.Orderly listSharedBelow (.ref ⟨0⟩) := by
  let first : Stage :=
    .start ⟨0⟩ [(.name "list", .data (.ref ⟨1⟩)), (.name "object", .data (.ref ⟨2⟩))]
  let inList : Stage := first.enter listSharedBelow "list" ⟨1⟩
  let behindItem : Stage := inList.receive ⟨.string "x", 0⟩ inList.progress
  let behindList : Stage := behindItem.leaveFor (.array [.string "x"]) first.inner []
  let inObject : Stage := behindList.enter listSharedBelow "object" ⟨2⟩
  have entersList : Turns listSharedBelow first inList :=
    turns_enter rfl Std.HashMap.not_mem_empty (by decide) (by decide)
  have entersObject : Turns listSharedBelow behindList inObject := by
    refine turns_enter rfl (fun finished => ?_) (by decide) (by decide)
    rcases (Progress.mem_leave_iff ..).mp finished with same | earlier
    · cases same
    · exact Std.HashMap.not_mem_empty earlier
  have reached : Reached listSharedBelow (.ref ⟨0⟩) inObject :=
    ⟨⟨0⟩, _, rfl, (((Relation.ReflTransGen.single entersList).tail rfl).tail rfl).tail entersObject⟩
  refine ⟨inObject, reached, ?_, rfl, (conversion_orderly listSharedBelow (.ref ⟨0⟩)).2 _ reached⟩
  exact (Progress.getElem?_leave behindItem.progress ⟨1⟩ ⟨1⟩ (.array [.string "x"]) 1).trans
    (if_pos rfl)

end Arguments

end HtmlTemplate
