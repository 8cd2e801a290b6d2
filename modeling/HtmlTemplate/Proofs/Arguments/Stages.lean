/-
# The conversion step by step

A conversion is a recursion, and what is inside it while it runs does not show in its result.
Here it is taken apart into stages. A stage is how far the conversion has come, how deep it is,
and the open containers: those that were entered and not left yet, each with what was made of
its contents and what is left of them. A turn deals with one value, which is entered or comes to
something at once, or leaves the innermost container when nothing is left in it. A conversion
comes to exactly what the turns that begin with the arguments come to.
-/

import HtmlTemplate.Proofs.Arguments.Acceptance
import HtmlTemplate.Proofs.Arguments.Progress

namespace HtmlTemplate.Arguments

open Host Render

variable {α β : Type}

/-- What comes next in a container: a value and the name that reports give it, the end with the
node that was made, or a reason to give up. -/
inductive Due where
  | value (key : String) (value : Host.Value)
  | finished (node : Node)
  | fault (cause : Cause)

/-- The contents of a container: what was made of some of them, and the others, which are left.
Items are reported under the name that the list has. A container that was entered although it
cannot be walked is refused before anything is made of it. -/
inductive Contents where
  | items (key : String) (made : List Slot) (left : List Host.Value)
  | fields (made : List (String × Slot)) (left : List (PropertyKey × Property))
  | refused (cause : Cause)

namespace Contents

/-- The contents of a container that was just entered, if it may be looked into. -/
def ofContainer (key : String) : Option Container → Contents
  | none => .refused (.uninspectable key)
  | some (.array stored) => .items key [] stored
  | some (.object (.named cls) _) => .refused (.invalidValue key cls (some plainObjectNote))
  | some (.object .plain props) => .fields [] props.entries

/-- The contents of a container that was walked to its end, where this node was made of it. -/
def ofNode (key : String) : Node → Contents
  | .array made => .items key made []
  | .object made => .fields made []

/-- What comes next. -/
def due : Contents → Due
  | .items _ made [] => .finished (.array made)
  | .items key _ (item :: _) => .value key item
  | .fields made [] => .finished (.object made)
  | .fields _ ((.symbol description, _) :: _) =>
      .fault (.invalidKey (PropertyKey.symbol description).display)
  | .fields _ ((.name name, .accessor) :: _) => .fault (.accessorProperty name)
  | .fields _ ((.name name, .data value) :: _) => .value name value
  | .refused cause => .fault cause

/-- Put what was made of the next value behind what was made of those before it. -/
def receive (slot : Slot) : Contents → Contents
  | .items key made (_ :: left) => .items key (made ++ [slot]) left
  | .fields made ((.name name, .data _) :: left) => .fields (made ++ [(name, slot)]) left
  | contents => contents

@[simp]
theorem due_ofNode (key : String) (node : Node) : (ofNode key node).due = .finished node := by
  cases node <;> rfl

end Contents

/-- A container that was entered and not left yet. The height is that of the highest value that
was made of its contents so far. -/
structure OpenContainer where
  id : ContainerId
  contents : Contents
  height : Nat

/-- Take in what was made of the next value. -/
def OpenContainer.receive (container : OpenContainer) (done : Converted) : OpenContainer :=
  { container with
    contents := container.contents.receive done.slot
    height := max container.height done.height }

/-- A stage of a conversion: how many containers were entered below the arguments and not left,
how far the conversion has come, and the open containers, of which the innermost is walked. -/
structure Stage where
  depth : Nat
  progress : Progress
  inner : OpenContainer
  outer : List OpenContainer

namespace Stage

/-- The first stage. The arguments are open from the start. -/
def start (arguments : ContainerId) (entries : List (PropertyKey × Property)) : Stage :=
  ⟨0, .start arguments, ⟨arguments, .fields [] entries, 0⟩, []⟩

/-- Take in what was made of the next value of the innermost container. -/
def receive (stage : Stage) (done : Converted) (after : Progress) : Stage :=
  { stage with progress := after, inner := stage.inner.receive done }

/-- Enter a container, one level down. -/
def enter (heap : Heap) (stage : Stage) (key : String) (id : ContainerId) : Stage where
  depth := stage.depth + 1
  progress := stage.progress.enter id
  inner := ⟨id, .ofContainer key (heap.inspect? id), 0⟩
  outer := stage.inner :: stage.outer

/-- Deal with the next value. A container that was finished before is taken as it is, and any
other is entered, unless there is a reason not to. -/
def visit (heap : Heap) (stage : Stage) (key : String) : Host.Value → Except Cause Stage
  | .null => .ok (stage.receive ⟨.null, 0⟩ stage.progress)
  | .bool value => .ok (stage.receive ⟨.bool value, 0⟩ stage.progress)
  | .number value => .ok (stage.receive ⟨.number value, 0⟩ stage.progress)
  | .string value => .ok (stage.receive ⟨.string value, 0⟩ stage.progress)
  | .undefined => .error (.invalidValue key "undefined" none)
  | .bigint _ => .error (.invalidValue key "bigint" none)
  | .symbol _ => .error (.invalidValue key "symbol" none)
  | .function _ => .error (.invalidValue key "function" none)
  | .ref id =>
      let depth := stage.depth + 1
      match stage.progress.converted[id]? with
      | some done =>
          if depth + done.height - 1 > maxNestingDepth then
            .error (.nestingTooDeep key maxNestingDepth)
          else .ok (stage.receive done stage.progress)
      | none =>
          if id ∈ stage.progress.onStack then .error .cyclicReference
          else if depth > maxNestingDepth then .error (.nestingTooDeep key maxNestingDepth)
          else .ok (stage.enter heap key id)

/-- Leave the innermost container, one level up, for the one around it. -/
def leaveFor (stage : Stage) (node : Node) (around : OpenContainer)
    (outer : List OpenContainer) : Stage :=
  let left := stage.progress.leave stage.inner.id node (stage.inner.height + 1)
  ⟨stage.depth - 1, left.2, around.receive left.1, outer⟩

/-- Leave the innermost container. The arguments are never left. -/
def leave (stage : Stage) (node : Node) : Option Stage :=
  match stage.outer with
  | [] => none
  | around :: outer => some (stage.leaveFor node around outer)

/-- One turn. There is none after the end of the arguments. -/
def turn (heap : Heap) (stage : Stage) : Except Cause (Option Stage) :=
  match stage.inner.contents.due with
  | .fault cause => .error cause
  | .value key value => (stage.visit heap key value).map some
  | .finished node => .ok (stage.leave node)

/-- One turn leads from a stage to the next. -/
def Turns (heap : Heap) (stage next : Stage) : Prop := stage.turn heap = .ok (some next)

/-- Some number of turns, possibly none, lead from the first stage to the second. -/
def Leads (heap : Heap) : Stage → Stage → Prop := Relation.ReflTransGen (Turns heap)

/-- The conversion of the arguments comes to this stage. -/
def Reached (heap : Heap) (arguments : Host.Value) (stage : Stage) : Prop :=
  ∃ root entries, argumentProperties heap arguments = .ok (root, entries) ∧
    Leads heap (start root entries) stage

/-- The conversion is over at this stage, and this is what it made. -/
structure Yields (heap : Heap) (stage : Stage) (graph : Graph) : Prop where
  ended : stage.turn heap = .ok none
  nodes : stage.progress.nodes = graph.nodes
  bindings : stage.inner.contents.due = .finished (.object graph.bindings)

/-- The conversion ends at this stage with this outcome: it made a graph, or the turn fails. -/
def EndsWith (heap : Heap) (stage : Stage) : Except Cause Graph → Prop
  | .ok graph => stage.Yields heap graph
  | .error cause => stage.turn heap = .error cause

/-- What the stages come to, if the arguments can be walked at all. -/
inductive ComesTo (heap : Heap) (arguments : Host.Value) : Except Cause Graph → Prop where
  | unread {cause : Cause} (read : argumentProperties heap arguments = .error cause) :
      ComesTo heap arguments (.error cause)
  | ended {outcome : Except Cause Graph} {last : Stage} (reached : Reached heap arguments last)
      (ends : last.EndsWith heap outcome) : ComesTo heap arguments outcome

section Turns

variable {heap : Heap} {stage first second : Stage} {outcome other : Except Cause Graph}

/-- At most one stage is next. -/
theorem turns_rightUnique (heap : Heap) : Relator.RightUnique (Turns heap) := by
  intro stage first second toFirst toSecond
  exact Option.some.inj (Except.ok.inj (toFirst.symm.trans toSecond))

/-- No stage is next where the conversion ends. -/
theorem EndsWith.not_turns (ends : stage.EndsWith heap outcome) (next : Stage) :
    ¬ Turns heap stage next := by
  intro turns
  cases outcome with
  | ok graph => cases ends.ended.symm.trans turns
  | error cause => cases ends.symm.trans turns

/-- It ends with one outcome there. -/
theorem EndsWith.unique (ends : stage.EndsWith heap outcome)
    (endsToo : stage.EndsWith heap other) : outcome = other := by
  cases outcome with
  | error cause =>
      cases other with
      | error again => exact congrArg Except.error (Except.error.inj (ends.symm.trans endsToo))
      | ok graph => cases ends.symm.trans endsToo.ended
  | ok graph =>
      cases other with
      | error cause => cases ends.ended.symm.trans endsToo
      | ok again =>
          obtain ⟨nodes, bindings⟩ := graph
          obtain ⟨nodesToo, bindingsToo⟩ := again
          obtain ⟨⟩ := ends.nodes.symm.trans endsToo.nodes
          obtain ⟨⟩ := ends.bindings.symm.trans endsToo.bindings
          rfl

/-- All the stages at which it may end are one. -/
theorem EndsWith.eq_of_leads (ends : first.EndsWith heap outcome)
    (endsToo : second.EndsWith heap other) (toFirst : Leads heap stage first)
    (toSecond : Leads heap stage second) : first = second := by
  have stays {last next : Stage} (lasts : ∀ next, ¬ Turns heap last next)
      (leads : Leads heap last next) : last = next := by
    rcases Relation.ReflTransGen.cases_head leads with same | ⟨between, turns, _⟩
    · exact same
    · exact absurd turns (lasts between)
  rcases Relation.ReflTransGen.total_of_right_unique (turns_rightUnique heap) toFirst toSecond with
    leads | leads
  · exact stays ends.not_turns leads
  · exact (stays endsToo.not_turns leads).symm

/-- The stages come to one outcome. -/
theorem ComesTo.unique {arguments : Host.Value} (comes : ComesTo heap arguments outcome)
    (comesToo : ComesTo heap arguments other) : outcome = other := by
  cases comes with
  | unread read =>
      cases comesToo with
      | unread again => exact congrArg Except.error (Except.error.inj (read.symm.trans again))
      | ended reached _ =>
          obtain ⟨_, _, there, _⟩ := reached
          cases read.symm.trans there
  | ended reached ends =>
      obtain ⟨root, entries, read, leads⟩ := reached
      cases comesToo with
      | unread again => cases again.symm.trans read
      | ended reachedToo endsToo =>
          obtain ⟨_, _, readToo, leadsToo⟩ := reachedToo
          cases read.symm.trans readToo
          obtain rfl := ends.eq_of_leads endsToo leads leadsToo
          exact ends.unique endsToo

end Turns

/-- From this stage on the turns come to what the run comes to: to the stage to resume at, or to
a turn that fails for the same reason. -/
def Performs (heap : Heap) (stage : Stage) (resume : α → Progress → Stage) :
    Except Cause (α × Progress) → Prop
  | .ok (result, after) => Leads heap stage (resume result after)
  | .error cause => ∃ last, Leads heap stage last ∧ last.turn heap = .error cause

namespace Performs

variable {heap : Heap} {stage next : Stage} {resume : α → Progress → Stage}
  {run : Except Cause (α × Progress)}

/-- Nothing is left to do at the stage to resume at. -/
theorem done {result : α} {after : Progress} (same : stage = resume result after) :
    Performs heap stage resume (.ok (result, after)) := by
  rw [same]
  exact Relation.ReflTransGen.refl

/-- Turns may come before. -/
theorem after (leads : Leads heap stage next) (performs : Performs heap next resume run) :
    Performs heap stage resume run := by
  match run, performs with
  | .ok (result, after), performs => exact leads.trans performs
  | .error cause, ⟨last, toLast, fails⟩ => exact ⟨last, leads.trans toLast, fails⟩

/-- Of two conversions in a row the second is taken up where the first is done. -/
theorem bind {before : Progress} {first : Conversion α} {next : α → Conversion β}
    {resumeNext : β → Progress → Stage} (performs : Performs heap stage resume (first.run before))
    (goesOn : ∀ result after,
      Performs heap (resume result after) resumeNext ((next result).run after)) :
    Performs heap stage resumeNext ((first >>= next).run before) := by
  rw [StateT.run_bind]
  match first.run before, performs with
  | .ok (result, after), leads => exact (goesOn result after).after leads
  | .error cause, fails => exact fails

/-- A last turn may come behind. -/
theorem map {mapped : α × Progress → β × Progress} {resumeMapped : β → Progress → Stage}
    (performs : Performs heap stage resume run)
    (turns : ∀ result after, Turns heap (resume result after)
      (resumeMapped (mapped (result, after)).1 (mapped (result, after)).2)) :
    Performs heap stage resumeMapped (run.map mapped) := by
  match run, performs with
  | .ok (result, after), leads => exact Relation.ReflTransGen.tail leads (turns result after)
  | .error cause, fails => exact fails

end Performs

section Simulation

variable {heap : Heap} {room depth height : Nat} {id : ContainerId} {before : Progress}
  {outer : List OpenContainer}

/-- The turns deal with the value that is due as its conversion does, with this much room left
below the stage. -/
def ValuePerforms (heap : Heap) (room : Nat) : Prop :=
  ∀ (stage : Stage) (key : String) (value : Host.Value),
    stage.depth + room = maxNestingDepth → stage.inner.contents.due = .value key value →
      Performs heap stage stage.receive ((convertValue heap room key value).run stage.progress)

/-- A list is walked item by item. -/
theorem convertItems_performs (each : ValuePerforms heap room) {key : String}
    {left : List Host.Value} {made : List Slot} (place : depth + room = maxNestingDepth) :
    Performs heap ⟨depth, before, ⟨id, .items key made left, height⟩, outer⟩
      (fun result after =>
        ⟨depth, after, ⟨id, .items key (made ++ result.1) [], max height result.2⟩, outer⟩)
      ((convertItems (convertValue heap room key) left).run before) := by
  induction left generalizing before made height with
  | nil => exact .done (by simp)
  | cons item rest ih =>
      refine (each _ key item place rfl).bind fun done middle => ?_
      refine ih.bind fun rest after => .done ?_
      simp [Nat.max_assoc]

/-- An object is walked property by property, up to one that it is refused for. -/
theorem convertProperties_performs (each : ValuePerforms heap room)
    {left : List (PropertyKey × Property)} {made : List (String × Slot)}
    (place : depth + room = maxNestingDepth) :
    Performs heap ⟨depth, before, ⟨id, .fields made left, height⟩, outer⟩
      (fun result after =>
        ⟨depth, after, ⟨id, .fields (made ++ result.1) [], max height result.2⟩, outer⟩)
      ((convertProperties (convertValue heap room) left).run before) := by
  induction left generalizing before made height with
  | nil => exact .done (by simp)
  | cons entry rest ih =>
      match entry with
      | (.symbol description, property) => exact ⟨_, .refl, rfl⟩
      | (.name name, .accessor) => exact ⟨_, .refl, rfl⟩
      | (.name name, .data value) =>
          refine (each _ name value place rfl).bind fun done middle => ?_
          refine ih.bind fun rest after => .done ?_
          simp [Nat.max_assoc]

/-- A container that was entered is walked to its end and left. -/
theorem convertContainer_performs (each : ValuePerforms heap room) (stage : Stage) (key : String)
    (id : ContainerId) {container : Container} (opened : heap.inspect? id = some container)
    (place : stage.depth + 1 + room = maxNestingDepth) :
    Performs heap (stage.enter heap key id) stage.receive
      (((convertContainer (convertValue heap room) key container).run
        (stage.progress.enter id)).map
          fun ((node, height), after) => after.leave id node (height + 1)) := by
  have walks : Performs heap (stage.enter heap key id)
      (fun result after => ⟨stage.depth + 1, after, ⟨id, .ofNode key result.1, result.2⟩,
        stage.inner :: stage.outer⟩)
      ((convertContainer (convertValue heap room) key container).run
        (stage.progress.enter id)) := by
    rw [enter, opened]
    match container with
    | .array items =>
        exact (convertItems_performs each place).bind fun result after =>
          .done (by simp [Contents.ofNode])
    | .object (.named cls) props => exact ⟨_, .refl, rfl⟩
    | .object .plain props =>
        exact (convertProperties_performs each place).bind fun result after =>
          .done (by simp [Contents.ofNode])
  refine walks.map fun result after => ?_
  rw [Turns, turn, Contents.due_ofNode]
  rfl

theorem turn_of_due {stage : Stage} {key : String} {value : Host.Value}
    (due : stage.inner.contents.due = .value key value) :
    stage.turn heap = (stage.visit heap key value).map some := by
  rw [turn, due]

/-- Everything that dealing with a reference can come to, in terms of the room below the stage. -/
theorem visit_ref (heap : Heap) {stage : Stage} (place : stage.depth + room = maxNestingDepth)
    (key : String) (id : ContainerId) :
    stage.visit heap key (.ref id) =
      match stage.progress.converted[id]? with
      | some done =>
          if done.height ≤ room then .ok (stage.receive done stage.progress)
          else .error (.nestingTooDeep key maxNestingDepth)
      | none =>
          if id ∈ stage.progress.onStack then .error .cyclicReference
          else match room with
            | 0 => .error (.nestingTooDeep key maxNestingDepth)
            | _ + 1 => .ok (stage.enter heap key id) := by
  rw [visit]
  cases stage.progress.converted[id]? with
  | some done =>
      have tooDeep_iff : stage.depth + 1 + done.height - 1 > maxNestingDepth ↔
          ¬ done.height ≤ room := by omega
      simp only [tooDeep_iff, ite_not]
  | none =>
      dsimp only
      split
      · rfl
      · cases room with
        | zero => rw [if_pos (by omega)]
        | succ room => rw [if_neg (by omega)]

/-- The turns deal with every value as its conversion does. -/
theorem valuePerforms (heap : Heap) (room : Nat) : ValuePerforms heap room := by
  induction room using Nat.strong_induction_on with
  | _ room ih =>
      intro stage key value place due
      have fails {cause : Cause} (refused : stage.visit heap key value = .error cause) :
          ∃ last, Leads heap stage last ∧ last.turn heap = .error cause :=
        ⟨stage, .refl, by rw [turn_of_due due, refused]; rfl⟩
      have turns {next : Stage} (dealt : stage.visit heap key value = .ok next) :
          Leads heap stage next :=
        .single (by rw [Turns, turn_of_due due, dealt]; rfl)
      cases value with
      | undefined | bigint value | symbol description | function name =>
          rw [convertValue]
          exact fails rfl
      | null | bool value | number value | string value =>
          rw [convertValue]
          exact turns rfl
      | ref id =>
          have visited := visit_ref heap place key id
          rw [run_convertValue_ref]
          cases found : stage.progress.converted[id]? with
          | some done =>
              rw [found] at visited
              dsimp only at visited ⊢
              split at visited
              · rw [if_pos ‹_›]
                exact turns visited
              · rw [if_neg ‹_›]
                exact fails visited
          | none =>
              rw [found] at visited
              dsimp only at visited ⊢
              by_cases onStack : id ∈ stage.progress.onStack
              · rw [if_pos onStack] at visited ⊢
                exact fails visited
              rw [if_neg onStack] at visited ⊢
              cases room with
              | zero => exact fails visited
              | succ room =>
                  refine Performs.after (turns visited) ?_
                  cases opened : heap.inspect? id with
                  | none => exact ⟨_, .refl, by rw [turn, enter, opened]; rfl⟩
                  | some container =>
                      exact convertContainer_performs (ih room (Nat.lt_succ_self room)) stage key
                        id opened (by omega)

end Simulation

/-- The turns that begin with the arguments come to what the conversion of their properties
comes to. -/
theorem start_performs (heap : Heap) (root : ContainerId)
    (entries : List (PropertyKey × Property)) :
    Performs heap (start root entries)
      (fun result after => ⟨0, after, ⟨root, .fields result.1 [], max 0 result.2⟩, []⟩)
      ((convertProperties (convertValue heap maxNestingDepth) entries).run (.start root)) :=
  convertProperties_performs (valuePerforms heap maxNestingDepth) (Nat.zero_add _)

/-- The stages come to what the conversion comes to. -/
theorem comesTo_convert (heap : Heap) (arguments : Host.Value) :
    ComesTo heap arguments (convert heap arguments) := by
  unfold convert
  cases read : argumentProperties heap arguments with
  | error cause => exact .unread read
  | ok found =>
      obtain ⟨root, entries⟩ := found
      have performs := start_performs heap root entries
      dsimp only [bind, Except.bind]
      match (convertProperties (convertValue heap maxNestingDepth) entries).run (.start root),
        performs with
      | .ok ((bindings, height), after), leads =>
          have yields : Yields heap ⟨0, after, ⟨root, .fields bindings [], max 0 height⟩, []⟩
              ⟨after.nodes, bindings⟩ := ⟨rfl, rfl, rfl⟩
          exact .ended ⟨root, entries, read, leads⟩ yields
      | .error cause, ⟨last, leads, fails⟩ => exact .ended ⟨root, entries, read, leads⟩ fails

/-- And to nothing else. -/
theorem convert_eq_iff_comesTo {heap : Heap} {arguments : Host.Value}
    {outcome : Except Cause Graph} :
    convert heap arguments = outcome ↔ ComesTo heap arguments outcome := by
  constructor
  · rintro rfl
    exact comesTo_convert heap arguments
  · exact (comesTo_convert heap arguments).unique

end Stage

end HtmlTemplate.Arguments
