/-
# Remembering finished containers changes nothing

The conversion that remembers finished containers and the plain unfolding that walks them
again come to the same outcome on every heap: the same variables, or reports that differ at
most in the key that a nesting too deep is reported under. That key may differ because a
remembered container is refused where it is met, and an unfolded one where it gets too deep.

The two are run side by side. At each step either both succeed, and the invariant of the
conversion holds afterwards, or both fail alike.
-/

import HtmlTemplate.Proofs.Arguments.Progress

namespace HtmlTemplate

namespace Render.Cause

/-- The cause without the key that a nesting too deep is reported under. -/
def forgetDepthKey : Cause → Cause
  | .nestingTooDeep _ limit => .nestingTooDeep "" limit
  | other => other

end Render.Cause

namespace Arguments

open Host Render

variable {α β γ δ : Type}

/-- Both computations succeed, with results that satisfy the postcondition, or both fail with
the same report up to the key of a nesting too deep. -/
def Agrees (run : Except Cause (α × Progress)) (plain : Except Cause β)
    (post : α → Progress → β → Prop) : Prop :=
  match run, plain with
  | .ok (a, after), .ok b => post a after b
  | .error cause, .error other => cause.forgetDepthKey = other.forgetDepthKey
  | _, _ => False

namespace Agrees

variable {run : Except Cause (α × Progress)} {plain : Except Cause β}
  {post : α → Progress → β → Prop}

theorem error (cause : Cause) : Agrees (.error cause) (.error cause) post := rfl

/-- Agreement of first steps and of what follows them is agreement of the whole. -/
theorem bind {first : Conversion α} {next : α → Conversion γ} {nextPlain : β → Except Cause δ}
    {nextPost : γ → Progress → δ → Prop} {before : Progress}
    (agrees : Agrees (first.run before) plain post)
    (continues : ∀ a after b, post a after b →
      Agrees ((next a).run after) (nextPlain b) nextPost) :
    Agrees ((first >>= next).run before) (plain >>= nextPlain) nextPost := by
  rw [StateT.run_bind]
  match first.run before, plain, agrees with
  | .ok (a, after), .ok b, agrees => exact continues a after b agrees
  | .error cause, .error other, agrees => exact agrees

theorem map {mapped : α × Progress → γ × Progress} {newPost : γ → Progress → β → Prop}
    (agrees : Agrees run plain post)
    (maps : ∀ a after b, post a after b →
      newPost (mapped (a, after)).1 (mapped (a, after)).2 b) :
    Agrees (run.map mapped) plain newPost := by
  match run, plain, agrees with
  | .ok (a, after), .ok b, agrees => exact maps a after b agrees
  | .error cause, .error other, agrees => exact agrees

end Agrees

/-- After a step that succeeds, the invariant holds and the result shows what was converted. -/
structure Finishes (heap : Heap) (before after : Progress) (inside : List Host.Value)
    (attempt : Nat → List ContainerId → String → Except Cause β) (read : Array Value → β)
    (height : Nat) (result : β) : Prop where
  step : before.Extends after
  valid : after.Valid heap
  shows : Shows heap after inside attempt read height result

/-- Converting the value in this state agrees with unfolding it at the same place. -/
def AgreesFrom (heap : Heap) (before : Progress) (room : Nat) (key : String)
    (value : Host.Value) : Prop :=
  Agrees ((convertValue heap room key value).run before)
    (unfoldValue heap room before.onStack key value)
    fun done after tree => Finishes heap before after [value]
      (fun room above key => unfoldValue heap room above key value) done.slot.toValue
      done.height tree

/-- Converting the value agrees with unfolding it, whatever has been converted before. -/
def ValueAgrees (heap : Heap) (room : Nat) (key : String) (value : Host.Value) : Prop :=
  ∀ before : Progress, before.Valid heap → AgreesFrom heap before room key value

/-- A primitive value is converted to itself and stays on its own. -/
theorem finishes_primitive {heap : Heap} {before : Progress} (valid : before.Valid heap)
    {value : Host.Value} {slot : Slot} {tree : Value} (notRef : ∀ id, value ≠ .ref id)
    (read : ∀ values, slot.toValue values = tree)
    (unfolds : ∀ room above key, unfoldValue heap room above key value = .ok tree) :
    Finishes heap before before [value]
      (fun room above key => unfoldValue heap room above key value) slot.toValue 0 tree where
  step := .refl before
  valid := valid
  shows :=
    { denotes := fun later => read _
      fits := fun room above key _ => by rw [unfolds]; exact .ok tree
      finished := fun id stored => absurd (List.mem_singleton.mp stored).symm (notRef id) }

/-- Items are converted as they are unfolded. -/
theorem convertItems_agrees {heap : Heap} {room : Nat} {key : String}
    (each : ∀ value, ValueAgrees heap room key value) (items : List Host.Value)
    (before : Progress) (valid : before.Valid heap) :
    Agrees ((convertItems (convertValue heap room key) items).run before)
      (items.mapM (unfoldValue heap room before.onStack key))
      fun converted after trees => Finishes heap before after items
        (fun room above key => items.mapM (unfoldValue heap room above key))
        (fun values => converted.1.map (Slot.toValue values)) converted.2 trees := by
  induction items generalizing before with
  | nil =>
      exact ⟨.refl before, valid, fun _ => rfl, fun room above key _ => .ok [],
        fun id stored => absurd stored List.not_mem_nil⟩
  | cons item rest ih =>
      rw [List.mapM_cons]
      refine (each item before valid).bind fun done middle tree first => ?_
      have others := ih middle first.valid
      rw [first.step.onStack] at others
      refine others.bind fun ⟨slots, height⟩ after trees second => ?_
      refine ⟨first.step.trans second.step, second.valid, ?_⟩
      simp only [List.mapM_cons]
      exact (first.shows.mono second.step).pair second.shows List.cons

/-- Properties are converted as they are unfolded, each under its own name. -/
theorem convertProperties_agrees {heap : Heap} {room : Nat}
    (each : ∀ key value, ValueAgrees heap room key value)
    (entries : List (PropertyKey × Property)) (before : Progress) (valid : before.Valid heap) :
    Agrees ((convertProperties (convertValue heap room) entries).run before)
      (entries.mapM (unfoldProperty (unfoldValue heap room before.onStack)))
      fun converted after fields => Finishes heap before after (storedValues entries)
        (fun room above _ => entries.mapM (unfoldProperty (unfoldValue heap room above)))
        (fun values => converted.1.map fun field => (field.1, field.2.toValue values))
        converted.2 fields := by
  induction entries generalizing before with
  | nil =>
      exact ⟨.refl before, valid, fun _ => rfl, fun room above key _ => .ok [],
        fun id stored => absurd stored List.not_mem_nil⟩
  | cons entry rest ih =>
      rw [List.mapM_cons]
      match entry with
      | (.symbol description, _) => exact .error _
      | (.name name, .accessor) => exact .error _
      | (.name name, .data value) =>
          rw [unfoldProperty, bind_assoc]
          refine (each name value before valid).bind fun done middle tree first => ?_
          rw [pure_bind]
          have others := ih middle first.valid
          rw [first.step.onStack] at others
          refine others.bind fun ⟨fields, height⟩ after trees second => ?_
          refine ⟨first.step.trans second.step, second.valid, ?_⟩
          simp only [List.mapM_cons, unfoldProperty, bind_assoc, pure_bind]
          exact ((first.shows.under name).mono second.step).pair second.shows
            fun tree trees => (name, tree) :: trees

/-- The contents of a container are converted as they are unfolded. -/
theorem convertContainer_agrees {heap : Heap} {room : Nat}
    (each : ∀ key value, ValueAgrees heap room key value) (key : String) (container : Container)
    (before : Progress) (valid : before.Valid heap) :
    Agrees ((convertContainer (convertValue heap room) key container).run before)
      (unfoldContainer (unfoldValue heap room before.onStack) key container)
      fun converted after tree => Finishes heap before after container.children
        (fun room above key => unfoldContainer (unfoldValue heap room above) key container)
        converted.1.toValue converted.2 tree := by
  match container with
  | .array items =>
      refine (convertItems_agrees (each key) items before valid).bind
        fun ⟨slots, height⟩ after trees done => ?_
      exact ⟨done.step, done.valid, done.shows.map Value.array⟩
  | .object (.named cls) props => exact .error _
  | .object .plain props =>
      refine (convertProperties_agrees each props.entries before valid).bind
        fun ⟨fields, height⟩ after trees done => ?_
      exact ⟨done.step, done.valid, done.shows.map Value.object⟩

/-- A container that was finished before is used again exactly where unfolding it once more
would give the same tree, and refused exactly where unfolding would get too deep. -/
theorem convertValue_agrees_of_finished {heap : Heap} {room : Nat} {key : String}
    {id : ContainerId} {before : Progress} (valid : before.Valid heap) {done : Converted}
    (found : before.converted[id]? = some done) :
    AgreesFrom heap before room key (.ref id) := by
  obtain ⟨tree, shows⟩ := valid.shown id done found
  have avoids (value : Host.Value) (stored : value ∈ [.ref id]) (inner : ContainerId)
      (leads : heap.LeadsTo value inner) : inner ∉ before.onStack :=
    valid.fresh inner (valid.finished_of_leadsTo shows.finished stored leads)
  have fits := shows.fits room before.onStack key avoids
  have run : (convertValue heap room key (.ref id)).run before =
      if done.height ≤ room then .ok (done, before)
      else .error (.nestingTooDeep key maxNestingDepth) := by
    rw [run_convertValue_ref, found]
  unfold FitsIn at fits
  rw [AgreesFrom, run]
  split at fits
  · rename_i enough
    rw [if_pos enough, fits]
    exact ⟨.refl before, valid, shows⟩
  · rename_i tooHigh
    obtain ⟨deeper, refused⟩ := fits
    rw [if_neg tooHigh, refused]
    rfl

/-- A container that is met for the first time is walked like an unfolded one. -/
theorem convertValue_agrees_of_unfinished {heap : Heap} {room : Nat} {key : String}
    {id : ContainerId} {before : Progress} (valid : before.Valid heap)
    (each : ∀ smaller < room, ∀ key value, ValueAgrees heap smaller key value)
    (unfinished : before.converted[id]? = none) :
    AgreesFrom heap before room key (.ref id) := by
  rw [AgreesFrom, run_convertValue_ref, unfoldValue_ref, unfinished]
  dsimp only
  by_cases onStack : id ∈ before.onStack
  · rw [if_pos onStack, if_pos onStack]
    exact .error _
  rw [if_neg onStack, if_neg onStack]
  cases room with
  | zero => exact .error _
  | succ room =>
      cases opened : heap.inspect? id with
      | none => exact .error _
      | some container =>
          have fresh : id ∉ before.converted := fun finished => by
            rw [Std.HashMap.getElem?_eq_some_getElem finished] at unfinished
            cases unfinished
          refine (convertContainer_agrees (each room (Nat.lt_succ_self room)) key container
            (before.enter id) (valid.enter fresh)).map fun ⟨node, height⟩ after tree done => ?_
          have stack : after.onStack = id :: before.onStack := done.step.onStack
          have stillFresh : id ∉ after.converted := fun finished =>
            done.valid.fresh id finished (by rw [stack]; exact List.mem_cons_self)
          exact ⟨done.step.leave stillFresh, done.valid.leave opened stack onStack done.shows,
            done.valid.showsValue_leave opened stillFresh done.shows⟩

/-- Converting a value agrees with unfolding it, in every state that the invariant admits. -/
theorem convertValue_agrees (heap : Heap) (room : Nat) (key : String) (value : Host.Value) :
    ValueAgrees heap room key value := by
  induction room using Nat.strong_induction_on generalizing key value with
  | _ room ih =>
      intro before valid
      cases value with
      | undefined | bigint value | symbol description | function name =>
          rw [AgreesFrom, convertValue, unfoldValue]
          exact .error _
      | null | bool value | number value | string value =>
          rw [AgreesFrom, convertValue, unfoldValue]
          exact finishes_primitive valid (fun id => by rintro ⟨⟩) (fun values => rfl)
            fun room above key => by rw [unfoldValue]
      | ref id =>
          cases found : before.converted[id]? with
          | some done => exact convertValue_agrees_of_finished valid found
          | none => exact convertValue_agrees_of_unfinished valid ih found

/-- The whole conversion agrees with the plain unfolding. -/
theorem convert_agrees (heap : Heap) (arguments : Host.Value) :
    (∃ graph, convert heap arguments = .ok graph ∧
        unfold heap arguments = .ok graph.toVariables) ∨
      ∃ cause other, convert heap arguments = .error cause ∧
        unfold heap arguments = .error other ∧ cause.forgetDepthKey = other.forgetDepthKey := by
  unfold convert Arguments.unfold
  cases argumentProperties heap arguments with
  | error cause => exact .inr ⟨cause, cause, rfl, rfl, rfl⟩
  | ok found =>
      obtain ⟨id, props⟩ := found
      have agrees := convertProperties_agrees (convertValue_agrees heap maxNestingDepth) props
        (.start id) (Progress.valid_start heap id)
      dsimp only [bind, Except.bind]
      match (convertProperties (convertValue heap maxNestingDepth) props).run (.start id),
        props.mapM (unfoldProperty (unfoldValue heap maxNestingDepth [id])), agrees with
      | .ok ((bindings, height), after), .ok trees, done =>
          have shown : bindings.map (fun field =>
              (field.1, field.2.toValue (Graph.values after.nodes))) = trees := by
            simpa using done.shows.denotes #[]
          exact .inl ⟨⟨after.nodes, bindings⟩, rfl, congrArg Except.ok shown.symm⟩
      | .error cause, .error other, same => exact .inr ⟨cause, other, rfl, rfl, same⟩

/-- The conversion gives a result exactly where the plain unfolding does. -/
theorem convert_ok_iff_unfold_ok (heap : Heap) (arguments : Host.Value) :
    (∃ graph, convert heap arguments = .ok graph) ↔
      ∃ trees, Arguments.unfold heap arguments = .ok trees := by
  obtain ⟨graph, converted, unfolded⟩ | ⟨cause, other, converted, unfolded, _⟩ :=
    convert_agrees heap arguments
  · exact ⟨fun _ => ⟨_, unfolded⟩, fun _ => ⟨_, converted⟩⟩
  · simp [converted, unfolded]

/-- Remembering finished containers is transparent: the conversion succeeds exactly where the
plain unfolding does, with the same variables in the same order, and where one fails the
other does, with the same report up to the key of a nesting too deep. -/
theorem convert_eq_unfold (heap : Heap) (arguments : Host.Value) :
    ((convert heap arguments).map Graph.toVariables).mapError Cause.forgetDepthKey =
      (Arguments.unfold heap arguments).mapError Cause.forgetDepthKey := by
  obtain ⟨graph, converted, unfolded⟩ | ⟨cause, other, converted, unfolded, same⟩ :=
    convert_agrees heap arguments
  · rw [converted, unfolded]
    rfl
  · rw [converted, unfolded]
    exact congrArg Except.error same

end Arguments

end HtmlTemplate
