/-
# What bytecode announces is what a run needs

A caller who wants to know whether a run can succeed looks at the variables that the bytecode
announces, which are collected without a run. A run finds out by itself, at the first
instruction whose variable has no value. Both loops go through the same instructions, and
leaving out repetitions changes nothing about the first name without a value. What else the
caller has put among the variables never matters.
-/

import HtmlTemplate.Proofs.Template.Bytecode
import HtmlTemplate.Proofs.Render.Run
import Mathlib.Data.List.Find

namespace HtmlTemplate.Render

open Template

/-- The first variable that a run lacks is the first announced name without a value. -/
theorem findSome?_unbound?_eq (code : Bytecode) (vars : Variables) :
    code.instructions.findSome? (unbound? vars) =
      code.variableNames.find? fun name => (vars.lookup name).isNone := by
  have uses (instructions : List Instruction) :
      instructions.findSome? (unbound? vars) =
        (instructions.filterMap Instruction.variableName?).find? fun name =>
          (vars.lookup name).isNone := by
    induction instructions with
    | nil => rfl
    | cons instruction rest ih =>
        cases instruction with
        | appendLiteral text => exact ih
        | appendVariable name =>
            have use : (Instruction.appendVariable name).variableName? = some name := rfl
            rw [List.findSome?_cons, List.filterMap_cons_some use, List.find?_cons, unbound?, ih]
            cases vars.lookup name with
            | none => rfl
            | some value => rfl
  rw [uses, Bytecode.variableNames, find?_foldl_addName, List.find?_nil, Option.none_or]

/-- Variables that agree on the names of some instructions write the same. -/
theorem written_congr {vars others : Variables} {instructions : List Instruction}
    (agree : ∀ name, .appendVariable name ∈ instructions → vars.lookup name = others.lookup name) :
    written vars instructions = written others instructions := by
  induction instructions with
  | nil => rfl
  | cons instruction rest ih =>
      have later := ih fun name mem => agree name (List.mem_cons_of_mem instruction mem)
      rw [written_cons, written_cons, later]
      cases instruction with
      | appendLiteral text => rfl
      | appendVariable name =>
          rw [contribution, contribution, agree name List.mem_cons_self]

/-- The announced names decide how a run ends. -/
theorem run_eq_find? (code : Bytecode) (vars : Variables) :
    run code vars =
      match code.variableNames.find? fun name => (vars.lookup name).isNone with
      | some name => .error ⟨code.file, .missingArgument name⟩
      | none => .ok (String.ofList (written vars code.instructions)) := by
  rw [← findSome?_unbound?_eq]
  exact run_eq code vars

/-- What the announced names say about a run: -/
structure Announces (code : Bytecode) (vars : Variables) : Prop where
  /-- It succeeds exactly if each of them has a value, -/
  succeeds_iff : (∃ out, run code vars = .ok out) ↔
    ∀ name ∈ code.variableNames, ∃ value, vars.lookup name = some value
  /-- and fails exactly if one has none; then it reports the first such name for its file. -/
  fails_iff : ∀ error, run code vars = .error error ↔
    ∃ name, code.variableNames.find? (fun name => (vars.lookup name).isNone) = some name ∧
      error = ⟨code.file, .missingArgument name⟩
  /-- No name is announced twice, -/
  nodup : code.variableNames.Nodup
  /-- the names are those that instructions look up, -/
  mem_iff : ∀ name, name ∈ code.variableNames ↔ .appendVariable name ∈ code.instructions
  /-- and they come in the order of their first uses. -/
  inOrder : code.variableNames.Pairwise fun earlier later =>
    code.firstUse earlier < code.firstUse later
  /-- Other variables with the same values for these names give the same result. -/
  congr : ∀ others : Variables,
    (∀ name ∈ code.variableNames, vars.lookup name = others.lookup name) →
      run code vars = run code others

/-- A run fails exactly on the variables that its bytecode announces: for all bytecode and all
variables, the announced names say whether it succeeds, which name it reports if it does
not, and which variables it depends on. -/
theorem run_announces (code : Bytecode) (vars : Variables) : Announces code vars where
  succeeds_iff := by
    rw [run_eq_find?]
    cases missing : code.variableNames.find? fun name => (vars.lookup name).isNone with
    | some name =>
        have unbound := List.find?_some missing
        have announced := List.mem_of_find?_eq_some missing
        apply iff_of_false
        · intro succeeds
          obtain ⟨out, ⟨⟩⟩ := succeeds
        · intro bound
          obtain ⟨value, found⟩ := bound name announced
          simp [found] at unbound
    | none =>
        apply iff_of_true ⟨_, rfl⟩
        intro name announced
        have bound := List.find?_eq_none.mp missing name announced
        rw [Option.isNone_iff_eq_none] at bound
        exact Option.ne_none_iff_exists'.mp bound
  fails_iff error := by
    rw [run_eq_find?]
    cases code.variableNames.find? fun name => (vars.lookup name).isNone with
    | some name => simp [eq_comm]
    | none => simp
  nodup := nodup_variableNames code
  mem_iff name := mem_variableNames_iff
  inOrder := pairwise_variableNames code
  congr others agree := by
    have same : written vars code.instructions = written others code.instructions :=
      written_congr fun name mem => agree name (mem_variableNames_iff.mpr mem)
    have missing : code.variableNames.find? (fun name => (vars.lookup name).isNone) =
        code.variableNames.find? fun name => (others.lookup name).isNone :=
      List.find?_congr fun name announced => by rw [agree name announced]
    rw [run_eq_find?, run_eq_find?, missing, same]

end HtmlTemplate.Render
