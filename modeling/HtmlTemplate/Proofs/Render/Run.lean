/-
# What running bytecode writes

Each instruction contributes a piece of text that depends on nothing but itself and the
variables. A run writes the contributions one after the other, unless a variable of the
template has no value; then it fails with the first such name.
-/

import HtmlTemplate.Render.Template
import HtmlTemplate.Proofs.Markup.Escape

namespace HtmlTemplate.Render

open Template

/-- The variable for lack of which an instruction fails. -/
def unbound? (vars : Variables) : Instruction → Option String
  | .appendLiteral _ => none
  | .appendVariable name => if (vars.lookup name).isNone then some name else none

/-- What an instruction contributes to the output, if it does not fail. -/
def contribution (vars : Variables) : Instruction → List Char
  | .appendLiteral text => text.toList
  | .appendVariable name =>
      match vars.lookup name with
      | some value => Markup.escapeChars value.display.toList
      | none => []

/-- What instructions contribute together. -/
def written (vars : Variables) (instructions : List Instruction) : List Char :=
  instructions.flatMap (contribution vars)

@[simp] theorem written_nil (vars : Variables) : written vars [] = [] := rfl

@[simp] theorem written_cons (vars : Variables) (instruction : Instruction)
    (rest : List Instruction) :
    written vars (instruction :: rest) = contribution vars instruction ++ written vars rest :=
  List.flatMap_cons

@[simp] theorem written_append (vars : Variables) (first second : List Instruction) :
    written vars (first ++ second) = written vars first ++ written vars second :=
  List.flatMap_append

/-- A run fails at the first variable without a value, or appends every contribution. -/
theorem runFrom_eq (vars : Variables) (out : String) (instructions : List Instruction) :
    runFrom vars out instructions =
      match instructions.findSome? (unbound? vars) with
      | some name => .error (.missingArgument name)
      | none => .ok (out ++ String.ofList (written vars instructions)) := by
  induction instructions generalizing out with
  | nil => simp [runFrom]
  | cons instruction rest ih =>
      rw [List.findSome?_cons]
      cases instruction with
      | appendLiteral text =>
          have joined (tail : List Char) :
              out ++ text ++ String.ofList tail = out ++ String.ofList (text.toList ++ tail) := by
            rw [String.ofList_append, String.ofList_toList, String.append_assoc]
          rw [runFrom, ih, written_cons, contribution, joined]
          rfl
      | appendVariable name =>
          rw [runFrom, unbound?]
          cases found : vars.lookup name with
          | none => rfl
          | some value =>
              dsimp only
              rw [Markup.pushEscaped_eq, ih, written_cons, contribution, found,
                String.ofList_append, String.append_assoc]
              rfl

/-- A run of bytecode blames the first variable without a value on its file, or gives what the
instructions contribute. -/
theorem run_eq (code : Bytecode) (vars : Variables) :
    run code vars =
      match code.instructions.findSome? (unbound? vars) with
      | some name => .error ⟨code.file, .missingArgument name⟩
      | none => .ok (String.ofList (written vars code.instructions)) := by
  rw [run, runFrom_eq]
  cases code.instructions.findSome? (unbound? vars) with
  | some name => rfl
  | none =>
      rw [String.empty_append]
      rfl

/-- A successful run has written what the instructions contribute. -/
theorem toList_of_run_eq_ok {code : Bytecode} {vars : Variables} {out : String}
    (succeeds : run code vars = .ok out) : out.toList = written vars code.instructions := by
  rw [run_eq] at succeeds
  cases missing : code.instructions.findSome? (unbound? vars) with
  | some name =>
      rw [missing] at succeeds
      cases succeeds
  | none =>
      rw [missing] at succeeds
      cases succeeds
      exact String.toList_ofList

end HtmlTemplate.Render
