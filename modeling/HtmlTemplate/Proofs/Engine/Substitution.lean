/-
# Rendering is substitution

A template can be read as a text with holes: one pass over the graphemes of its source
copies the literal text and fills in the escaped arguments. The stages of the engine hand
tokens, bytecode and checked arguments to each other instead, and come to the same result,
failures and their order included.

What the two readings share at any moment is the unread part of the source. The tokens
that are still to come say what the rest of the pass writes, behind the literal that is
open.
-/

import HtmlTemplate.Engine.Basic
import HtmlTemplate.Proofs.Template.Reading
import HtmlTemplate.Proofs.Render.Run

namespace HtmlTemplate.Engine

open Text Template Render

/-- What one pass over a source comes to: the first malformed escape, the first variable that
has no value, and the text that is written. -/
structure Pass where
  fault : Option SyntaxError
  missing : Option String
  output : List Char

namespace Pass

/-- Nothing is left to read. -/
def done : Pass := ⟨none, none, []⟩

/-- The pass ends early at a malformed escape. -/
def refuse (error : SyntaxError) : Pass := ⟨some error, none, []⟩

/-- Write a text before what the rest of the pass writes. -/
def write (text : List Char) (pass : Pass) : Pass := { pass with output := text ++ pass.output }

/-- Write the escaped text of a variable before what the rest of the pass writes. -/
def substitute (vars : Variables) (name : String) (pass : Pass) : Pass :=
  match vars.lookup name with
  | some value => pass.write (Markup.escapeChars value.display.toList)
  | none => { pass with missing := some name }

end Pass

/-- The pass over the unread graphemes, which begin at `here`. -/
def passFrom (vars : Variables) (here : Location) : List Grapheme → Pass
  | [] => .done
  | g :: rest =>
      if g = .atSign then
        match rest with
        | [] => Pass.done.write ['@']
        | next :: others =>
            if next = .atSign then
              (passFrom vars ((here.after g).after next) others).write ['@']
            else if next.isIdentifierStart then
              let name := (next :: others).takeWhile Grapheme.isIdentifierPart
              let behind := (next :: others).dropWhile Grapheme.isIdentifierPart
              (passFrom vars ((here.after g).afterAll name) behind).substitute vars
                (String.ofList (name.flatMap Grapheme.chars))
            else .refuse (.invalidEscape next.text here)
      else (passFrom vars (here.after g) rest).write g.chars
termination_by gs => gs.length
decreasing_by
  · simp only [List.length_cons]; omega
  · exact Nat.lt_succ_of_le (length_afterName_le (next :: others))
  · exact Nat.lt_succ_self rest.length

/-- What a pass gives. A malformed escape counts before bad arguments, and these count before a
variable that has none. -/
def Pass.outcome (file : String) (converted : Except Cause Variables) (pass : Pass) :
    Except Error String :=
  match pass.fault with
  | some error => .error (.compile error)
  | none =>
      match converted with
      | .error cause => .error (.render ⟨file, cause⟩)
      | .ok _ =>
          match pass.missing with
          | some name => .error (.render ⟨file, .missingArgument name⟩)
          | none => .ok (String.ofList pass.output)

/-- Evaluate a source in one pass. -/
def evaluate (file source : String) (heap : Host.Heap) (arguments : Host.Value) :
    Except Error String :=
  let converted := (Arguments.convert heap arguments).map Arguments.Graph.toVariables
  let pass := passFrom (converted.toOption.getD []) (.start file) (graphemes source)
  pass.outcome file converted

/-- Compile a source, then render it. -/
def staged (file source : String) (heap : Host.Heap) (arguments : Host.Value) :
    Except Error String := do
  let code ← (Template.compile file source).mapError .compile
  (Render.render heap code arguments).mapError .render

/-- What reading the rest of a source says about the pass over it, when a literal is open:
it fails with the same fault, or its tokens lack the same variable and write the same text. -/
def Foretells (vars : Variables) (literal : Literal) (pass : Pass) :
    Except SyntaxError (List Token) → Prop
  | .error error => pass.fault = some error
  | .ok tokens =>
      pass.fault = none ∧
      (tokens.map Instruction.ofToken).findSome? (unbound? vars) = pass.missing ∧
      written vars (tokens.map Instruction.ofToken) = literal.text.toList ++ pass.output

/-- A finished literal lacks no variable. -/
theorem findSome?_tokens (vars : Variables) (literal : Literal) (rest : List Instruction) :
    (literal.tokens.map Instruction.ofToken ++ rest).findSome? (unbound? vars) =
      rest.findSome? (unbound? vars) := by
  unfold Literal.tokens
  split
  · rfl
  · rfl

/-- A finished literal writes its text, whether or not it leaves a token. -/
theorem written_tokens (vars : Variables) (literal : Literal) (rest : List Instruction) :
    written vars (literal.tokens.map Instruction.ofToken ++ rest) =
      literal.text.toList ++ written vars rest := by
  unfold Literal.tokens
  split
  · rename_i empty
    rw [empty]
    rfl
  · rfl

/-- The end of a source finishes the open literal. -/
theorem foretells_done (vars : Variables) (literal : Literal) :
    Foretells vars literal .done (.ok literal.tokens) := by
  have missing := findSome?_tokens vars literal []
  have output := written_tokens vars literal []
  rw [List.append_nil] at missing output
  exact ⟨rfl, missing, output⟩

/-- A grapheme that was put into the open literal is written before the rest. -/
theorem Foretells.write {vars : Variables} {literal : Literal} {g : Grapheme} {pass : Pass}
    {result : Except SyntaxError (List Token)}
    (foretells : Foretells vars (literal.push g) pass result) :
    Foretells vars literal (pass.write g.chars) result := by
  cases result with
  | error error => exact foretells
  | ok tokens =>
      obtain ⟨fault, missing, output⟩ := foretells
      refine ⟨fault, missing, ?_⟩
      rw [output, Literal.push, Grapheme.text, String.toList_append, String.toList_ofList,
        List.append_assoc]
      rfl

/-- A variable is written behind the literal that it finishes. -/
theorem Foretells.substitute {vars : Variables} {literal : Literal} {behind : Location}
    {pass : Pass} {result : Except SyntaxError (List Token)}
    (foretells : Foretells vars (.startingAt behind) pass result) (name : String)
    (here : Location) :
    Foretells vars literal (pass.substitute vars name)
      (result.map fun tokens => literal.tokens ++ .var name here :: tokens) := by
  cases result with
  | error error =>
      rw [Pass.substitute]
      cases vars.lookup name with
      | none => exact foretells
      | some value => exact foretells
  | ok tokens =>
      obtain ⟨fault, missing, output⟩ := foretells
      have text : written vars (tokens.map Instruction.ofToken) = pass.output := output
      have emits : Instruction.ofToken (.var name here) = .appendVariable name := rfl
      rw [Except.map, Foretells, List.map_append, List.map_cons, findSome?_tokens, written_tokens,
        emits, written_cons, text, List.findSome?_cons, unbound?, contribution, Pass.substitute]
      cases vars.lookup name with
      | none => exact ⟨fault, rfl, rfl⟩
      | some value => exact ⟨fault, missing, rfl⟩

/-- Reading the rest of a source foretells the pass over it. -/
theorem foretells_tokensFrom (vars : Variables) (here : Location) (literal : Literal)
    (gs : List Grapheme) :
    Foretells vars literal (passFrom vars here gs) (tokensFrom here literal gs) := by
  fun_induction tokensFrom here literal gs with
  | case1 here literal =>
      rw [passFrom]
      exact foretells_done vars literal
  | case2 here literal =>
      rw [passFrom, if_pos rfl]
      exact (foretells_done vars (literal.push .atSign)).write
  | case3 here literal others ih =>
      rw [passFrom, if_pos rfl, if_pos rfl]
      exact ih.write
  | case4 here literal next others single starts name behind tokens read ih =>
      rw [passFrom, if_pos rfl, if_neg single, if_pos starts, joinText_eq]
      rw [read] at ih
      exact ih.substitute _ here
  | case5 here literal next others single starts name behind error read ih =>
      rw [passFrom, if_pos rfl, if_neg single, if_pos starts]
      rw [read] at ih
      exact ih.substitute _ here
  | case6 here literal next others single malformed =>
      rw [passFrom, if_pos rfl, if_neg single, if_neg malformed]
      rfl
  | case7 here literal g rest ordinary ih =>
      rw [passFrom.eq_def]
      dsimp only
      rw [if_neg ordinary]
      exact ih.write

/-- Compiling foretells the whole pass: it fails with its fault, or the bytecode lacks the same
variable and writes the same text. -/
theorem compile_foretells (vars : Variables) (file source : String) :
    let pass := passFrom vars (.start file) (graphemes source)
    match Template.compile file source with
    | .error error => pass.fault = some error
    | .ok code =>
        pass.fault = none ∧ code.file = file ∧
          code.instructions.findSome? (unbound? vars) = pass.missing ∧
          written vars code.instructions = pass.output := by
  have foretells := foretells_tokensFrom vars (.start file) (.startingAt (.start file))
    (graphemes source)
  rw [Template.compile, tokenize]
  cases read : tokensFrom (.start file) (.startingAt (.start file)) (graphemes source) with
  | error error =>
      rw [read] at foretells
      exact foretells
  | ok tokens =>
      rw [read] at foretells
      obtain ⟨fault, missing, output⟩ := foretells
      exact ⟨fault, rfl, missing, output⟩

/-- A source that does not compile is refused before the arguments are looked at. -/
theorem staged_of_compile_eq_error {file source : String} {error : SyntaxError}
    (refused : Template.compile file source = .error error) (heap : Host.Heap)
    (arguments : Host.Value) : staged file source heap arguments = .error (.compile error) := by
  rw [staged, refused]
  rfl

/-- A source that compiles is rendered with the variables that the arguments come to. -/
theorem staged_of_compile_eq_ok {file source : String} {code : Bytecode}
    (compiled : Template.compile file source = .ok code) (heap : Host.Heap)
    (arguments : Host.Value) :
    staged file source heap arguments =
      match (Arguments.convert heap arguments).map Arguments.Graph.toVariables with
      | .error cause => .error (.render ⟨code.file, cause⟩)
      | .ok vars => (run code vars).mapError .render := by
  rw [staged, compiled]
  unfold Render.render accept
  cases Arguments.convert heap arguments with
  | error cause => rfl
  | ok graph => rfl

/-- Whatever the source and the arguments are, the stages come to what the pass comes to. -/
theorem staged_eq (file source : String) (heap : Host.Heap) (arguments : Host.Value) :
    staged file source heap arguments = evaluate file source heap arguments := by
  unfold evaluate
  dsimp only
  generalize bag : (Arguments.convert heap arguments).map Arguments.Graph.toVariables = converted
  have foretold := compile_foretells (converted.toOption.getD []) file source
  dsimp only at foretold
  generalize passFrom (converted.toOption.getD []) (.start file) (graphemes source) = pass
    at foretold ⊢
  cases compiled : Template.compile file source with
  | error error =>
      rw [compiled] at foretold
      have fault : pass.fault = some error := foretold
      rw [staged_of_compile_eq_error compiled, Pass.outcome.eq_def, fault]
  | ok code =>
      rw [compiled] at foretold
      obtain ⟨fault, rfl, missing, output⟩ := foretold
      rw [staged_of_compile_eq_ok compiled, bag, Pass.outcome.eq_def, fault]
      cases converted with
      | error cause => rfl
      | ok vars =>
          have lacks : code.instructions.findSome? (unbound? vars) = pass.missing := missing
          have writes : written vars code.instructions = pass.output := output
          dsimp only
          rw [run_eq, lacks, writes]
          cases pass.missing with
          | some name => rfl
          | none => rfl

/-- Compiling and then rendering is substitution in one pass, failures and their order included;
and a malformed source is refused in the same way whatever the arguments are. -/
theorem staged_eq_evaluate (file source : String) (heap : Host.Heap) (arguments : Host.Value) :
    staged file source heap arguments = evaluate file source heap arguments ∧
      ∀ error, evaluate file source heap arguments = .error (.compile error) →
        ∀ otherHeap others, evaluate file source otherHeap others = .error (.compile error) := by
  refine ⟨staged_eq file source heap arguments, ?_⟩
  intro error refused otherHeap others
  rw [← staged_eq] at refused ⊢
  cases compiled : Template.compile file source with
  | error found =>
      rw [staged_of_compile_eq_error compiled] at refused ⊢
      exact refused
  | ok code =>
      rw [staged_of_compile_eq_ok compiled] at refused
      split at refused
      · cases refused
      · rename_i vars _
        cases result : run code vars with
        | error failure =>
            rw [result] at refused
            cases refused
        | ok out =>
            rw [result] at refused
            cases refused

end HtmlTemplate.Engine
