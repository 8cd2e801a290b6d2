/-
# Rendering

Rendering checks the arguments completely before the first instruction runs, so a caller
learns of bad arguments even when the template does not use them. Running the bytecode then
appends what the instructions say, in order, to an empty output. The only way to fail is a
variable without a value, and then nothing of the output is kept.
-/

import HtmlTemplate.Arguments.Convert
import HtmlTemplate.Markup.Escape
import HtmlTemplate.Render.Error
import HtmlTemplate.Template.Bytecode
import HtmlTemplate.Value.Basic

namespace HtmlTemplate.Render

open Template

/-- The values of variables by name. -/
abbrev Variables := List (String × Value)

/-- Append what the instructions say to the output so far. -/
def runFrom (vars : Variables) (out : String) : List Instruction → Except Cause String
  | [] => .ok out
  | .appendLiteral text :: rest => runFrom vars (out ++ text) rest
  | .appendVariable name :: rest =>
      match vars.lookup name with
      | some value => runFrom vars (Markup.pushEscaped out value.display) rest
      | none => .error (.missingArgument name)

/-- Run bytecode on checked variables. -/
def run (code : Bytecode) (vars : Variables) : Except Error String :=
  (runFrom vars "" code.instructions).mapError (Error.mk code.file)

/-- Check the arguments of a caller for the template of the given file. -/
def accept (heap : Host.Heap) (arguments : Host.Value) (file : String) :
    Except Error Arguments.Graph :=
  (Arguments.convert heap arguments).mapError (Error.mk file)

/-- Check the arguments, then run the bytecode on them. -/
def render (heap : Host.Heap) (code : Bytecode) (arguments : Host.Value) :
    Except Error String := do
  let graph ← accept heap arguments code.file
  run code graph.toVariables

end HtmlTemplate.Render
