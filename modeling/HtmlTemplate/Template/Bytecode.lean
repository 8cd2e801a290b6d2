/-
# Bytecode

A compiled template is a list of instructions, each of which appends something to the
output: a literal as it stands, or the escaped text of a variable. There is one
instruction for each token, in the same order.
-/

import HtmlTemplate.Template.Tokenize

namespace HtmlTemplate.Template

open Text

/-- One step of writing the output. -/
inductive Instruction where
  /-- Append markup that the author of the template wrote. -/
  | appendLiteral (text : String)
  /-- Append the escaped text of a variable. -/
  | appendVariable (name : String)
  deriving DecidableEq, Repr

namespace Instruction

/-- The instruction for a token. -/
def ofToken (token : Token) : Instruction :=
  match token.kind with
  | .html => .appendLiteral token.text
  | .var => .appendVariable token.text

/-- The name of an instruction in listings. -/
def opcode : Instruction → String
  | .appendLiteral _ => "APPEND_LITERAL"
  | .appendVariable _ => "APPEND_VAR"

/-- What an instruction appends, or the name of it. -/
def operand : Instruction → String
  | .appendLiteral text => text
  | .appendVariable name => name

/-- Literals are quoted in listings, names are not. -/
def display : Instruction → String
  | .appendLiteral text => "APPEND_LITERAL " ++ Quoted.quote text
  | .appendVariable name => "APPEND_VAR " ++ name

/-- The variable that an instruction looks up. -/
def variableName? : Instruction → Option String
  | .appendLiteral _ => none
  | .appendVariable name => some name

end Instruction

/-- A compiled template and the file it came from. -/
structure Bytecode where
  file : String
  instructions : List Instruction
  deriving DecidableEq, Repr

namespace Bytecode

/-- The bytecode of a token sequence. -/
def ofTokens (file : String) (tokens : List Token) : Bytecode :=
  ⟨file, tokens.map Instruction.ofToken⟩

/-- Add a name behind the names seen so far, unless it is one of them. -/
def addName (seen : List String) (name : String) : List String :=
  if name ∈ seen then seen else seen ++ [name]

/-- The variables that are looked up, each once, in the order of first use. -/
def variableNames (code : Bytecode) : List String :=
  (code.instructions.filterMap Instruction.variableName?).foldl addName []

/-- A number with at least four digits. -/
def lineNumber (n : Nat) : String :=
  let digits := Nat.toDigits 10 n
  String.ofList (List.replicate (4 - digits.length) '0' ++ digits)

/-- The lines of a listing that belong to instructions, numbered from `first`. -/
def instructionLines (first : Nat) : List Instruction → List String
  | [] => []
  | instruction :: rest =>
      (lineNumber first ++ " " ++ instruction.display) :: instructionLines (first + 1) rest

/-- The lines of a listing: the file, then one line for each instruction. -/
def lines (code : Bytecode) : List String :=
  ("; " ++ code.file) :: instructionLines 0 code.instructions

/-- The listing of a compiled template. Every line is closed. -/
def listing (code : Bytecode) : String :=
  code.lines.foldl (fun text line => text ++ line ++ "\n") ""

end Bytecode

/-- Compile a source that is known by the name of its file. -/
def compile (file source : String) : Except SyntaxError Bytecode :=
  (tokenize file source).map (Bytecode.ofTokens file)

end HtmlTemplate.Template
