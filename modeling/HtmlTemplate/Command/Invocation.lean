/-
# What a command line asks for

A command works on one template. Rendering also takes arguments, as JSON on the command
line or in a file. Apart from the command there is the directory to look for templates in.
-/

namespace HtmlTemplate.Command

/-- The commands by name. -/
inductive Task where
  | render
  | tokens
  | bytecode
  deriving DecidableEq, Repr

namespace Task

/-- The word for a command. -/
def word : Task → String
  | .render => "render"
  | .tokens => "tokens"
  | .bytecode => "bytecode"

/-- All commands. -/
def all : List Task := [.render, .tokens, .bytecode]

/-- The command that a word stands for. -/
def ofWord? (word : String) : Option Task := all.find? (·.word = word)

end Task

/-- Where the arguments of a template come from. -/
inductive ArgumentSource where
  | nowhere
  | inline (json : String)
  | file (path : String)
  deriving DecidableEq, Repr

/-- A command with all that it needs. -/
inductive Request where
  | render (file : String) (arguments : ArgumentSource)
  | tokens (file : String)
  | bytecode (file : String)
  deriving DecidableEq, Repr

/-- What a command line asks for: a command, and the directory of the templates if named. -/
structure Invocation where
  root : Option String
  request : Request
  deriving DecidableEq, Repr

/-- Why a command line asks for nothing that can be done. -/
inductive UsageError where
  | missingFile
  | unknownArgument
  | conflict
  | valueNotTaken
  | badValue
  | unknownCommand
  | missingCommand
  /-- There is nothing on the line, and nothing else that says what to do. -/
  | nothingGiven
  | helpWanted
  | versionWanted
  deriving DecidableEq, Repr

namespace UsageError

/-- Whether the line asks to be told something, which is no mistake. -/
def isQuestion : UsageError → Bool
  | .helpWanted | .versionWanted => true
  | _ => false

/-- The form of a command line. -/
def usage : String :=
  "usage: htl [-v] [-r PATH] render FILE [--args JSON | --args-file PATH]\n" ++
    "       htl [-v] [-r PATH] tokens FILE\n" ++
    "       htl [-v] [-r PATH] bytecode FILE"

/-- What is wrong, in words. -/
def message : UsageError → String
  | .missingFile => "a template file is required"
  | .unknownArgument => "unexpected argument"
  | .conflict => "an option was given twice, or two options exclude each other"
  | .valueNotTaken => "a value was given to an option that takes none"
  | .badValue => "a value is required for an option"
  | .unknownCommand => "unknown command"
  | .missingCommand => "a command is required"
  | .nothingGiven | .helpWanted => usage
  | .versionWanted => "htl"

end UsageError

end HtmlTemplate.Command
