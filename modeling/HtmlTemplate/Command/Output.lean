/-
# What a command prints

A command looks at the disk and gives a text or an error. The directory of the templates is
checked first, then the arguments are read, then the template.
-/

import HtmlTemplate.Command.Invocation
import HtmlTemplate.Engine.Basic
import HtmlTemplate.Host.OfJson
import HtmlTemplate.Json.Reader

namespace HtmlTemplate.Command

open File

/-- Why a command prints nothing. -/
inductive Error where
  | access (error : AccessError)
  /-- The arguments are not JSON. -/
  | badArguments
  | options (error : Engine.OptionsError)
  | source (error : Engine.SourceError)
  | template (error : Template.SyntaxError)
  | engine (error : Engine.Error)
  deriving DecidableEq, Repr

namespace Error

/-- The failure in words. -/
def message : Error → String
  | .access error => "IO error: " ++ error.message
  | .badArguments => "Invalid render arguments."
  | .options error => error.message
  | .source error => error.message
  | .template error => error.message
  | .engine error => error.message

end Error

namespace ArgumentSource

/-- The JSON text of the arguments, if there is one. -/
def text (disk : Disk) : ArgumentSource → Except Error (Option String)
  | .nowhere => .ok none
  | .inline json => .ok (some json)
  | .file path => ((disk.readText path).mapError .access).map some

/-- The arguments as a value of a caller. Without a source they are an empty object. -/
def value (disk : Disk) (source : ArgumentSource) : Except Error (Host.Value × Host.Heap) := do
  match ← source.text disk with
  | none =>
      let (id, heap) := Host.Heap.empty.alloc (.object .plain .empty)
      return (.ref id, heap)
  | some json =>
      match Json.read? json with
      | some value => return Host.Heap.empty.ofJson value
      | none => throw .badArguments

end ArgumentSource

namespace Request

/-- The template that a request is about. -/
def file : Request → String
  | .render file _ => file
  | .tokens file => file
  | .bytecode file => file

/-- The file with the arguments, if there is one. -/
def argumentFile? : Request → Option String
  | .render _ (.file path) => some path
  | _ => none

/-- What a request prints, given where to look for templates. -/
def output (disk : Disk) (templates : Engine.FileSource) : Request → Except Error String
  | .render file source => do
      let (arguments, heap) ← source.value disk
      let engine := Engine.ofSource templates
      (engine.render (Engine.FileSource.provider disk) heap arguments file).1.mapError .engine
  | .tokens file => do
      let loaded ← (templates.getText disk file).1.mapError .source
      let tokens ← (Template.tokenize file loaded.text).mapError .template
      return String.join (tokens.map fun token => token.display ++ "\n")
  | .bytecode file => do
      let engine := Engine.ofSource templates
      let compiled ← (engine.compile (Engine.FileSource.provider disk) file).1.mapError .engine
      return compiled.code.listing

end Request

namespace Invocation

/-- The directory of the templates as an absolute path. -/
def absoluteRoot (workingDirectory root : String) : String :=
  if isAbsolute root then root else workingDirectory ++ "/" ++ root

/-- Where to look for templates. -/
def templates (workingDirectory : String) (invocation : Invocation) :
    Except Error Engine.FileSource :=
  let roots := (invocation.root.map (absoluteRoot workingDirectory)).toList
  ((Engine.Options.ofSettings roots).mapError .options).map .ofOptions

/-- What a command prints. -/
def output (disk : Disk) (workingDirectory : String) (invocation : Invocation) :
    Except Error String := do
  invocation.request.output disk (← invocation.templates workingDirectory)

/-- The paths that a command looks at: that of the arguments, and that of the template if it
lies below the root. -/
def paths (workingDirectory : String) (invocation : Invocation) : List String :=
  let template := do
    let templates ← (invocation.templates workingDirectory).toOption
    let path ← (templates.resolve invocation.request.file).toOption
    return path.text
  invocation.request.argumentFile?.toList ++ template.toList

end Invocation

end HtmlTemplate.Command
