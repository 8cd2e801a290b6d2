/-
# The engine

An engine compiles templates when they are asked for and keeps the bytecode under the
identifier of the file. What is kept is used again without a look at the source, until the
cache is cleared; a failure leaves nothing behind in the cache.
-/

import HtmlTemplate.Engine.Source
import HtmlTemplate.Render.Template

namespace HtmlTemplate

namespace Engine

open Template

/-- Why an engine fails. -/
inductive Error where
  | source (error : SourceError)
  | compile (error : SyntaxError)
  | render (error : Render.Error)
  deriving DecidableEq, Repr

namespace Error

/-- The failure in words, after the stage that it comes from. -/
def message : Error → String
  | .source error => "source error: " ++ error.message
  | .compile error => "compile error: " ++ error.message
  | .render error => "render error: " ++ error.message

end Error

/-- A result of compiling. The serial number tells one compilation from another. -/
structure Compiled where
  serial : Nat
  code : Bytecode
  deriving DecidableEq, Repr

end Engine

/-- The state of the source, the compiled templates by identifier, and how many times the
engine has compiled. -/
structure Engine (σ : Type) where
  source : σ
  cache : Std.HashMap String Engine.Compiled
  compilations : Nat

namespace Engine

open Template

variable {σ : Type}

/-- An engine that has compiled nothing. -/
def ofSource (source : σ) : Engine σ := ⟨source, ∅, 0⟩

/-- Whether the bytecode of a file is kept. -/
def isCached (engine : Engine σ) (file : String) : Bool := engine.cache.contains file

/-- Forget all bytecode. -/
def clearCache (engine : Engine σ) : Engine σ := { engine with cache := ∅ }

/-- Keep the bytecode of a file. -/
def keep (engine : Engine σ) (file : String) (code : Bytecode) : Compiled × Engine σ :=
  let compiled : Compiled := ⟨engine.compilations, code⟩
  (compiled,
    { engine with
      cache := engine.cache.insert file compiled
      compilations := engine.compilations + 1 })

/-- The bytecode of a file: what is kept, or what its text compiles to. -/
def compile (provider : Provider σ) (file : String) (engine : Engine σ) :
    Except Error Compiled × Engine σ :=
  match engine.cache[file]? with
  | some compiled => (.ok compiled, engine)
  | none =>
      let (answer, source) := provider.getText file engine.source
      let engine := { engine with source }
      match answer with
      | .error error => (.error (.source error), engine)
      | .ok text =>
          match Template.compile file text with
          | .error error => (.error (.compile error), engine)
          | .ok code =>
              let (compiled, engine) := engine.keep file code
              (.ok compiled, engine)

/-- Compile a file if needed, then render it with the arguments of a caller. -/
def render (provider : Provider σ) (heap : Host.Heap) (arguments : Host.Value) (file : String)
    (engine : Engine σ) : Except Error String × Engine σ :=
  match engine.compile provider file with
  | (.error error, engine) => (.error error, engine)
  | (.ok compiled, engine) =>
      ((Render.render heap compiled.code arguments).mapError .render, engine)

/-- What an engine shows of itself. -/
def display (engine : Engine σ) : String :=
  s!"Engine \x7b cached: {engine.cache.size} \x7d"

end Engine

end HtmlTemplate
