/-
# Errors name the file that was asked for

Bytecode carries the name of its file with it, and every report about arguments or variables
takes the name from there. An engine keeps bytecode under the identifier that it was asked
for, while a source may lead several identifiers to one place and serve other texts later. So
a report is right after all only if whatever is kept under an identifier was compiled under
it. Each event keeps it so, and then every call reports its own file whatever came before.
-/

import HtmlTemplate.Proofs.Engine.Cache
import HtmlTemplate.Proofs.Template.FileName
import HtmlTemplate.Proofs.Render.Run
import HtmlTemplate.Proofs.Arguments.Grounds

namespace HtmlTemplate

namespace Render

open Template

variable {heap : Host.Heap} {arguments : Host.Value}

/-- The lack of an argument is no grounds to refuse arguments. -/
theorem isArgumentError_of_convert {cause : Cause}
    (refused : Arguments.convert heap arguments = .error cause) :
    cause.isArgumentError = true := by
  have grounds := Arguments.grounds_of_convert refused
  cases cause with
  | missingArgument name =>
      obtain ⟨root, _, held | below⟩ := grounds
      · cases held.2
      · exact below.elim
  | _ => rfl

/-- A run can only lack a variable. -/
theorem eq_missingArgument_of_run {code : Bytecode} {vars : Variables} {error : Error}
    (failed : run code vars = .error error) :
    ∃ name, error = ⟨code.file, .missingArgument name⟩ := by
  rw [run_eq] at failed
  cases missing : code.instructions.findSome? (unbound? vars) with
  | none =>
      rw [missing] at failed
      cases failed
  | some name =>
      rw [missing] at failed
      exact ⟨name, (Except.error.inj failed).symm⟩

/-- Rendering fails because the arguments are refused, or because the run lacks a variable. -/
theorem render_error_cases {code : Bytecode} {error : Error}
    (failed : render heap code arguments = .error error) :
    (∃ cause, Arguments.convert heap arguments = .error cause ∧ error = ⟨code.file, cause⟩) ∨
      ∃ graph name, Arguments.convert heap arguments = .ok graph ∧
        error = ⟨code.file, .missingArgument name⟩ := by
  rw [render, accept] at failed
  cases converted : Arguments.convert heap arguments with
  | error cause =>
      rw [converted] at failed
      exact .inl ⟨cause, rfl, (Except.error.inj failed).symm⟩
  | ok graph =>
      rw [converted] at failed
      obtain ⟨name, same⟩ := eq_missingArgument_of_run failed
      exact .inr ⟨graph, name, rfl, same⟩

/-- A failure of rendering blames the file of the bytecode, and it blames the arguments exactly
if they are refused. -/
theorem blame_of_render_error {code : Bytecode} {error : Error}
    (failed : render heap code arguments = .error error) :
    error.file = code.file ∧
      (error.isArgumentError = true ↔
        ∃ cause, Arguments.convert heap arguments = .error cause) := by
  rcases render_error_cases failed with ⟨cause, refused, rfl⟩ | ⟨graph, name, accepted, rfl⟩
  · exact ⟨rfl, iff_of_true (isArgumentError_of_convert refused) ⟨cause, refused⟩⟩
  · refine ⟨rfl, iff_of_false Bool.false_ne_true fun isRefused => ?_⟩
    obtain ⟨cause, refused⟩ := isRefused
    cases accepted.symm.trans refused

end Render

namespace Engine

open Template

variable {σ κ : Type}

/-- A failure names the file that it is about. One of the source need not, for a source may know
no more than a path. -/
def Error.Names (file : String) : Error → Prop
  | .source _ => True
  | .compile error => error.location.file = file
  | .render error => error.file = file

/-- Whatever is kept was compiled under the identifier that it is kept under. -/
def KeepsOwn (engine : Engine σ) : Prop :=
  ∀ (file : String) (compiled : Compiled), engine.cache[file]? = some compiled →
    compiled.code.file = file

/-- A new engine keeps nothing. -/
theorem keepsOwn_ofSource (source : σ) : (ofSource source).KeepsOwn := by
  intro file compiled cached
  rw [ofSource, Std.HashMap.getElem?_empty] at cached
  cases cached

section Calls

variable {provider : Provider σ} {change : κ → σ → σ} {file : String}

/-- The step lemma: an event can only add bytecode to what is kept for the file that it compiles. -/
theorem KeepsOwn.step {run : Run σ κ} (keeps : run.engine.KeepsOwn) (event : Event κ) :
    (run.step provider change event).engine.KeepsOwn := by
  intro file compiled cached
  rcases cached_step cached with before | ⟨brought, _⟩
  · exact keeps file compiled before
  · obtain ⟨_, text, _, compiles⟩ := bytecode?_eq_some_iff.mp brought
    exact file_of_compile compiles

/-- Through any number of events, what is kept is kept under its own identifier. -/
theorem KeepsOwn.go {run : Run σ κ} (keeps : run.engine.KeepsOwn) (events : List (Event κ)) :
    (run.go provider change events).engine.KeepsOwn := by
  induction events generalizing run with
  | nil => exact keeps
  | cons event rest ih => exact ih (keeps.step event)

/-- What compiling gives is bytecode of the file, be it kept or new. -/
theorem KeepsOwn.file_of_given {engine : Engine σ} (keeps : engine.KeepsOwn)
    {compiled : Compiled} (given : (engine.compile provider file).1 = .ok compiled) :
    compiled.code.file = file := by
  rcases compile_cases provider file engine with
    ⟨kept, cached, same⟩ | ⟨_, ⟨error, source, _, same⟩ | ⟨text, error, source, _, _, same⟩ |
      ⟨text, code, source, _, compiles, same⟩⟩
  · rw [same] at given
    obtain rfl := Except.ok.inj given
    exact keeps file kept cached
  · rw [same] at given
    cases given
  · rw [same] at given
    cases given
  · rw [same] at given
    obtain rfl := Except.ok.inj given
    exact file_of_compile compiles

/-- Compiling fails as the source does, or with a fault in the text that the source served. -/
theorem compile_error_cases {engine : Engine σ} {error : Error}
    (failed : (engine.compile provider file).1 = .error error) :
    (∃ failure, error = .source failure) ∨
      ∃ text fault, Template.compile file text = .error fault ∧ error = .compile fault := by
  rcases compile_cases provider file engine with
    ⟨kept, cached, same⟩ | ⟨_, ⟨failure, source, _, same⟩ |
      ⟨text, fault, source, _, refused, same⟩ | ⟨text, code, source, _, compiles, same⟩⟩
  · rw [same] at failed
    cases failed
  · rw [same] at failed
    exact .inl ⟨failure, (Except.error.inj failed).symm⟩
  · rw [same] at failed
    exact .inr ⟨text, fault, refused, (Except.error.inj failed).symm⟩
  · rw [same] at failed
    cases failed

/-- Compiling fails before anything is rendered, with an error that names the file. -/
theorem names_of_compile_error {engine : Engine σ} {error : Error}
    (failed : (engine.compile provider file).1 = .error error) :
    error.Names file ∧ ∀ failure, error ≠ .render failure := by
  rcases compile_error_cases failed with ⟨failure, rfl⟩ | ⟨text, fault, refused, rfl⟩
  · exact ⟨trivial, fun _ same => by cases same⟩
  · exact ⟨file_of_compile_error refused, fun _ same => by cases same⟩

/-- Rendering fails as compiling does, or as it does with bytecode of the file. -/
theorem KeepsOwn.render_error_cases {engine : Engine σ} (keeps : engine.KeepsOwn)
    {heap : Host.Heap} {arguments : Host.Value} {error : Error}
    (failed : (engine.render provider heap arguments file).1 = .error error) :
    (engine.compile provider file).1 = .error error ∨
      ∃ code failure, code.file = file ∧ Render.render heap code arguments = .error failure ∧
        error = .render failure := by
  rw [render_fst] at failed
  cases given : (engine.compile provider file).1 with
  | error other =>
      rw [given] at failed
      obtain rfl := Except.error.inj failed
      exact .inl rfl
  | ok compiled =>
      rw [given] at failed
      dsimp only at failed
      cases rendered : Render.render heap compiled.code arguments with
      | ok text =>
          rw [rendered] at failed
          cases failed
      | error failure =>
          rw [rendered] at failed
          exact .inr ⟨compiled.code, failure, keeps.file_of_given given, rendered,
            (Except.error.inj failed).symm⟩

end Calls

/-- To whom the calls of an engine attribute what they give and what they report. -/
structure Attributes (provider : Provider σ) (engine : Engine σ) : Prop where
  /-- Bytecode is kept under the file that it names, -/
  kept : ∀ (file : String) (compiled : Compiled), engine.cache[file]? = some compiled →
    compiled.code.file = file
  /-- and what compiling gives names the file that was asked for. -/
  given : ∀ (file : String) (compiled : Compiled),
    (engine.compile provider file).1 = .ok compiled → compiled.code.file = file
  /-- When compiling fails the error names this file, and it is none of rendering. -/
  compiling : ∀ file error, (engine.compile provider file).1 = .error error →
    error.Names file ∧ ∀ failure, error ≠ .render failure
  /-- When rendering fails the error names this file, too. -/
  rendering : ∀ heap arguments file error,
    (engine.render provider heap arguments file).1 = .error error → error.Names file
  /-- An error of rendering itself blames the arguments exactly if they are refused. -/
  blaming : ∀ heap arguments file failure,
    (engine.render provider heap arguments file).1 = .error (.render failure) →
      (failure.isArgumentError = true ↔
        ∃ cause, Arguments.convert heap arguments = .error cause)

/-- Attribution depends on nothing but what is kept. -/
theorem KeepsOwn.attributes {provider : Provider σ} {engine : Engine σ}
    (keeps : engine.KeepsOwn) : Attributes provider engine where
  kept := keeps
  given file compiled given := keeps.file_of_given given
  compiling file error failed := names_of_compile_error failed
  rendering heap arguments file error failed := by
    rcases keeps.render_error_cases failed with
      compiling | ⟨code, failure, rfl, rendering, rfl⟩
    · exact (names_of_compile_error compiling).1
    · exact (Render.blame_of_render_error rendering).1
  blaming heap arguments file failure failed := by
    rcases keeps.render_error_cases failed with compiling | ⟨code, other, _, rendering, ⟨⟩⟩
    · exact absurd rfl ((names_of_compile_error compiling).2 failure)
    · exact (Render.blame_of_render_error rendering).2

/-- Whatever source an engine has, however its texts change and whatever was compiled, rendered
or forgotten before, each call attributes its outcome to the file that it is asked for. -/
theorem attributes_to_asked_file (provider : Provider σ) (change : κ → σ → σ) (source : σ)
    (events : List (Event κ)) :
    Attributes provider ((Run.start source).go provider change events).engine := by
  apply KeepsOwn.attributes
  apply KeepsOwn.go
  exact keepsOwn_ofSource source

end Engine

end HtmlTemplate
