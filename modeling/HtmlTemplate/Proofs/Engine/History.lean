/-
# What happens to an engine

An engine is used over a source whose texts may change at any time. A run is a sequence of
events, each a use of the engine or a change of the source, and its history says of every
event what the source was asked for meanwhile and what it answered. The requests are not
read off the engine: the source itself writes them down, and an engine over a source that
does so works like one over the plain source.
-/

import HtmlTemplate.Engine.Basic

namespace HtmlTemplate.Engine

open Template

variable {σ κ : Type}

/-- A file that a source was asked for, and the answer. -/
structure Request where
  file : String
  answer : Except SourceError String

/-- The same provider, which also writes down every request. -/
def Provider.recorded (provider : Provider σ) : Provider (σ × List Request) where
  getText file state :=
    let (answer, next) := provider.getText file state.1
    (answer, (next, state.2 ++ [⟨file, answer⟩]))

/-- The same engine, over a source that has nothing written down yet. -/
def recording (engine : Engine σ) : Engine (σ × List Request) :=
  ⟨(engine.source, []), engine.cache, engine.compilations⟩

/-- A use of an engine, or a change of what its source serves. -/
inductive Event (κ : Type) where
  | change (edit : κ)
  | compile (file : String)
  | render (heap : Host.Heap) (arguments : Host.Value) (file : String)
  | isCached (file : String)
  | clearCache

/-- The file that an event needs the bytecode of. -/
def Event.file? : Event κ → Option String
  | .compile file | .render _ _ file => some file
  | .change _ | .isCached _ | .clearCache => none

/-- Whether an event forgets all bytecode. -/
def Event.isClear : Event κ → Bool
  | .clearCache => true
  | .change _ | .compile _ | .render .. | .isCached _ => false

/-- What the source is asked for during an event. -/
def requests (provider : Provider σ) (engine : Engine σ) : Event κ → List Request
  | .compile file => (engine.recording.compile provider.recorded file).2.source.2
  | .render heap arguments file =>
      (engine.recording.render provider.recorded heap arguments file).2.source.2
  | .change _ | .isCached _ | .clearCache => []

/-- The engine after an event. -/
def next (provider : Provider σ) (change : κ → σ → σ) (engine : Engine σ) :
    Event κ → Engine σ
  | .change edit => { engine with source := change edit engine.source }
  | .compile file => (engine.compile provider file).2
  | .render heap arguments file => (engine.render provider heap arguments file).2
  | .isCached _ => engine
  | .clearCache => engine.clearCache

/-- An event and what the source was asked for during it. -/
structure Moment (κ : Type) where
  event : Event κ
  requests : List Request

/-- The moment at which an event happens to an engine. -/
def moment (provider : Provider σ) (engine : Engine σ) (event : Event κ) : Moment κ :=
  ⟨event, engine.requests provider event⟩

/-- An engine with all that has happened to it, the first event first. -/
structure Run (σ κ : Type) where
  engine : Engine σ
  history : List (Moment κ)

namespace Run

/-- A new engine. -/
def start (source : σ) : Run σ κ := ⟨.ofSource source, []⟩

/-- Let something happen. -/
def step (provider : Provider σ) (change : κ → σ → σ) (run : Run σ κ) (event : Event κ) :
    Run σ κ :=
  ⟨run.engine.next provider change event,
    run.history ++ [run.engine.moment provider event]⟩

/-- Let several things happen, one after the other. -/
def go (provider : Provider σ) (change : κ → σ → σ) (run : Run σ κ) (events : List (Event κ)) :
    Run σ κ :=
  events.foldl (step provider change) run

end Run

section Calls

variable {provider : Provider σ} {engine : Engine σ} {file : String}

/-- Everything that compiling can come to. -/
theorem compile_cases (provider : Provider σ) (file : String) (engine : Engine σ) :
    (∃ compiled, engine.cache[file]? = some compiled ∧
        engine.compile provider file = (.ok compiled, engine)) ∨
      engine.cache[file]? = none ∧
        ((∃ error source, provider.getText file engine.source = (.error error, source) ∧
            engine.compile provider file = (.error (.source error), { engine with source })) ∨
          (∃ text error source, provider.getText file engine.source = (.ok text, source) ∧
            Template.compile file text = .error error ∧
            engine.compile provider file = (.error (.compile error), { engine with source })) ∨
          ∃ text code source, provider.getText file engine.source = (.ok text, source) ∧
            Template.compile file text = .ok code ∧
            engine.compile provider file =
              (.ok ({ engine with source }.keep file code).1,
                ({ engine with source }.keep file code).2)) := by
  rw [compile]
  cases cached : engine.cache[file]? with
  | some compiled => exact .inl ⟨compiled, rfl, rfl⟩
  | none =>
      refine .inr ⟨rfl, ?_⟩
      rcases served : provider.getText file engine.source with ⟨error | text, source⟩
      · exact .inl ⟨error, source, rfl, rfl⟩
      · refine .inr ?_
        dsimp only
        cases compiles : Template.compile file text with
        | error error => exact .inl ⟨text, error, source, rfl, compiles, rfl⟩
        | ok code => exact .inr ⟨text, code, source, rfl, compiles, rfl⟩

/-- Compiling asks the source once, unless the file is cached. -/
theorem source_compile (provider : Provider σ) (file : String) (engine : Engine σ) :
    (engine.compile provider file).2.source =
      if (engine.cache[file]?).isSome then engine.source
      else (provider.getText file engine.source).2 := by
  rcases compile_cases provider file engine with
    ⟨compiled, cached, same⟩ | ⟨cached, ⟨error, source, served, same⟩ |
      ⟨text, error, source, served, refused, same⟩ | ⟨text, code, source, served, compiles, same⟩⟩
  · rw [same, cached, if_pos (by rfl)]
  · rw [same, cached, served, if_neg (by simp)]
  · rw [same, cached, served, if_neg (by simp)]
  · rw [same, cached, served, if_neg (by simp)]
    rfl

/-- Rendering does to an engine what compiling does, whatever the arguments are. -/
theorem render_snd (provider : Provider σ) (heap : Host.Heap) (arguments : Host.Value)
    (file : String) (engine : Engine σ) :
    (engine.render provider heap arguments file).2 = (engine.compile provider file).2 := by
  rw [render]
  rcases engine.compile provider file with ⟨error | compiled, after⟩
  · rfl
  · rfl

/-- Rendering fails as compiling does, or as the checks of the arguments and the run do. -/
theorem render_fst (provider : Provider σ) (heap : Host.Heap) (arguments : Host.Value)
    (file : String) (engine : Engine σ) :
    (engine.render provider heap arguments file).1 =
      match (engine.compile provider file).1 with
      | .error error => .error error
      | .ok compiled => (Render.render heap compiled.code arguments).mapError .render := by
  rw [render]
  rcases engine.compile provider file with ⟨error | compiled, after⟩
  · rfl
  · rfl

/-- To write requests down changes nothing else about compiling, and there is one to be written
down exactly if the file is not cached. -/
theorem compile_recording (provider : Provider σ) (file : String) (engine : Engine σ) :
    engine.recording.compile provider.recorded file =
      let (answer, after) := engine.compile provider file
      (answer, ⟨(after.source,
        if (engine.cache[file]?).isSome then []
        else [⟨file, (provider.getText file engine.source).1⟩]), after.cache,
          after.compilations⟩) := by
  have sameCache : engine.recording.cache = engine.cache := rfl
  rw [compile, compile, sameCache]
  cases engine.cache[file]? with
  | some compiled => rfl
  | none =>
      rcases served : provider.getText file engine.source with ⟨error | text, source⟩
      · simp [recording, Provider.recorded, served]
      · simp only [recording, Provider.recorded, served]
        cases Template.compile file text with
        | error error => rfl
        | ok code => rfl

/-- A call asks for its own file, once, unless the file is cached. -/
theorem requests_of_file? {event : Event κ} (needs : event.file? = some file) :
    engine.requests provider event =
      if (engine.cache[file]?).isSome then []
      else [⟨file, (provider.getText file engine.source).1⟩] := by
  cases event with
  | change edit => cases needs
  | isCached query => cases needs
  | clearCache => cases needs
  | compile query =>
      obtain rfl := Option.some.inj needs
      rw [requests, compile_recording]
  | render heap arguments query =>
      obtain rfl := Option.some.inj needs
      rw [requests, render_snd, compile_recording]

/-- Without a file there is nothing to ask for. -/
theorem requests_of_no_file {event : Event κ} (needs : event.file? = none) :
    engine.requests provider event = [] := by
  cases event with
  | compile query => cases needs
  | render heap arguments query => cases needs
  | change edit => rfl
  | isCached query => rfl
  | clearCache => rfl

end Calls

end HtmlTemplate.Engine
