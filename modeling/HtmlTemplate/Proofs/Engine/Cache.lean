/-
# What the cache of an engine holds

The cache lags behind a source that changes, and yet it can be read off the history of the
engine: a file is cached exactly if since the last clearing some call for it was served a
text that compiles, and what is kept is the bytecode of the first such text. The step lemma
says how one event changes the entry of one file; everything about runs follows from it by
induction on the events.

Bytecode has an identity. The serial number of an entry is the place of its compilation
among all compilations of the run, so an entry that was cleared and compiled again is told
apart from the one before.
-/

import HtmlTemplate.Proofs.Engine.History
import Mathlib.Data.List.DropRight

namespace HtmlTemplate.Engine

open Template

variable {σ κ : Type}

/-- The text that the source served for a file. -/
def Moment.text? (moment : Moment κ) (file : String) : Option String :=
  moment.requests.findSome? fun request =>
    if request.file = file then request.answer.toOption else none

/-- The bytecode that a moment brings a file: it is a call for this file, which was served a
text that compiles. -/
def Moment.bytecode? (moment : Moment κ) (file : String) : Option Bytecode :=
  if moment.event.file? = some file then
    (moment.text? file).bind fun text => (Template.compile file text).toOption
  else none

/-- What has happened since all bytecode was forgotten the last time. -/
def sinceClear (history : List (Moment κ)) : List (Moment κ) :=
  history.rtakeWhile fun moment => !moment.event.isClear

/-- What a moment compiled, and for which file. -/
def Moment.compiled? (moment : Moment κ) : Option (String × Bytecode) :=
  moment.event.file?.bind fun file => (moment.bytecode? file).map (file, ·)

/-- A text that was served is the answer to a request. -/
theorem exists_request_of_text? {moment : Moment κ} {file text : String}
    (served : moment.text? file = some text) :
    ∃ request ∈ moment.requests, request.file = file ∧ request.answer = .ok text := by
  obtain ⟨request, asked, answer⟩ := List.exists_of_findSome?_eq_some served
  by_cases this : request.file = file
  · rw [if_pos this] at answer
    cases answered : request.answer with
    | error error => simp [answered, Except.toOption] at answer
    | ok found =>
        rw [answered] at answer
        obtain rfl := Option.some.inj answer
        exact ⟨request, asked, this, answered⟩
  · simp [this] at answer

section Step

variable {provider : Provider σ} {change : κ → σ → σ} {engine : Engine σ} {event : Event κ}
  {file : String}

/-- A moment brings a file bytecode if it is a call for it while it is not cached, and the source
serves a text that compiles. -/
theorem bytecode?_moment (provider : Provider σ) (engine : Engine σ) (event : Event κ)
    (file : String) :
    (engine.moment provider event).bytecode? file =
      if event.file? = some file ∧ engine.cache[file]? = none then
        (provider.getText file engine.source).1.toOption.bind fun text =>
          (Template.compile file text).toOption
      else none := by
  have same : (engine.moment provider event).event = event := rfl
  rw [Moment.bytecode?, same]
  by_cases needs : event.file? = some file
  · have asked : (engine.moment provider event).requests = _ := requests_of_file? needs
    rw [if_pos needs, Moment.text?, asked]
    cases engine.cache[file]? with
    | some compiled => simp
    | none => simp [needs]
  · rw [if_neg needs, if_neg fun both => needs both.1]

/-- A call does to the engine what compiling its file does. -/
theorem next_of_file? (needs : event.file? = some file) :
    engine.next provider change event = (engine.compile provider file).2 := by
  cases event with
  | change edit => cases needs
  | isCached query => cases needs
  | clearCache => cases needs
  | compile query =>
      obtain rfl := Option.some.inj needs
      rfl
  | render heap arguments query =>
      obtain rfl := Option.some.inj needs
      exact render_snd provider heap arguments query engine

/-- An event that needs no bytecode leaves the cache alone, unless it clears it. -/
theorem cache_next_of_no_file (needs : event.file? = none) (keeps : event.isClear = false) :
    (engine.next provider change event).cache = engine.cache ∧
      (engine.next provider change event).compilations = engine.compilations := by
  cases event with
  | change edit => exact ⟨rfl, rfl⟩
  | isCached query => exact ⟨rfl, rfl⟩
  | clearCache => cases keeps
  | compile query => cases needs
  | render heap arguments query => cases needs

/-- Compiling one file adds what its text compiles to, if it is not cached. -/
theorem cache_compile (provider : Provider σ) (engine : Engine σ) (own file : String) :
    (engine.compile provider own).2.cache[file]? =
      (engine.cache[file]?).or
        (if own = file then
          ((provider.getText own engine.source).1.toOption.bind fun text =>
            (Template.compile own text).toOption).map (Compiled.mk engine.compilations)
        else none) := by
  rcases compile_cases provider own engine with
    ⟨compiled, cached, same⟩ | ⟨cached, ⟨error, source, served, same⟩ |
      ⟨text, error, source, served, refused, same⟩ | ⟨text, code, source, served, compiles, same⟩⟩
  · rw [same]
    by_cases this : own = file
    · subst this
      simp [cached]
    · simp [this]
  · rw [same, served]
    simp [Except.toOption]
  · rw [same, served]
    simp [Except.toOption, refused]
  · rw [same, served]
    by_cases this : own = file
    · subst this
      simp [keep, cached, Except.toOption, compiles]
    · simp [keep, Std.HashMap.getElem?_insert, this]

/-- The step lemma: an event that clears nothing leaves what is cached, and adds the bytecode
that it brings, numbered by the compilations before it. -/
theorem cache_next (provider : Provider σ) (change : κ → σ → σ) (engine : Engine σ)
    (keeps : event.isClear = false) (file : String) :
    (engine.next provider change event).cache[file]? =
      (engine.cache[file]?).or
        (((engine.moment provider event).bytecode? file).map
          (Compiled.mk engine.compilations)) := by
  rw [bytecode?_moment]
  cases needs : event.file? with
  | none => simp [(cache_next_of_no_file needs keeps).1]
  | some own =>
      rw [next_of_file? needs, cache_compile]
      cases cached : engine.cache[file]? with
      | some compiled => simp
      | none =>
          by_cases this : own = file
          · subst this
            simp
          · simp [this]

/-- What is cached stays, the same object, through every event that clears nothing. -/
theorem cache_next_of_cached (keeps : event.isClear = false) {compiled : Compiled}
    (cached : engine.cache[file]? = some compiled) :
    (engine.next provider change event).cache[file]? = some compiled := by
  rw [cache_next provider change engine keeps, cached, Option.some_or]

/-- A moment that brings a file bytecode compiled it. -/
theorem compiled?_eq_some_iff {moment : Moment κ} {code : Bytecode} :
    moment.compiled? = some (file, code) ↔ moment.bytecode? file = some code := by
  unfold Moment.compiled?
  cases needs : moment.event.file? with
  | none => simp [Moment.bytecode?, needs]
  | some own =>
      rw [Option.bind_some, Option.map_eq_some_iff]
      constructor
      · rintro ⟨found, brought, ⟨⟩⟩
        exact brought
      · intro brought
        have this : own = file := by
          by_contra other
          simp [Moment.bytecode?, needs, other] at brought
        subst this
        exact ⟨code, brought, rfl⟩

/-- Each compilation is counted. -/
theorem compilations_next (provider : Provider σ) (change : κ → σ → σ) (engine : Engine σ)
    (event : Event κ) :
    (engine.next provider change event).compilations =
      engine.compilations + (engine.moment provider event).compiled?.toList.length := by
  have same : (engine.moment provider event).event = event := rfl
  rw [Moment.compiled?, same]
  cases needs : event.file? with
  | none =>
      cases event with
      | change edit => rfl
      | isCached query => rfl
      | clearCache => rfl
      | compile query => cases needs
      | render heap arguments query => cases needs
  | some own =>
      rw [next_of_file? needs, Option.bind_some, bytecode?_moment]
      rcases compile_cases provider own engine with
        ⟨compiled, cached, after⟩ | ⟨cached, ⟨error, source, served, after⟩ |
          ⟨text, error, source, served, refused, after⟩ |
            ⟨text, code, source, served, compiles, after⟩⟩
      · rw [after]
        simp [cached]
      · rw [after, served]
        simp [Except.toOption]
      · rw [after, served]
        simp [Except.toOption, refused]
      · rw [after, served]
        simp [keep, needs, cached, Except.toOption, compiles]

end Step

/-- The history explains the cache: it says what is kept for each file, and of which compilation
each entry is the outcome. -/
structure Explains (run : Run σ κ) : Prop where
  code : ∀ file, (run.engine.cache[file]?).map Compiled.code =
    (sinceClear run.history).findSome? fun moment => moment.bytecode? file
  count : run.engine.compilations = (run.history.filterMap Moment.compiled?).length
  serial : ∀ (file : String) (compiled : Compiled), run.engine.cache[file]? = some compiled →
    (run.history.filterMap Moment.compiled?)[compiled.serial]? = some (file, compiled.code)

/-- A new engine has no history and nothing cached. -/
theorem explains_start (source : σ) : Explains (.start source : Run σ κ) where
  code file := by
    rw [Run.start, ofSource, Std.HashMap.getElem?_empty]
    rfl
  count := rfl
  serial file compiled cached := by
    rw [Run.start, ofSource, Std.HashMap.getElem?_empty] at cached
    cases cached

/-- What is cached after an event was cached before, or is the last compilation. -/
theorem cached_step {provider : Provider σ} {change : κ → σ → σ} {run : Run σ κ}
    {event : Event κ} {file : String} {compiled : Compiled}
    (cached : (run.step provider change event).engine.cache[file]? = some compiled) :
    run.engine.cache[file]? = some compiled ∨
      (run.engine.moment provider event).bytecode? file = some compiled.code ∧
        compiled.serial = run.engine.compilations := by
  rw [Run.step] at cached
  cases clears : event.isClear with
  | true =>
      cases event with
      | clearCache => simp [next, clearCache] at cached
      | _ => cases clears
  | false =>
      rw [cache_next _ _ _ clears, Option.or_eq_some_iff] at cached
      rcases cached with before | ⟨_, brought⟩
      · exact .inl before
      · obtain ⟨code, brings, rfl⟩ := Option.map_eq_some_iff.mp brought
        exact .inr ⟨brings, rfl⟩

/-- Whatever happens next, the history goes on to explain the cache. -/
theorem Explains.step {run : Run σ κ} (explains : Explains run) (provider : Provider σ)
    (change : κ → σ → σ) (event : Event κ) : Explains (run.step provider change event) where
  code file := by
    rw [Run.step, sinceClear]
    cases clears : event.isClear with
    | true =>
        rw [List.rtakeWhile_concat_neg]
        · cases event with
          | clearCache => simp [next, clearCache]
          | _ => cases clears
        · simp [moment, clears]
    | false =>
        rw [List.rtakeWhile_concat_pos, cache_next _ _ _ clears, Option.map_or, explains.code,
          List.findSome?_append, List.findSome?_singleton, Option.map_map]
        · congr 1
          exact Option.map_id'
        · simp [moment, clears]
  count := by
    rw [Run.step, compilations_next, explains.count, List.filterMap_append, List.length_append]
    cases compiled : (run.engine.moment provider event).compiled? with
    | none => simp [compiled]
    | some found => simp [compiled]
  serial file compiled cached := by
    rw [Run.step, List.filterMap_append]
    rcases cached_step cached with before | ⟨brought, isLast⟩
    · have found := explains.serial file compiled before
      rw [List.getElem?_append_left (List.getElem?_eq_some_iff.mp found).1]
      exact found
    · rw [isLast, explains.count, List.getElem?_append_right (Nat.le_refl _), Nat.sub_self,
        List.filterMap_cons_some (compiled?_eq_some_iff.mpr brought)]
      rfl

/-- Through any number of events, the history goes on to explain the cache. -/
theorem Explains.go {run : Run σ κ} (explains : Explains run) (provider : Provider σ)
    (change : κ → σ → σ) (events : List (Event κ)) : Explains (run.go provider change events) := by
  induction events generalizing run with
  | nil => exact explains
  | cons event rest ih => exact ih (explains.step provider change event)

/-- What is cached stays, the same object, until the cache is cleared. -/
theorem cache_go_of_cached {provider : Provider σ} {change : κ → σ → σ} {run : Run σ κ}
    {file : String} {compiled : Compiled} (cached : run.engine.cache[file]? = some compiled)
    {events : List (Event κ)} (keeps : ∀ event ∈ events, event.isClear = false) :
    (run.go provider change events).engine.cache[file]? = some compiled := by
  induction events generalizing run with
  | nil => exact cached
  | cons event rest ih =>
      apply ih
      · exact cache_next_of_cached (keeps event List.mem_cons_self) cached
      · exact fun later mem => keeps later (List.mem_cons_of_mem event mem)

/-- A moment brings a file bytecode exactly if it is a call for the file that was served a text
that compiles. -/
theorem bytecode?_eq_some_iff {moment : Moment κ} {file : String} {code : Bytecode} :
    moment.bytecode? file = some code ↔
      moment.event.file? = some file ∧
        ∃ text, moment.text? file = some text ∧ Template.compile file text = .ok code := by
  unfold Moment.bytecode?
  by_cases needs : moment.event.file? = some file
  · rw [if_pos needs, Option.bind_eq_some_iff]
    simp only [needs, true_and]
    apply exists_congr
    intro text
    cases Template.compile file text with
    | error error => simp [Except.toOption]
    | ok found => simp [Except.toOption]
  · simp [needs]

/-- What a run leaves in the cache, and what the next call makes of it. -/
structure CacheLaws (provider : Provider σ) (change : κ → σ → σ) (run : Run σ κ) : Prop where
  /-- A file is cached exactly if since the last clearing some call for it was served a text that
  compiles. -/
  isCached_iff : ∀ file, run.engine.isCached file = true ↔
    ∃ moment ∈ sinceClear run.history, ∃ text code, moment.event.file? = some file ∧
      moment.text? file = some text ∧ Template.compile file text = .ok code
  /-- What is kept is the bytecode that the first such call brought, -/
  code : ∀ file, (run.engine.cache[file]?).map Compiled.code =
    (sinceClear run.history).findSome? fun moment => moment.bytecode? file
  /-- as the outcome of one compilation of the run, which it names. -/
  serial : ∀ (file : String) (compiled : Compiled), run.engine.cache[file]? = some compiled →
    (run.history.filterMap Moment.compiled?)[compiled.serial]? = some (file, compiled.code)
  /-- The same object stays through everything that happens, until the cache is cleared. -/
  stays : ∀ (file : String) (compiled : Compiled), run.engine.cache[file]? = some compiled →
    ∀ events : List (Event κ), (∀ event ∈ events, event.isClear = false) →
      (run.go provider change events).engine.cache[file]? = some compiled
  /-- A call for a cached file asks for nothing, uses the object that is kept and changes
  nothing. -/
  hit : ∀ (file : String) (compiled : Compiled), run.engine.cache[file]? = some compiled →
    run.engine.compile provider file = (.ok compiled, run.engine) ∧
      (∀ heap arguments, run.engine.render provider heap arguments file =
        ((Render.render heap compiled.code arguments).mapError .render, run.engine)) ∧
      ∀ event : Event κ, event.file? = some file → run.engine.requests provider event = []
  /-- A call for any other file asks for this file, once. -/
  miss : ∀ file, run.engine.cache[file]? = none →
    ∀ event : Event κ, event.file? = some file →
      run.engine.requests provider event = [⟨file, (provider.getText file run.engine.source).1⟩]
  /-- What compiling gives is the object that is kept from then on. -/
  given : ∀ (file : String) (compiled : Compiled),
    (run.engine.compile provider file).1 = .ok compiled →
      (run.engine.compile provider file).2.cache[file]? = some compiled
  /-- A failure of the source or of the compiler leaves the cache as it is. -/
  refused : ∀ file error, (run.engine.compile provider file).1 = .error error →
    (run.engine.compile provider file).2.cache = run.engine.cache ∧
      ∀ heap arguments, (run.engine.render provider heap arguments file).1 = .error error ∧
        (run.engine.render provider heap arguments file).2.cache = run.engine.cache
  /-- Rendering leaves the engine as compiling the file alone would, whatever becomes of the
  arguments. -/
  rendered : ∀ heap arguments file,
    (run.engine.render provider heap arguments file).2 = (run.engine.compile provider file).2

/-- What compiling gives is cached. -/
theorem cache_compile_of_ok {provider : Provider σ} {engine : Engine σ} {file : String}
    {compiled : Compiled} (given : (engine.compile provider file).1 = .ok compiled) :
    (engine.compile provider file).2.cache[file]? = some compiled := by
  rcases compile_cases provider file engine with
    ⟨kept, cached, same⟩ | ⟨_, ⟨error, source, _, same⟩ | ⟨text, error, source, _, _, same⟩ |
      ⟨text, code, source, _, _, same⟩⟩
  · rw [same] at given ⊢
    obtain rfl := Except.ok.inj given
    exact cached
  · rw [same] at given
    cases given
  · rw [same] at given
    cases given
  · rw [same] at given ⊢
    obtain rfl := Except.ok.inj given
    exact Std.HashMap.getElem?_insert_self

/-- Compiling that fails leaves the cache as it is. -/
theorem cache_compile_of_error {provider : Provider σ} {engine : Engine σ} {file : String}
    {error : Error} (refused : (engine.compile provider file).1 = .error error) :
    (engine.compile provider file).2.cache = engine.cache := by
  rcases compile_cases provider file engine with
    ⟨kept, _, same⟩ | ⟨_, ⟨error, source, _, same⟩ | ⟨text, error, source, _, _, same⟩ |
      ⟨text, code, source, _, _, same⟩⟩
  · rw [same]
  · rw [same]
  · rw [same]
  · rw [same] at refused
    cases refused

/-- Compiling a cached file gives what is kept. -/
theorem compile_of_cached {provider : Provider σ} {engine : Engine σ} {file : String}
    {compiled : Compiled} (cached : engine.cache[file]? = some compiled) :
    engine.compile provider file = (.ok compiled, engine) := by
  rw [compile, cached]

/-- The cache follows the history: whatever source an engine has and however its texts change,
after any sequence of changes and calls the cache holds what the history says, and the next
call uses it and changes it accordingly. -/
theorem cache_follows_history (provider : Provider σ) (change : κ → σ → σ) (source : σ)
    (events : List (Event κ)) :
    CacheLaws provider change ((Run.start source).go provider change events) := by
  have explains : Explains ((Run.start source).go provider change events) :=
    (explains_start source).go provider change events
  generalize (Run.start source).go provider change events = run at explains
  constructor
  case code => exact explains.code
  case serial => exact explains.serial
  case isCached_iff =>
    intro file
    have found : run.engine.isCached file =
        ((run.engine.cache[file]?).map Compiled.code).isSome := by
      rw [isCached, Option.isSome_map, Std.HashMap.contains_eq_isSome_getElem?]
    rw [found, explains.code, List.findSome?_isSome_iff]
    apply exists_congr
    intro moment
    apply and_congr_right
    intro _
    rw [Option.isSome_iff_exists]
    simp only [bytecode?_eq_some_iff, exists_and_left]
    rw [exists_comm]
    simp only [exists_and_left]
  case stays => exact fun file compiled cached events keeps => cache_go_of_cached cached keeps
  case hit =>
    intro file compiled cached
    refine ⟨compile_of_cached cached, fun heap arguments => ?_, fun event needs => ?_⟩
    · rw [render, compile_of_cached cached]
    · rw [requests_of_file? needs, cached, if_pos (by rfl)]
  case miss =>
    intro file cached event needs
    rw [requests_of_file? needs, cached, if_neg (by simp)]
  case given => exact fun file compiled given => cache_compile_of_ok given
  case refused =>
    intro file error refused
    have same := cache_compile_of_error refused
    refine ⟨same, fun heap arguments => ⟨?_, ?_⟩⟩
    · rw [render_fst, refused]
    · rw [render_snd, same]
  case rendered => exact fun heap arguments file => render_snd provider heap arguments file _

end HtmlTemplate.Engine
