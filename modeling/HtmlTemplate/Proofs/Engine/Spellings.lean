/-
# One file, many spellings

An engine over files has two caches, one above the other: bytecode by the identifier of a
file, which can be cleared, over texts by the path that an identifier resolves to, which
cannot. Entries come about at different times and under different spellings while the disk
changes. They agree nevertheless: once the text of a path was read, every spelling of the
path compiles to the same thing, for as long as the engine lives.

The invariant ties the caches together. A text that was served for an identifier is the one
that is remembered for its path, and bytecode that is cached for an identifier was compiled
from the text that is remembered for its path.
-/

import HtmlTemplate.Proofs.Engine.Cache
import HtmlTemplate.Proofs.Engine.Texts
import HtmlTemplate.Proofs.Template.FileName

namespace HtmlTemplate.Engine

open File Template

namespace FileSource

/-- The provider of the texts of files on a disk that changes with time. -/
def onDisk : Provider (Disk × FileSource) where
  getText file state :=
    let (answer, source) := (provider state.1).getText file state.2
    (answer, (state.1, source))

/-- The disk becomes another one. What was read is not affected. -/
def changeDisk (disk : Disk) (state : Disk × FileSource) : Disk × FileSource := (disk, state.2)

/-- The later source has the same root and remembers all that the earlier one does. -/
structure Grows (before after : FileSource) : Prop where
  root : after.root = before.root
  texts : ∀ (path : Path) (loaded : LoadedText),
    before.texts[path]? = some loaded → after.texts[path]? = some loaded

/-- A request takes nothing back that was read. -/
theorem grows_getText (disk : Disk) (file : String) (source : FileSource) :
    source.Grows (source.getText disk file).2 where
  root := root_getText disk file source
  texts path loaded remembered := by
    rcases getText_cases disk file source with
      ⟨error, _, same⟩ | ⟨found, kept, _, _, same⟩ | ⟨found, error, _, _, _, same⟩ |
        ⟨found, text, _, fresh, _, same⟩
    · rwa [same]
    · rwa [same]
    · rwa [same]
    · have other : found ≠ path := by
        rintro rfl
        rw [fresh] at remembered
        cases remembered
      rw [same]
      simp only [remember, Std.HashMap.getElem?_insert]
      simpa [other] using remembered

/-- A text that is served is the one that is remembered for its path from then on. -/
theorem remembered_of_getText {disk : Disk} {file : String} {source : FileSource}
    {loaded : LoadedText} (served : (source.getText disk file).1 = .ok loaded) :
    ∃ path, source.resolve file = .ok path ∧
      (source.getText disk file).2.texts[path]? = some loaded := by
  rcases getText_cases disk file source with
    ⟨error, _, same⟩ | ⟨path, kept, resolved, remembered, same⟩ |
      ⟨path, error, _, _, _, same⟩ | ⟨path, text, resolved, _, _, same⟩
  · rw [same] at served
    cases served
  · rw [same] at served ⊢
    obtain rfl := Except.ok.inj served
    exact ⟨path, resolved, remembered⟩
  · rw [same] at served
    cases served
  · rw [same] at served ⊢
    obtain rfl := Except.ok.inj served
    exact ⟨path, resolved, Std.HashMap.getElem?_insert_self⟩

/-- The text that is remembered for the path of an identifier. -/
def Remembers (source : FileSource) (file text : String) : Prop :=
  ∃ path loaded, source.resolve file = .ok path ∧ source.texts[path]? = some loaded ∧
    loaded.text = text

/-- What is remembered stays so. -/
theorem Remembers.mono {before after : FileSource} {file text : String}
    (remembers : before.Remembers file text) (grows : before.Grows after) :
    after.Remembers file text := by
  obtain ⟨path, loaded, resolved, remembered, same⟩ := remembers
  refine ⟨path, loaded, ?_, grows.texts path loaded remembered, same⟩
  rwa [resolve_congr grows.root]

/-- Spellings of one path are remembered with one text. -/
theorem Remembers.eq_of_resolve {source : FileSource} {file other text otherText : String}
    (remembers : source.Remembers file text) (otherRemembers : source.Remembers other otherText)
    (same : source.resolve file = source.resolve other) : otherText = text := by
  obtain ⟨path, loaded, resolved, remembered, rfl⟩ := remembers
  obtain ⟨otherPath, otherLoaded, otherResolved, otherRemembered, rfl⟩ := otherRemembers
  rw [resolved, otherResolved] at same
  obtain rfl := Except.ok.inj same
  rw [remembered] at otherRemembered
  obtain rfl := Option.some.inj otherRemembered
  rfl

/-- Asking the provider grows the source, and what it serves is remembered. -/
theorem getText_onDisk (state : Disk × FileSource) (file : String) :
    state.2.Grows (onDisk.getText file state).2.2 ∧
      ∀ text, (onDisk.getText file state).1 = .ok text →
        (onDisk.getText file state).2.2.Remembers file text := by
  refine ⟨grows_getText state.1 file state.2, fun text served => ?_⟩
  have answer : (onDisk.getText file state).1 =
      (state.2.getText state.1 file).1.map LoadedText.text := rfl
  cases asked : (state.2.getText state.1 file).1 with
  | error error =>
      rw [answer, asked] at served
      cases served
  | ok loaded =>
      rw [answer, asked] at served
      obtain ⟨path, resolved, remembered⟩ := remembered_of_getText asked
      refine ⟨path, loaded, ?_, remembered, Except.ok.inj served⟩
      exact (resolve_congr (root_getText state.1 file state.2) file).trans resolved

/-- What was remembered for an identifier is what the provider serves for every spelling. -/
theorem getText_onDisk_of_remembers {state : Disk × FileSource} {file text : String}
    (remembers : state.2.Remembers file text) : (onDisk.getText file state).1 = .ok text := by
  obtain ⟨path, loaded, resolved, remembered, rfl⟩ := remembers
  simp [onDisk, provider, getText, resolved, remembered, Except.map]

end FileSource

open FileSource

/-- A run of an engine over files, while the disk changes. -/
abbrev FileRun := Run (Disk × FileSource) Disk

/-- The invariant of both caches. -/
structure Agrees (options : Options) (run : FileRun) : Prop where
  root : run.engine.source.2.root = .ofText options.rootDir
  served : ∀ moment ∈ run.history, ∀ request ∈ moment.requests, ∀ text,
    request.answer = .ok text → run.engine.source.2.Remembers request.file text
  compiled : ∀ (file : String) (compiled : Compiled), run.engine.cache[file]? = some compiled →
    ∃ text, run.engine.source.2.Remembers file text ∧
      Template.compile file text = .ok compiled.code

/-- No event takes back what was read. -/
theorem grows_next (engine : Engine (Disk × FileSource)) (event : Event Disk) :
    engine.source.2.Grows (engine.next onDisk changeDisk event).source.2 := by
  have same : engine.source.2.Grows engine.source.2 := ⟨rfl, fun _ _ remembered => remembered⟩
  cases needs : event.file? with
  | none =>
      cases event with
      | change disk => exact same
      | isCached file => exact same
      | clearCache => exact same
      | compile file => cases needs
      | render heap arguments file => cases needs
  | some own =>
      rw [next_of_file? needs, source_compile]
      split
      · exact same
      · exact (getText_onDisk engine.source own).1

/-- What is served during an event is remembered after it. -/
theorem remembers_of_request {engine : Engine (Disk × FileSource)} {event : Event Disk}
    {request : Request} {text : String} (asked : request ∈ engine.requests onDisk event)
    (served : request.answer = .ok text) :
    (engine.next onDisk changeDisk event).source.2.Remembers request.file text := by
  cases needs : event.file? with
  | none =>
      rw [requests_of_no_file needs] at asked
      cases asked
  | some own =>
      rw [requests_of_file? needs] at asked
      rw [next_of_file? needs, source_compile]
      split at asked
      · cases asked
      · rename_i fresh
        obtain rfl := List.mem_singleton.mp asked
        rw [if_neg fresh]
        exact (getText_onDisk engine.source own).2 text served

/-- A new engine has read nothing. -/
theorem agrees_start (options : Options) (disk : Disk) :
    Agrees options (.start (disk, .ofOptions options)) where
  root := rfl
  served moment past := absurd past List.not_mem_nil
  compiled file compiled cached := by
    rw [Run.start, ofSource, Std.HashMap.getElem?_empty] at cached
    cases cached

/-- Whatever happens next, the caches go on to agree. -/
theorem Agrees.step {options : Options} {run : FileRun} (agrees : Agrees options run)
    (event : Event Disk) : Agrees options (run.step onDisk changeDisk event) := by
  have grows : run.engine.source.2.Grows (run.step onDisk changeDisk event).engine.source.2 :=
    grows_next run.engine event
  have served : ∀ moment ∈ (run.step onDisk changeDisk event).history,
      ∀ request ∈ moment.requests, ∀ text, request.answer = .ok text →
        (run.step onDisk changeDisk event).engine.source.2.Remembers request.file text := by
    intro moment past request asked text answer
    rcases List.mem_append.mp past with earlier | now
    · exact (agrees.served moment earlier request asked text answer).mono grows
    · obtain rfl := List.mem_singleton.mp now
      exact remembers_of_request asked answer
  refine ⟨grows.root.trans agrees.root, served, fun file compiled cached => ?_⟩
  rcases cached_step cached with before | ⟨brought, _⟩
  · obtain ⟨text, remembers, compiles⟩ := agrees.compiled file compiled before
    exact ⟨text, remembers.mono grows, compiles⟩
  · obtain ⟨_, text, found, compiles⟩ := bytecode?_eq_some_iff.mp brought
    obtain ⟨request, asked, rfl, answer⟩ := exists_request_of_text? found
    exact ⟨text, served _ (List.mem_append_right _ List.mem_cons_self) request asked text answer,
      compiles⟩

/-- Through any number of events the caches agree. -/
theorem Agrees.go {options : Options} {run : FileRun} (agrees : Agrees options run)
    (events : List (Event Disk)) : Agrees options (run.go onDisk changeDisk events) := by
  induction events generalizing run with
  | nil => exact agrees
  | cons event rest ih => exact ih (agrees.step event)

/-- Through any number of events nothing is taken back that was read. -/
theorem remembers_go {run : FileRun} {file text : String}
    (remembers : run.engine.source.2.Remembers file text) (events : List (Event Disk)) :
    (run.go onDisk changeDisk events).engine.source.2.Remembers file text := by
  induction events generalizing run with
  | nil => exact remembers
  | cons event rest ih => exact ih (remembers.mono (grows_next run.engine event))

/-- A file whose path is remembered compiles to what the remembered text compiles to. -/
theorem Agrees.compile_eq {options : Options} {run : FileRun} (agrees : Agrees options run)
    {file text : String} (remembers : run.engine.source.2.Remembers file text) :
    (run.engine.compile onDisk file).1.map Compiled.code =
      (Template.compile file text).mapError .compile := by
  rcases compile_cases onDisk file run.engine with
    ⟨compiled, cached, same⟩ | ⟨_, ⟨error, source, served, same⟩ |
      ⟨found, error, source, served, refused, same⟩ |
        ⟨found, code, source, served, compiles, same⟩⟩
  · obtain ⟨found, alsoRemembers, compiles⟩ := agrees.compiled file compiled cached
    obtain rfl := remembers.eq_of_resolve alsoRemembers rfl
    rw [same, compiles]
    rfl
  · have answer := getText_onDisk_of_remembers remembers
    rw [served] at answer
    cases answer
  · have answer := getText_onDisk_of_remembers remembers
    rw [served] at answer
    obtain rfl := Except.ok.inj answer
    rw [same, refused]
    rfl
  · have answer := getText_onDisk_of_remembers remembers
    rw [served] at answer
    obtain rfl := Except.ok.inj answer
    rw [same, compiles]
    rfl

/-- What compiling a file comes to apart from the name of the file: the instructions, or the
failure without the name. -/
def anonymous (outcome : Except Error Compiled) : Except Error (List Instruction) :=
  (outcome.map fun compiled => compiled.code.instructions).mapError fun
    | .compile error => .compile (error.inFile "")
    | other => other

/-- Some call of the run was served this text, for some spelling of this path. -/
def HasRead (options : Options) (run : FileRun) (path : Path) (text : String) : Prop :=
  ∃ moment ∈ run.history, ∃ request ∈ moment.requests,
    (ofOptions options).resolve request.file = .ok path ∧ request.answer = .ok text

/-- Spellings of one path agree for the lifetime of an engine. Once some call was served a text
for the path, every later compilation of every identifier that resolves to the path comes to
what that text comes to, instructions or fault, line and column included, whatever happens to
the disk and to the cache of bytecode in between. -/
theorem spellings_agree (options : Options) (disk : Disk) (events later : List (Event Disk))
    (path : Path) (text file : String)
    (read : HasRead options ((Run.start (disk, .ofOptions options)).go onDisk changeDisk events)
      path text)
    (resolved : (ofOptions options).resolve file = .ok path) :
    let run := (Run.start (disk, .ofOptions options)).go onDisk changeDisk (events ++ later)
    anonymous (run.engine.compile onDisk file).1 = (verdict text).mapError .compile := by
  intro run
  obtain ⟨moment, past, request, asked, sameResolved, answer⟩ := read
  have agreesBefore := (agrees_start options disk).go events
  have agrees : Agrees options run := (agrees_start options disk).go (events ++ later)
  have went : run = ((Run.start (disk, .ofOptions options)).go onDisk changeDisk events).go
      onDisk changeDisk later := List.foldl_append
  have spelled : run.engine.source.2.Remembers request.file text := by
    rw [went]
    exact remembers_go (agreesBefore.served moment past request asked text answer) later
  have resolves (name : String) :
      run.engine.source.2.resolve name = (ofOptions options).resolve name :=
    resolve_congr agrees.root name
  have remembers : run.engine.source.2.Remembers file text := by
    obtain ⟨found, loaded, foundResolved, remembered, same⟩ := spelled
    rw [resolves, sameResolved] at foundResolved
    obtain rfl := Except.ok.inj foundResolved
    exact ⟨path, loaded, (resolves file).trans resolved, remembered, same⟩
  have outcome := agrees.compile_eq remembers
  rw [← compile_eq_verdict file text]
  unfold anonymous
  cases compiled : (run.engine.compile onDisk file).1 with
  | error error =>
      rw [compiled] at outcome
      cases compiles : Template.compile file text with
      | error refusal =>
          rw [compiles] at outcome
          obtain rfl := Except.error.inj outcome
          rfl
      | ok code =>
          rw [compiles] at outcome
          cases outcome
  | ok kept =>
      rw [compiled] at outcome
      cases compiles : Template.compile file text with
      | error refusal =>
          rw [compiles] at outcome
          cases outcome
      | ok code =>
          rw [compiles] at outcome
          obtain rfl := Except.ok.inj outcome
          rfl

/-- A root with one template in it. -/
def siteOptions : Options := ⟨"/site", by decide⟩

/-- A disk on which the template stands. -/
def siteDisk : Disk := fun path =>
  if path = "/site/a.html" then .ok (.file "Hi @name".toUTF8) else .error .notFound

/-- A template that was compiled once compiles to the same thing under another spelling after it
was taken away and all bytecode was forgotten. -/
theorem spellings_agree_after_removal :
    HasRead siteOptions ((Run.start (siteDisk, .ofOptions siteOptions)).go onDisk changeDisk
        [.compile "a.html"]) ⟨["site", "a.html"]⟩ "Hi @name" ∧
      (ofOptions siteOptions).resolve "./x/../a.html" = .ok ⟨["site", "a.html"]⟩ ∧
      let run := (Run.start (siteDisk, .ofOptions siteOptions)).go onDisk changeDisk
        ([.compile "a.html"] ++ [.change fun _ => .error .notFound, .clearCache])
      anonymous (run.engine.compile onDisk "./x/../a.html").1 =
        (verdict "Hi @name").mapError .compile := by
  have resolved : (ofOptions siteOptions).resolve "a.html" = .ok ⟨["site", "a.html"]⟩ := by
    decide
  have onDisk_reads : readText siteDisk ⟨["site", "a.html"]⟩ = .ok "Hi @name" := by decide
  have served : (onDisk.getText "a.html" (siteDisk, .ofOptions siteOptions)).1 =
      .ok "Hi @name" := by
    have fresh : (ofOptions siteOptions).texts[(⟨["site", "a.html"]⟩ : Path)]? = none :=
      Std.HashMap.getElem?_empty
    simp [onDisk, provider, getText, resolved, fresh, onDisk_reads, remember, Except.map]
  have read : HasRead siteOptions ((Run.start (siteDisk, .ofOptions siteOptions)).go onDisk
      changeDisk [.compile "a.html"]) ⟨["site", "a.html"]⟩ "Hi @name" := by
    refine ⟨_, List.mem_singleton.mpr rfl, ⟨"a.html", .ok "Hi @name"⟩, ?_, resolved, rfl⟩
    have asked : (ofSource (siteDisk, .ofOptions siteOptions)).requests onDisk
        (.compile "a.html" : Event Disk) = [⟨"a.html", .ok "Hi @name"⟩] := by
      refine (requests_of_file? rfl).trans ?_
      rw [ofSource, Std.HashMap.getElem?_empty, if_neg (by simp), served]
    rw [moment, Run.start, asked]
    exact List.mem_singleton.mpr rfl
  exact ⟨read, by decide, spellings_agree siteOptions siteDisk _ _ _ _ _ read (by decide)⟩

end HtmlTemplate.Engine
