/-
# What was read first stays

The disk changes between the calls of a source of files, and several identifiers lead to one
path. For each path the calls that lead there are divided by the first one that succeeds. The
calls before it are answered by the disk as it is when they are made, and leave no trace. The
first one that succeeds reads the disk, too. From then on nothing is read at this path again:
each call is answered with what was read then.

What carries this is that the answer of the first successful call for a path is all that is
remembered for the path. One call adds its answer behind what is remembered already, and so
does a whole sequence of calls.
-/

import HtmlTemplate.Proofs.Engine.Sandbox

namespace HtmlTemplate.Engine.FileSource

open File

/-- The text that a call is answered with, if its identifier leads to the path. -/
def served? (source : FileSource) (path : Path) : Call → Option LoadedText
  | .resolve _ => none
  | .getText disk file =>
      if source.resolve file = .ok path then (source.getText disk file).1.toOption else none

/-- The text that the first successful call for the path is answered with. -/
def firstServed? (path : Path) : FileSource → List Call → Option LoadedText
  | _, [] => none
  | source, call :: rest =>
      (source.served? path call).or (firstServed? path (source.afterCall call) rest)

/-- What a disk shows at a path: a text, or the reason why there is none. -/
inductive Shows (disk : Disk) (path : Path) : Except SourceError String → Prop where
  | text {content : ByteArray} {text : String} (file : disk path.text = .ok (.file content))
      (valid : String.fromUTF8? content = some text) : Shows disk path (.ok text)
  | unreadable {content : ByteArray} (file : disk path.text = .ok (.file content))
      (invalid : String.fromUTF8? content = none) : Shows disk path (.error (.unreadable path))
  | unopened {error : AccessError} (closed : disk path.text = .ok (.sealed error)) :
      Shows disk path (.error (.unreadable path))
  | notAFile (directory : disk path.text = .ok .directory) :
      Shows disk path (.error (.notAFile path))
  | inaccessible {error : AccessError} (missing : disk path.text = .error error) :
      Shows disk path (.error (.inaccessible path))

variable {source : FileSource} {path : Path} {disk : Disk} {file : String}

/-- Reading gives what the disk shows. -/
theorem shows_readText (disk : Disk) (path : Path) : Shows disk path (readText disk path) := by
  unfold readText
  split
  · rename_i error missing
    exact .inaccessible missing
  · rename_i directory
    exact .notAFile directory
  · rename_i error closed
    exact .unopened closed
  · rename_i content found
    split
    · rename_i text valid
      exact .text found valid
    · rename_i invalid
      exact .unreadable found invalid

section Calls

/-- What is remembered for a path is the answer, and nothing changes. -/
theorem getText_of_remembered {loaded : LoadedText} (resolved : source.resolve file = .ok path)
    (remembered : source.texts[path]? = some loaded) (disk : Disk) :
    source.getText disk file = (.ok loaded, source) := by
  rw [getText, resolved]
  simp only [remembered]

/-- Where nothing is remembered, the answer is what is read. -/
theorem getText_of_fresh (resolved : source.resolve file = .ok path)
    (fresh : source.texts[path]? = none) (disk : Disk) :
    (source.getText disk file).1.map LoadedText.text = readText disk path := by
  rw [getText, resolved]
  simp only [fresh]
  cases readText disk path with
  | error error => rfl
  | ok text => rfl

/-- A request that fails leaves the source as it is. -/
theorem getText_of_error {error : SourceError}
    (refused : (source.getText disk file).1 = .error error) :
    (source.getText disk file).2 = source := by
  rcases getText_cases disk file source with
    ⟨denial, _, same⟩ | ⟨found, loaded, _, _, same⟩ | ⟨found, failure, _, _, _, same⟩ |
      ⟨found, text, _, _, _, same⟩
  · rw [same]
  · rw [same]
  · rw [same]
  · rw [same] at refused
    cases refused

/-- The step lemma: a call adds its answer behind what is remembered for a path. -/
theorem texts_afterCall (source : FileSource) (path : Path) (call : Call) :
    (source.afterCall call).texts[path]? =
      (source.texts[path]?).or (source.served? path call) := by
  cases call with
  | resolve file => exact Option.or_none.symm
  | getText disk file =>
      rw [afterCall, served?]
      by_cases leads : source.resolve file = .ok path
      · rw [if_pos leads]
        cases remembered : source.texts[path]? with
        | some loaded =>
            rw [getText_of_remembered leads remembered, Option.some_or]
            exact remembered
        | none =>
            rw [Option.none_or, getText, leads]
            simp only [remembered]
            cases readText disk path with
            | error error => exact remembered
            | ok text => exact Std.HashMap.getElem?_insert_self
      · rw [if_neg leads, Option.or_none]
        rcases getText_cases disk file source with
          ⟨denial, _, same⟩ | ⟨found, loaded, _, _, same⟩ | ⟨found, failure, _, _, _, same⟩ |
            ⟨found, text, resolved, _, _, same⟩
        · rw [same]
        · rw [same]
        · rw [same]
        · have other : found ≠ path := fun this => leads (this ▸ resolved)
          rw [same]
          simp [remember, Std.HashMap.getElem?_insert, other]

/-- The run lemma: a sequence of calls adds the first answer for a path that is a text. -/
theorem texts_after (source : FileSource) (path : Path) (calls : List Call) :
    (source.after calls).texts[path]? =
      (source.texts[path]?).or (firstServed? path source calls) := by
  induction calls generalizing source with
  | nil => exact Option.or_none.symm
  | cons call rest ih =>
      show ((source.afterCall call).after rest).texts[path]? = _
      rw [ih, texts_afterCall, Option.or_assoc, firstServed?]

/-- A call that is answered with a text for a path is a request, and leads to the path. -/
theorem exists_of_served? {call : Call} {loaded : LoadedText}
    (served : source.served? path call = some loaded) :
    ∃ disk file, call = .getText disk file ∧ source.resolve file = .ok path ∧
      (source.getText disk file).1 = .ok loaded := by
  cases call with
  | resolve file => cases served
  | getText disk file =>
      rw [served?] at served
      split at served
      · rename_i leads
        refine ⟨disk, file, rfl, leads, ?_⟩
        cases answer : (source.getText disk file).1 with
        | error error =>
            rw [answer] at served
            cases served
        | ok text =>
            rw [answer] at served
            obtain rfl := Option.some.inj served
            rfl
      · cases served

/-- The first text that is served for a path is served by one of the calls, and by none before. -/
theorem exists_of_firstServed? {calls : List Call} {loaded : LoadedText}
    (served : firstServed? path source calls = some loaded) :
    ∃ before call later, calls = before ++ call :: later ∧
      firstServed? path source before = none ∧
      (source.after before).served? path call = some loaded := by
  induction calls generalizing source with
  | nil => cases served
  | cons call rest ih =>
      rw [firstServed?, Option.or_eq_some_iff] at served
      rcases served with now | ⟨notYet, later⟩
      · exact ⟨[], call, rest, rfl, rfl, now⟩
      · obtain ⟨before, first, behind, rfl, unserved, serves⟩ := ih later
        refine ⟨call :: before, first, behind, rfl, ?_, serves⟩
        rw [firstServed?, notYet, unserved]
        rfl

end Calls

section Runs

variable {options : Options} {calls : List Call}

/-- A new source remembers the first text that was served for each path, and nothing else. -/
theorem texts_ofOptions_after (options : Options) (path : Path) (calls : List Call) :
    ((ofOptions options).after calls).texts[path]? =
      firstServed? path (ofOptions options) calls := by
  have nothing : (ofOptions options).texts[path]? = none := Std.HashMap.getElem?_empty
  rw [texts_after, nothing, Option.none_or]

/-- Where an identifier leads does not change. -/
theorem resolve_after (options : Options) (calls : List Call) (file : String) :
    ((ofOptions options).after calls).resolve file = (ofOptions options).resolve file :=
  resolve_congr (confined_after options calls).root_eq file

/-- As long as no call for a path was answered with a text, calls are answered by the disk. -/
theorem shows_of_unserved (resolved : (ofOptions options).resolve file = .ok path)
    (unserved : firstServed? path (ofOptions options) calls = none) (disk : Disk) :
    Shows disk path
      ((((ofOptions options).after calls).getText disk file).1.map LoadedText.text) := by
  rw [← resolve_after options calls] at resolved
  rw [← texts_ofOptions_after] at unserved
  rw [getText_of_fresh resolved unserved disk]
  exact shows_readText disk path

end Runs

/-- What a source of files makes of the next request after a sequence of calls. -/
structure TextLaws (options : Options) (calls : List Call) : Prop where
  /-- Once a call for a path was answered with a text, every request that leads to the path is
  answered with the same object and changes nothing, whatever the disk holds by then. -/
  remembered : ∀ file path loaded, (ofOptions options).resolve file = .ok path →
    firstServed? path (ofOptions options) calls = some loaded →
      ∀ disk, ((ofOptions options).after calls).getText disk file =
        (.ok loaded, (ofOptions options).after calls)
  /-- This is the text that the disk showed when the first such call was made. -/
  origin : ∀ path loaded, firstServed? path (ofOptions options) calls = some loaded →
    ∃ before disk file later, calls = before ++ .getText disk file :: later ∧
      (ofOptions options).resolve file = .ok path ∧
      firstServed? path (ofOptions options) before = none ∧ Shows disk path (.ok loaded.text)
  /-- Until then a request is answered by the disk as it is now. -/
  current : ∀ file path, (ofOptions options).resolve file = .ok path →
    firstServed? path (ofOptions options) calls = none →
      ∀ disk, Shows disk path
        ((((ofOptions options).after calls).getText disk file).1.map LoadedText.text)
  /-- An identifier that leads out of the root is denied whatever the disk holds. -/
  denied : ∀ file error, (ofOptions options).resolve file = .error error →
    ∀ disk, (((ofOptions options).after calls).getText disk file).1 = .error error
  /-- No failure is remembered: after it the source is what it was before. -/
  refused : ∀ disk file error,
    (((ofOptions options).after calls).getText disk file).1 = .error error →
      (((ofOptions options).after calls).getText disk file).2 = (ofOptions options).after calls

/-- The texts of a source follow its calls: whatever was called before, under any identifiers and
while the disk changed at will, the next request for a path is answered with the text that was
read there first, or else by the disk as it is; and a failure leaves nothing behind. -/
theorem texts_follow_calls (options : Options) (calls : List Call) : TextLaws options calls := by
  constructor
  case remembered =>
    intro file path loaded resolved served disk
    rw [← resolve_after options calls] at resolved
    rw [← texts_ofOptions_after] at served
    exact getText_of_remembered resolved served disk
  case origin =>
    intro path loaded served
    obtain ⟨before, call, later, rfl, unserved, serves⟩ := exists_of_firstServed? served
    obtain ⟨disk, file, rfl, leads, answer⟩ := exists_of_served? serves
    rw [resolve_after] at leads
    have shown := shows_of_unserved leads unserved disk
    rw [answer] at shown
    exact ⟨before, disk, file, later, rfl, leads, unserved, shown⟩
  case current =>
    intro file path resolved unserved disk
    exact shows_of_unserved resolved unserved disk
  case denied =>
    intro file error outside disk
    rw [← resolve_after options calls] at outside
    rw [getText, outside]
  case refused => exact fun disk file error refused => getText_of_error refused

end HtmlTemplate.Engine.FileSource
