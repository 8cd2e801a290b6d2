/-
# Asking for a text

A source of files answers a request in one of four ways: the identifier leads out of the
root, the path is remembered, the disk holds no text there, or the text is read and
remembered from now on. Only the last way changes the source, and it adds one path.

The disk is a question with many answers, and a request depends on at most one of them.
Which paths a request looks at is therefore a fact about its outcomes, with no need to
watch it at work: a path is looked at if a difference there can make a difference.
-/

import HtmlTemplate.Engine.Source

namespace HtmlTemplate.Engine

open File

namespace FileSource

variable {disk : Disk} {file : String} {source : FileSource} {path : Path}

/-- Everything that a request can come to. -/
theorem getText_cases (disk : Disk) (file : String) (source : FileSource) :
    (∃ error, source.resolve file = .error error ∧
        source.getText disk file = (.error error, source)) ∨
      (∃ path loaded, source.resolve file = .ok path ∧ source.texts[path]? = some loaded ∧
        source.getText disk file = (.ok loaded, source)) ∨
      (∃ path error, source.resolve file = .ok path ∧ source.texts[path]? = none ∧
        readText disk path = .error error ∧
        source.getText disk file = (.error error, source)) ∨
      ∃ path text, source.resolve file = .ok path ∧ source.texts[path]? = none ∧
        readText disk path = .ok text ∧
        source.getText disk file =
          (.ok (source.remember path text).1, (source.remember path text).2) := by
  rw [getText]
  cases resolved : source.resolve file with
  | error error => exact .inl ⟨error, rfl, rfl⟩
  | ok path =>
      cases remembered : source.texts[path]? with
      | some loaded =>
          refine .inr (.inl ⟨path, loaded, rfl, remembered, ?_⟩)
          simp [remembered]
      | none =>
          cases read : readText disk path with
          | error error =>
              refine .inr (.inr (.inl ⟨path, error, rfl, remembered, read, ?_⟩))
              simp [remembered, read]
          | ok text =>
              refine .inr (.inr (.inr ⟨path, text, rfl, remembered, read, ?_⟩))
              simp [remembered, read]

/-- What a path resolves to depends on the root alone. -/
theorem resolve_congr {other : FileSource} (same : source.root = other.root) (file : String) :
    source.resolve file = other.resolve file := by
  rw [resolve, resolve, same]

/-- The resolved path is what the identifier leads to, and lies within the root. -/
theorem resolve_eq_ok_iff :
    source.resolve file = .ok path ↔
      path = source.root.follow file ∧ source.root.names <+: path.names := by
  unfold resolve Path.isWithin
  dsimp only
  by_cases inside : source.root.names <+: (source.root.follow file).names
  · rw [if_pos (by simpa using inside)]
    constructor
    · rintro ⟨⟩
      exact ⟨rfl, inside⟩
    · rintro ⟨rfl, _⟩
      rfl
  · rw [if_neg (by simpa using inside)]
    constructor
    · rintro ⟨⟩
    · rintro ⟨rfl, within⟩
      exact absurd within inside

/-- An identifier is denied exactly when what it leads to does not lie within the root. -/
theorem resolve_eq_error_iff {error : SourceError} :
    source.resolve file = .error error ↔
      error = .outsideRoot (source.root.follow file) ∧
        ¬ source.root.names <+: (source.root.follow file).names := by
  unfold resolve Path.isWithin
  dsimp only
  by_cases inside : source.root.names <+: (source.root.follow file).names
  · rw [if_pos (by simpa using inside)]
    constructor
    · rintro ⟨⟩
    · rintro ⟨_, outside⟩
      exact absurd inside outside
  · rw [if_neg (by simpa using inside)]
    constructor
    · rintro ⟨⟩
      exact ⟨rfl, inside⟩
    · rintro ⟨rfl, _⟩
      rfl

/-- A request leaves the root alone. -/
theorem root_getText (disk : Disk) (file : String) (source : FileSource) :
    (source.getText disk file).2.root = source.root := by
  rcases getText_cases disk file source with
    ⟨error, _, same⟩ | ⟨path, loaded, _, _, same⟩ | ⟨path, error, _, _, _, same⟩ |
      ⟨path, text, _, _, _, same⟩
  · rw [same]
  · rw [same]
  · rw [same]
  · rw [same]
    rfl

/-- A path that is remembered after a request was remembered before, or is the one that the
identifier leads to. -/
theorem mem_texts_getText (mem : path ∈ (source.getText disk file).2.texts) :
    path ∈ source.texts ∨ source.resolve file = .ok path := by
  rcases getText_cases disk file source with
    ⟨error, _, same⟩ | ⟨found, loaded, _, _, same⟩ | ⟨found, error, _, _, _, same⟩ |
      ⟨found, text, resolved, _, _, same⟩
  · rw [same] at mem
    exact .inl mem
  · rw [same] at mem
    exact .inl mem
  · rw [same] at mem
    exact .inl mem
  · rw [same] at mem
    simp only [remember, Std.HashMap.mem_insert, beq_iff_eq] at mem
    rcases mem with rfl | earlier
    · exact .inr resolved
    · exact .inl earlier

/-- The request looks at the path of the given text: two disks that differ nowhere else can make
a difference to its outcome. -/
def LooksAt (source : FileSource) (file text : String) : Prop :=
  ∃ disk other : Disk, (∀ elsewhere, elsewhere ≠ text → disk elsewhere = other elsewhere) ∧
    source.getText disk file ≠ source.getText other file

/-- What is read at a path depends on what the disk holds there. -/
theorem readText_congr {other : Disk} (same : disk path.text = other path.text) :
    readText disk path = readText other path := by
  rw [readText, readText, same]

/-- A request looks at one path at most: the one that its identifier leads to, unless that lies
outside the root or is remembered. There it tells a directory from nothing at all. -/
theorem looksAt_iff {text : String} :
    source.LooksAt file text ↔
      ∃ path, source.resolve file = .ok path ∧ source.texts[path]? = none ∧ text = path.text := by
  constructor
  · rintro ⟨disk, other, agree, differ⟩
    cases resolved : source.resolve file with
    | error error => exact absurd (by simp [getText, resolved]) differ
    | ok path =>
        cases remembered : source.texts[path]? with
        | some loaded => exact absurd (by simp [getText, resolved, remembered]) differ
        | none =>
            refine ⟨path, rfl, remembered, ?_⟩
            by_cases same : path.text = text
            · exact same.symm
            · apply absurd _ differ
              have read : readText disk path = readText other path :=
                readText_congr (agree path.text same)
              simp only [getText, resolved, remembered, read]
  · rintro ⟨path, resolved, remembered, rfl⟩
    refine ⟨fun _ => .error .notFound,
      fun place => if place = path.text then .ok .directory else .error .notFound, ?_, ?_⟩
    · intro elsewhere other
      simp [other]
    · simp [getText, resolved, remembered, readText]

end FileSource

end HtmlTemplate.Engine
