/-
# Nothing outside the root

However a caller names files, and whatever was asked before, a source of files stays below
its root: the paths that it remembers and the one path of the disk that a request may look
at are the names of the root followed by plain names. An identifier is denied exactly when
its components, taken after those of the root, lead to a path that does not begin with the
names of the root. Names are compared as wholes, so a sibling whose name only starts like
that of the root lies outside.

Links are not part of this: a disk answers for the text of a path, and what stands behind
the answer is its own affair.
-/

import HtmlTemplate.Proofs.File.Path
import HtmlTemplate.Proofs.Engine.Texts

namespace HtmlTemplate.Engine

open File

namespace FileSource

/-- A use of a source of files. The disk may be another one each time. -/
inductive Call where
  | resolve (file : String)
  | getText (disk : Disk) (file : String)

/-- The source after a call. -/
def afterCall (source : FileSource) : Call → FileSource
  | .resolve _ => source
  | .getText disk file => (source.getText disk file).2

/-- The source after several calls. -/
def after (source : FileSource) (calls : List Call) : FileSource :=
  calls.foldl afterCall source

/-- What an identifier resolves to below the root of an absolute text. -/
theorem descends_of_resolve {source : FileSource} {base file : String} {path : Path}
    (root : source.root = .ofText base) (resolved : source.resolve file = .ok path) :
    path.IsPlain ∧ path.Descends source.root := by
  obtain ⟨leads, below, names⟩ := resolve_eq_ok_iff.mp resolved
  have plain : path.IsPlain := by
    rw [leads, root, follow_ofText_eq]
    apply isPlain_fold
    intro name mem
    rcases List.mem_append.mp mem with ofRoot | ofFile
    · exact isPlainName_of_mem_components ofRoot
    · exact isPlainName_of_mem_components ofFile
  refine ⟨plain, below, names.symm, fun name stored => plain name ?_⟩
  rw [← names]
  exact List.mem_append_right _ stored

/-- Every path that is remembered lies below the root. -/
structure Confined (root : Path) (source : FileSource) : Prop where
  root_eq : source.root = root
  descends : ∀ path ∈ source.texts, path.Descends root

/-- A call keeps what is remembered below the root. -/
theorem Confined.afterCall {base : String} {source : FileSource}
    (confined : source.Confined (.ofText base)) (call : Call) :
    (source.afterCall call).Confined (.ofText base) := by
  cases call with
  | resolve file => exact confined
  | getText disk file =>
      refine ⟨(root_getText disk file source).trans confined.root_eq, fun path mem => ?_⟩
      rcases mem_texts_getText mem with earlier | resolved
      · exact confined.descends path earlier
      · rw [← confined.root_eq]
        exact (descends_of_resolve confined.root_eq resolved).2

/-- Calls in a row keep what is remembered below the root. -/
theorem confined_after (options : Options) (calls : List Call) :
    ((ofOptions options).after calls).Confined (.ofText options.rootDir) := by
  have kept (source : FileSource) (confined : source.Confined (.ofText options.rootDir)) :
      (source.after calls).Confined (.ofText options.rootDir) := by
    induction calls generalizing source with
    | nil => exact confined
    | cons call rest ih => exact ih _ (confined.afterCall call)
  exact kept _ ⟨rfl, fun path mem => absurd mem Std.HashMap.not_mem_empty⟩

/-- Reading has failures of its own, and denies nothing. -/
theorem readText_ne_outsideRoot (disk : Disk) (path denied : Path) :
    readText disk path ≠ .error (.outsideRoot denied) := by
  unfold readText
  split
  · exact nofun
  · exact nofun
  · exact nofun
  · split
    · exact nofun
    · exact nofun

/-- A text is denied as lying outside the root exactly when its identifier is. -/
theorem getText_eq_outsideRoot_iff {source : FileSource} {disk : Disk} {file : String}
    {path : Path} :
    (source.getText disk file).1 = .error (.outsideRoot path) ↔
      source.resolve file = .error (.outsideRoot path) := by
  rcases getText_cases disk file source with
    ⟨error, resolved, same⟩ | ⟨found, loaded, resolved, _, same⟩ |
      ⟨found, error, resolved, _, read, same⟩ | ⟨found, text, resolved, _, _, same⟩
  · rw [same, resolved]
    exact ⟨fun equal => by cases equal; rfl, fun equal => by cases equal; rfl⟩
  · simp [same, resolved]
  · rw [same, resolved]
    constructor
    · rintro ⟨⟩
      exact absurd read (readText_ne_outsideRoot disk found path)
    · rintro ⟨⟩
  · simp [same, resolved]

/-- A source of files is a sandbox. For every root and every sequence of calls: what is
remembered lies below the root; what a request looks at has the components of the root,
followed by plain names; and an identifier is denied exactly when the components of the
root and its own, one after the other, lead to a path that does not begin with the root. -/
theorem after_sandboxed (options : Options) (calls : List Call) :
    let root := fold (components options.rootDir)
    let source := (ofOptions options).after calls
    root.IsPlain ∧ (∀ path ∈ source.texts, path.Descends root) ∧
      (∀ file text, source.LooksAt file text → ∃ path : Path, path.Descends root ∧
        components text = .top :: path.names.map .name) ∧
      ∀ file, let path := fold (components options.rootDir ++ components file)
        (source.resolve file =
          if root.names <+: path.names then .ok path else .error (.outsideRoot path)) ∧
        ∀ disk denied, (source.getText disk file).1 = .error (.outsideRoot denied) ↔
          denied = path ∧ ¬ root.names <+: path.names := by
  intro root source
  have confined := confined_after options calls
  have rootText : Path.ofText options.rootDir = root := ofText_eq options.rootDir
  refine ⟨?_, ?_, ?_, fun file => ?_⟩
  · rw [← rootText]
    exact isPlain_ofText options.rootDir
  · rw [← rootText]
    exact confined.descends
  · intro file text looks
    obtain ⟨path, resolved, _, rfl⟩ := looksAt_iff.mp looks
    obtain ⟨plain, descends⟩ := descends_of_resolve confined.root_eq resolved
    rw [confined.root_eq, rootText] at descends
    exact ⟨path, descends, components_text plain⟩
  · intro path
    have leads : source.root.follow file = path := by
      rw [confined.root_eq, follow_ofText_eq]
    have rootNames : source.root.names = root.names := by
      rw [confined.root_eq, rootText]
    constructor
    · split
      · rename_i inside
        exact resolve_eq_ok_iff.mpr ⟨leads.symm, by rwa [rootNames]⟩
      · rename_i outside
        exact resolve_eq_error_iff.mpr ⟨by rw [leads], by rwa [rootNames, leads]⟩
    · intro disk denied
      rw [getText_eq_outsideRoot_iff, resolve_eq_error_iff, leads, rootNames]
      simp

end FileSource

end HtmlTemplate.Engine
