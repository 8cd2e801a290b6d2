/-
# One path, one resolution

A source of files remembers texts by resolved paths, so it matters that spellings of one file
come to one path. A text that is walked segment by segment may be cut at any slash: first one
goes where the front leads, then where the back leads from there. Whatever leads back to where
it begins can therefore be inserted at a slash: nothing at all, which doubles the slash, a dot,
or a name that is left again at once. That holds at every place, be it inside the root, outside
of it, or at the top, for a name that is entered is what the two dots behind it leave.
-/

import HtmlTemplate.Proofs.Engine.Sandbox
import Mathlib.Logic.Relation

namespace HtmlTemplate

namespace File

namespace Path

/-- Go where a text leads if it is taken as a relative one. -/
def walk (path : Path) (text : String) : Path := (segments text).foldl step path

/-- The text leads back to where it is walked from. -/
def LeadsBack (text : String) : Prop := ∀ path : Path, path.walk text = path

end Path

/-- The second text spells the same file as the first one, with something added. Slashes and dots
may be added at any slash. A detour through a name stands before a segment, be it the first one
or not; the first segment of an absolute text is the one behind its first slash. -/
inductive Respells : String → String → Prop where
  | doubleSlash (before after : String) :
      Respells (before ++ "/" ++ after) (before ++ "//" ++ after)
  | trailingSlash (file : String) (filled : file ≠ "") : Respells file (file ++ "/")
  | dot (before after : String) :
      Respells (before ++ "/" ++ after) (before ++ "/./" ++ after)
  | detour (before after name : String) (plain : IsPlainName name) :
      Respells (before ++ "/" ++ after) (before ++ "/" ++ name ++ "/../" ++ after)
  | detourFirst (file name : String) (plain : IsPlainName name)
      (relative : isAbsolute file = false) : Respells file (name ++ "/../" ++ file)

section Walking

variable {path : Path}

/-- A text may be cut at a slash. -/
theorem segments_slash (before after : String) :
    segments (before ++ "/" ++ after) = segments before ++ segments after := by
  have chars : (before ++ "/" ++ after).toList = before.toList ++ '/' :: after.toList := by simp
  simp only [segments, splitSlash_eq_splitOn, chars, List.splitOn_append_cons_self,
    List.map_append]

/-- A plain name is one segment. -/
theorem segments_of_isPlainName {name : String} (plain : IsPlainName name) :
    segments name = [name] := by
  rw [segments, splitSlash_eq_splitOn, List.splitOn_eq_singleton plain.slash_notMem,
    List.map_singleton, String.ofList_toList]

/-- To walk a text is to walk what is before a slash, and then what is behind it. -/
theorem walk_slash (path : Path) (before after : String) :
    path.walk (before ++ "/" ++ after) = (path.walk before).walk after := by
  rw [Path.walk, segments_slash, List.foldl_append]
  rfl

/-- To follow a text is to walk it from the top or from here. -/
theorem follow_eq_walk (path : Path) (text : String) :
    path.follow text = (if isAbsolute text then Path.top else path).walk text := rfl

/-- Nothing leads nowhere. -/
theorem leadsBack_empty : Path.LeadsBack "" := fun _ => rfl

theorem leadsBack_dot : Path.LeadsBack "." := fun _ => rfl

/-- A name that is left again leads back, even at the top, where two dots alone would stay. -/
theorem leadsBack_detour {name : String} (plain : IsPlainName name) :
    Path.LeadsBack (name ++ "/" ++ "..") := by
  intro path
  have entered : path.walk name = ⟨path.names ++ [name]⟩ := by
    rw [Path.walk, segments_of_isPlainName plain]
    show path.step name = _
    simp [Path.step, plain.ne_empty, plain.ne_dot, plain.ne_dots]
  have left (inside : Path) : inside.walk ".." = ⟨inside.names.dropLast⟩ := rfl
  rw [walk_slash, entered, left, List.dropLast_concat]

/-- Whether a text is absolute is decided before its first slash or at it. -/
theorem isAbsolute_slash (before after : String) :
    isAbsolute (before ++ "/" ++ after) = isAbsolute (before ++ "/") := by
  unfold isAbsolute
  simp only [String.toList_append]
  cases before.toList with
  | nil => rfl
  | cons c rest => rfl

/-- What follows a slash does not depend on what a text starts with. -/
theorem follow_slash (path : Path) (before after : String) :
    path.follow (before ++ "/" ++ after) = (path.follow (before ++ "/")).walk after := by
  have ends : before ++ "/" = before ++ "/" ++ "" := String.append_empty.symm
  rw [follow_eq_walk, follow_eq_walk, walk_slash, isAbsolute_slash, ends, walk_slash,
    leadsBack_empty]

/-- What leads back can be inserted at a slash. -/
theorem follow_insert (path : Path) (before after : String) {inserted : String}
    (back : Path.LeadsBack inserted) :
    path.follow (before ++ "/" ++ (inserted ++ "/" ++ after)) =
      path.follow (before ++ "/" ++ after) := by
  rw [follow_slash, walk_slash, back, ← follow_slash]

/-- A slash at the end leads nowhere, unless it is all there is. -/
theorem follow_trailingSlash (path : Path) {file : String} (filled : file ≠ "") :
    path.follow (file ++ "/") = path.follow file := by
  have same : isAbsolute (file ++ "/") = isAbsolute file := by
    unfold isAbsolute
    rw [String.toList_append]
    cases chars : file.toList with
    | nil => exact absurd (String.toList_eq_nil_iff.mp chars) filled
    | cons c rest => rfl
  have ends : file ++ "/" = file ++ "/" ++ "" := String.append_empty.symm
  rw [follow_eq_walk, follow_eq_walk, same, ends, walk_slash, leadsBack_empty]

/-- A relative text may begin with a detour. -/
theorem follow_detourFirst (path : Path) {file name : String} (plain : IsPlainName name)
    (relative : isAbsolute file = false) :
    path.follow (name ++ "/" ++ ".." ++ "/" ++ file) = path.follow file := by
  have alsoRelative : isAbsolute (name ++ "/" ++ ".." ++ "/" ++ file) = false := by
    have slash_free := plain.slash_notMem
    unfold isAbsolute
    simp only [String.toList_append]
    cases chars : name.toList with
    | nil => exact absurd (String.toList_eq_nil_iff.mp chars) plain.ne_empty
    | cons c rest =>
        rw [chars] at slash_free
        have other : c ≠ '/' := fun slash => slash_free (by simp [slash])
        simpa using other
  rw [follow_eq_walk, follow_eq_walk, alsoRelative, relative, walk_slash,
    leadsBack_detour plain]

/-- Spellings of one file lead to the same path. -/
theorem Respells.follow_eq {file other : String} (respells : Respells file other) (path : Path) :
    path.follow other = path.follow file := by
  cases respells with
  | doubleSlash before after =>
      have cut : before ++ "//" ++ after = before ++ "/" ++ ("" ++ "/" ++ after) := by
        rw [← String.toList_inj]
        simp
      rw [cut, follow_insert path before after leadsBack_empty]
  | trailingSlash _ filled => exact follow_trailingSlash path filled
  | dot before after =>
      have cut : before ++ "/./" ++ after = before ++ "/" ++ ("." ++ "/" ++ after) := by
        rw [← String.toList_inj]
        simp
      rw [cut, follow_insert path before after leadsBack_dot]
  | detour before after name plain =>
      have cut : before ++ "/" ++ name ++ "/../" ++ after =
          before ++ "/" ++ (name ++ "/" ++ ".." ++ "/" ++ after) := by
        rw [← String.toList_inj]
        simp
      rw [cut, follow_insert path before after (leadsBack_detour plain)]
  | detourFirst _ name plain relative =>
      have cut : name ++ "/../" ++ file = name ++ "/" ++ ".." ++ "/" ++ file := by
        rw [← String.toList_inj]
        simp
      rw [cut, follow_detourFirst path plain relative]

/-- The text of a plain path leads to this path, from wherever it is followed. -/
theorem follow_text {target : Path} (plain : target.IsPlain) (path : Path) :
    path.follow target.text = target := by
  have descend (names : List String) (start : Path) :
      (names.map Component.name).foldl Component.follow start = ⟨start.names ++ names⟩ := by
    induction names generalizing start with
    | nil => simp
    | cons name rest ih => simp [ih, Component.follow]
  rw [follow_eq, components_text plain, List.foldl_cons, descend]
  rfl

end Walking

end File

namespace Engine

open File

namespace FileSource

/-- Resolving looks at nothing but where an identifier leads. -/
theorem resolve_eq_of_follow {source : FileSource} {file other : String}
    (same : source.root.follow other = source.root.follow file) :
    source.resolve other = source.resolve file := by
  rw [resolve, resolve, same]

/-- What a source resolves does not depend on how it is spelled, however often an identifier is
respelled, be it allowed or denied. -/
theorem resolve_eq_of_respells {source : FileSource} {file other : String}
    (respelled : Relation.EqvGen Respells file other) :
    source.resolve other = source.resolve file := by
  induction respelled with
  | rel file other respells => exact resolve_eq_of_follow (respells.follow_eq source.root)
  | refl file => rfl
  | symm file other _ ih => exact ih.symm
  | trans file between other _ _ first second => exact second.trans first

/-- The text of a resolved path resolves to the path. -/
theorem resolve_text {source : FileSource} {base file : String} {path : Path}
    (root : source.root = .ofText base) (resolved : source.resolve file = .ok path) :
    source.resolve path.text = .ok path := by
  have plain := (descends_of_resolve root resolved).1
  have inside := (resolve_eq_ok_iff.mp resolved).2
  exact resolve_eq_ok_iff.mpr ⟨(follow_text plain source.root).symm, inside⟩

/-- Resolution is canonical. A resolved path is what its own text resolves to, respelling an
identifier any number of times changes neither what is resolved nor what is denied, and the root
is what its own text leads to. -/
theorem resolution_canonical (options : Options) :
    let source := ofOptions options
    (∀ file path, source.resolve file = .ok path → source.resolve path.text = .ok path) ∧
      (∀ file other, Relation.EqvGen Respells file other →
        source.resolve other = source.resolve file) ∧
      Path.ofText source.root.text = source.root := by
  intro source
  refine ⟨?text, ?spelling, ?root⟩
  case text => exact fun file path resolved => resolve_text rfl resolved
  case spelling => exact fun file other respelled => resolve_eq_of_respells respelled
  case root => exact follow_text (isPlain_ofText options.rootDir) .top

/-- A detour is left again outside of the root as well. -/
example : (ofOptions ⟨"/site", by decide⟩).resolve "../x/../site//./a.html/" =
    (ofOptions ⟨"/site", by decide⟩).resolve "../site/a.html" := by
  decide

end FileSource

end Engine

end HtmlTemplate
