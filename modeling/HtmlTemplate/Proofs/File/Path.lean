/-
# What paths are made of

A path text can be taken apart into components: the top, names, and dots that mean a
direction. To follow a text is to take its components one at a time. Every path that is
followed from the top, whatever its text says, ends up as plain names, and the text that is
written for such a path has exactly these names as its components. So a path that is known
by its names and the text that is handed on for it cannot disagree.
-/

import HtmlTemplate.File.Path
import Mathlib.Data.List.Basic

namespace HtmlTemplate.File

/-- A part of a path text that counts for where it leads. -/
inductive Component where
  /-- The top, where an absolute text starts. -/
  | top
  /-- A single dot, where a relative text starts. -/
  | here
  /-- Two dots. -/
  | parent
  | name (name : String)
  deriving DecidableEq, Repr

namespace Component

/-- The component that a segment is, unless it changes nothing. -/
def ofSegment? (segment : String) : Option Component :=
  if segment = "" ∨ segment = "." then none
  else if segment = ".." then some .parent
  else some (.name segment)

/-- Where a component leads. The top is above itself. -/
def follow (path : Path) : Component → Path
  | .top => .top
  | .here => path
  | .parent => ⟨path.names.dropLast⟩
  | .name child => ⟨path.names ++ [child]⟩

end Component

/-- What a path text starts with, if that is a component of its own. -/
def startComponent? (text : String) : Option Component :=
  if isAbsolute text then some .top
  else if (segments text).head? = some "." then some .here
  else none

/-- The components of a path text. Empty segments do not count, and single dots only at the
start of a relative text. -/
def components (text : String) : List Component :=
  (startComponent? text).toList ++ (segments text).filterMap Component.ofSegment?

/-- The path that components lead to from the top, one after the other. -/
def fold (parts : List Component) : Path := parts.foldl Component.follow .top

/-- A name that a directory can hold: it is no direction, and it is a single segment. -/
structure IsPlainName (name : String) : Prop where
  ne_empty : name ≠ ""
  ne_dot : name ≠ "."
  ne_dots : name ≠ ".."
  slash_notMem : '/' ∉ name.toList

/-- A path all of whose names are plain. -/
def Path.IsPlain (path : Path) : Prop := ∀ name ∈ path.names, IsPlainName name

/-- The path is the directory, or plain names lead down to it from there. -/
def Path.Descends (path directory : Path) : Prop :=
  ∃ below, path.names = directory.names ++ below ∧ ∀ name ∈ below, IsPlainName name

section Segments

/-- Cutting at slashes is the splitting of lists at an element. -/
theorem splitSlash_eq_splitOn (cs : List Char) : splitSlash cs = cs.splitOn '/' := by
  induction cs with
  | nil => rfl
  | cons c rest ih =>
      rw [splitSlash, List.splitOn_cons_eq_if_modifyHead, ih]
      by_cases slash : c = '/'
      · rw [if_pos slash, if_pos (by simpa using slash)]
      · rw [if_neg slash, if_neg (by simpa using slash)]
        cases pieces : rest.splitOn '/' with
        | nil => exact absurd pieces (List.splitOn_ne_nil '/' rest)
        | cons piece others => rfl

/-- No segment holds a slash. -/
theorem slash_notMem_of_mem_splitSlash {cs piece : List Char} (mem : piece ∈ splitSlash cs) :
    '/' ∉ piece := by
  induction cs generalizing piece with
  | nil => simp_all [splitSlash]
  | cons c rest ih =>
      rw [splitSlash] at mem
      by_cases slash : c = '/'
      · rw [if_pos slash] at mem
        rcases List.mem_cons.mp mem with rfl | later
        · exact List.not_mem_nil
        · exact ih later
      · rw [if_neg slash] at mem
        cases pieces : splitSlash rest with
        | nil => simp_all [Ne.symm slash]
        | cons first others =>
            simp only [pieces] at mem ih
            rcases List.mem_cons.mp mem with rfl | later
            · have rest_free : '/' ∉ first := ih List.mem_cons_self
              simp [rest_free, Ne.symm slash]
            · exact ih (List.mem_cons_of_mem first later)

/-- A segment that is no direction is a plain name. -/
theorem isPlainName_of_mem_segments {text segment : String} (mem : segment ∈ segments text)
    (named : Component.ofSegment? segment = some (.name segment)) : IsPlainName segment := by
  obtain ⟨piece, cut, rfl⟩ := List.mem_map.mp mem
  have slash_free := slash_notMem_of_mem_splitSlash cut
  unfold Component.ofSegment? at named
  constructor <;> simp_all

/-- A plain name counts as itself. -/
theorem ofSegment?_of_isPlainName {name : String} (plain : IsPlainName name) :
    Component.ofSegment? name = some (.name name) := by
  simp [Component.ofSegment?, plain.ne_empty, plain.ne_dot, plain.ne_dots]

/-- The segments of the text that is written for a plain path: nothing stands before the first
slash, and behind it stand the names, or nothing if there are none. -/
theorem segments_text {path : Path} (plain : path.IsPlain) :
    segments path.text = "" :: if path.names = [] then [""] else path.names := by
  have cut : splitSlash path.text.toList =
      [] :: (['/'].intercalate (path.names.map String.toList)).splitOn '/' := by
    rw [splitSlash_eq_splitOn, Path.text, String.toList_append, String.toList_intercalate]
    exact List.splitOn_append_cons_self [] _
  rw [segments, cut, List.map_cons]
  by_cases none : path.names = []
  · rw [if_pos none, none]
    rfl
  · rw [if_neg none, List.splitOn_intercalate]
    · simp
    · simpa using fun name stored => (plain name stored).slash_notMem
    · simpa using none

/-- The components of the text that is written for a plain path are the top and the names. -/
theorem components_text {path : Path} (plain : path.IsPlain) :
    components path.text = .top :: path.names.map .name := by
  have absolute : isAbsolute path.text = true := by
    simp [isAbsolute, Path.text]
  have named (names : List String) (all : ∀ name ∈ names, IsPlainName name) :
      names.filterMap Component.ofSegment? = names.map .name := by
    rw [← List.filterMap_eq_map]
    exact List.filterMap_congr fun name stored => ofSegment?_of_isPlainName (all name stored)
  rw [components, startComponent?, if_pos absolute, segments_text plain, Option.toList_some,
    List.filterMap_cons_none (by rfl), List.singleton_append]
  congr 1
  by_cases none : path.names = []
  · simp [none, Component.ofSegment?]
  · rw [if_neg none]
    exact named path.names plain

end Segments

section Following

/-- To follow a segment is to take its component, if it is one. -/
theorem step_eq (path : Path) (segment : String) :
    path.step segment =
      match Component.ofSegment? segment with
      | some part => part.follow path
      | none => path := by
  unfold Path.step Component.ofSegment?
  split
  · rfl
  · split
    · rfl
    · rfl

/-- To follow a text is to take its components one after the other. -/
theorem follow_eq (path : Path) (text : String) :
    path.follow text = (components text).foldl Component.follow path := by
  have stepwise (start : Path) : (segments text).foldl Path.step start =
      ((segments text).filterMap Component.ofSegment?).foldl Component.follow start := by
    rw [List.foldl_filterMap]
    congr 1
    funext here segment
    rw [step_eq]
    cases Component.ofSegment? segment with
    | none => rfl
    | some part => rfl
  rw [Path.follow, stepwise, components, List.foldl_append, startComponent?]
  congr 1
  by_cases absolute : isAbsolute text = true
  · rw [if_pos absolute, if_pos absolute]
    rfl
  · rw [if_neg absolute, if_neg absolute]
    by_cases dot : (segments text).head? = some "."
    · rw [if_pos dot]
      rfl
    · rw [if_neg dot]
      rfl

/-- What an absolute text leads to is what its components lead to. -/
theorem ofText_eq (text : String) : Path.ofText text = fold (components text) :=
  follow_eq .top text

/-- To follow one text and then another is to take the components of both in a row. -/
theorem follow_ofText_eq (base text : String) :
    (Path.ofText base).follow text = fold (components base ++ components text) := by
  rw [ofText_eq, follow_eq, fold, fold, List.foldl_append]

/-- A step from a plain path leads to a plain path. -/
theorem isPlain_follow {path : Path} {part : Component} (plain : path.IsPlain)
    (named : ∀ name, part = .name name → IsPlainName name) : (part.follow path).IsPlain := by
  cases part with
  | top => exact fun name stored => absurd stored List.not_mem_nil
  | here => exact plain
  | parent => exact fun name stored => plain name (List.dropLast_subset path.names stored)
  | name child =>
      intro name stored
      rcases List.mem_append.mp stored with earlier | last
      · exact plain name earlier
      · obtain rfl := List.mem_singleton.mp last
        exact named name rfl

/-- The names among the components of a text are plain. -/
theorem isPlainName_of_mem_components {text name : String}
    (mem : .name name ∈ components text) : IsPlainName name := by
  rcases List.mem_append.mp mem with start | segment
  · unfold startComponent? at start
    split at start
    · simp at start
    · split at start
      · simp at start
      · simp at start
  · obtain ⟨piece, cut, counts⟩ := List.mem_filterMap.mp segment
    have same : piece = name := by
      unfold Component.ofSegment? at counts
      split at counts
      · cases counts
      · split at counts
        · cases counts
        · exact Component.name.inj (Option.some.inj counts)
    subst same
    exact isPlainName_of_mem_segments cut counts

/-- Components with plain names lead to a plain path. -/
theorem isPlain_fold {parts : List Component}
    (named : ∀ name, .name name ∈ parts → IsPlainName name) : (fold parts).IsPlain := by
  have followed (start : Path) (plain : start.IsPlain) :
      (parts.foldl Component.follow start).IsPlain := by
    induction parts generalizing start with
    | nil => exact plain
    | cons part rest ih =>
        refine ih (fun name later => named name (List.mem_cons_of_mem part later)) _ ?_
        apply isPlain_follow plain
        rintro name rfl
        exact named name List.mem_cons_self
  exact followed .top fun name stored => absurd stored List.not_mem_nil

/-- Whatever its text says, an absolute path comes to plain names. -/
theorem isPlain_ofText (text : String) : (Path.ofText text).IsPlain := by
  rw [ofText_eq]
  exact isPlain_fold fun name => isPlainName_of_mem_components

end Following

end HtmlTemplate.File
