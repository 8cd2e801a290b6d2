/-
# Places are counted

A location is moved along grapheme by grapheme while a source is read. Where it stands can
be told from what was read: each newline begins a line, and the graphemes behind the last
newline are the columns that are taken.
-/

import Mathlib.Data.List.DropRight
import HtmlTemplate.Template.Location

namespace HtmlTemplate.Template.Location

open Text

/-- The place behind the graphemes that were read from the beginning of a file. -/
def behind (file : String) (read : List Grapheme) : Location where
  file := file
  line := 1 + read.countP Grapheme.isNewline
  column := 1 + (read.rtakeWhile fun g => !g.isNewline).length

@[simp] theorem afterAll_nil (here : Location) : here.afterAll [] = here := rfl

@[simp] theorem afterAll_cons (here : Location) (g : Grapheme) (rest : List Grapheme) :
    here.afterAll (g :: rest) = (here.after g).afterAll rest := rfl

@[simp] theorem afterAll_append (here : Location) (first second : List Grapheme) :
    here.afterAll (first ++ second) = (here.afterAll first).afterAll second :=
  List.foldl_append

/-- Moving along the graphemes that were read leads to the place behind them. -/
theorem afterAll_start (file : String) (read : List Grapheme) :
    (start file).afterAll read = behind file read := by
  induction read using List.reverseRecOn with
  | nil => rfl
  | append_singleton earlier g ih =>
      rw [afterAll_append, ih, afterAll_cons, afterAll_nil, after]
      by_cases newline : g.isNewline = true
      · simp [newline, nextLine, behind, List.rtakeWhile_concat_neg, Nat.add_assoc]
      · simp [newline, nextColumn, behind, List.rtakeWhile_concat_pos, Nat.add_assoc]

/-- Moving on from a place behind what was read is reading on. -/
@[simp] theorem afterAll_behind (file : String) (read gs : List Grapheme) :
    (behind file read).afterAll gs = behind file (read ++ gs) := by
  rw [← afterAll_start, ← afterAll_start, afterAll_append]

/-- The place after the next grapheme is the one behind it. -/
@[simp] theorem after_behind (file : String) (read : List Grapheme) (g : Grapheme) :
    (behind file read).after g = behind file (read ++ [g]) :=
  afterAll_behind file read [g]

/-- The first place comes before the second one: on an earlier line, or in an earlier column of the
same line. -/
def Precedes (first second : Location) : Prop :=
  first.line < second.line ∨ first.line = second.line ∧ first.column < second.column

theorem Precedes.trans {first second third : Location} (earlier : first.Precedes second)
    (later : second.Precedes third) : first.Precedes third := by
  unfold Precedes at *
  omega

/-- A grapheme is followed by a later place, whether or not it ends its line. -/
theorem precedes_after (here : Location) (g : Grapheme) : here.Precedes (here.after g) := by
  rw [after]
  split
  · exact Or.inl (Nat.lt_succ_self here.line)
  · exact Or.inr ⟨rfl, Nat.lt_succ_self here.column⟩

/-- Reading on leads to a later place. -/
theorem precedes_behind_append (file : String) (read : List Grapheme) {gs : List Grapheme}
    (filled : gs ≠ []) : (behind file read).Precedes (behind file (read ++ gs)) := by
  induction gs using List.reverseRecOn with
  | nil => exact absurd rfl filled
  | append_singleton earlier g ih =>
      rw [← List.append_assoc, ← after_behind]
      by_cases first : earlier = []
      · rw [first, List.append_nil]
        exact precedes_after _ g
      · exact (ih first).trans (precedes_after _ g)

end HtmlTemplate.Template.Location
