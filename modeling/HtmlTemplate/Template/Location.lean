/-
# Places in a source

A location names a file and a place in it. Lines and columns count from one, and columns
count graphemes, so a location is what an editor would show for the same place.
-/

import HtmlTemplate.Text.Grapheme

namespace HtmlTemplate.Template

open Text

/-- A place in a template source. -/
structure Location where
  file : String
  line : Nat
  column : Nat
  line_pos : 0 < line := by omega
  column_pos : 0 < column := by omega
  deriving DecidableEq, Repr

namespace Location

/-- The place with the given numbers, where zero counts as one. -/
def clamped (file : String) (line column : Nat) : Location where
  file := file
  line := max line 1
  column := max column 1

/-- The beginning of a file. -/
def start (file : String) : Location where
  file := file
  line := 1
  column := 1

/-- The next column of the same line. -/
def nextColumn (location : Location) : Location :=
  { location with column := location.column + 1, column_pos := by omega }

/-- The beginning of the next line. -/
def nextLine (location : Location) : Location where
  file := location.file
  line := location.line + 1
  column := 1

/-- The place after a grapheme. -/
def after (location : Location) (g : Grapheme) : Location :=
  if g.isNewline then location.nextLine else location.nextColumn

/-- The place after several graphemes. -/
def afterAll (location : Location) (gs : List Grapheme) : Location :=
  gs.foldl after location

/-- File, line and column, as diagnostics show them. -/
def display (location : Location) : String :=
  s!"{location.file}:{location.line}:{location.column}"

end Location

end HtmlTemplate.Template
