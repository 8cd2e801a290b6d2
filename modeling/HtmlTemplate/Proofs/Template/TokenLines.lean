/-
# Printed tokens are read back

A line for a token says the place of the token, its kind and its quoted text. The name of the
file stands first and as it is, so it may hold anything, even what looks like the end of the
line. Whoever asks for the tokens knows the name, though, and the rest of a line is plain:
numbers, a word and a quoted text. So the lines are found by passing over as many characters
as the name has before looking for a line feed, and what a line says is read behind the name.
-/

import HtmlTemplate.Proofs.Template.Listing

namespace HtmlTemplate.Template

open Text

/-- The closed lines of a text in which every line begins with a mark of some length, whatever
characters the mark has. In the line under way `ahead` characters of the mark are still to come,
and `line` is what was read of it. -/
def linesFrom (length : Nat) : (ahead : Nat) → (line : List Char) → List Char → List String
  | _, _, [] => []
  | ahead + 1, line, c :: rest => linesFrom length ahead (line ++ [c]) rest
  | 0, line, c :: rest =>
      if c = '\n' then String.ofList line :: linesFrom length length [] rest
      else linesFrom length 0 (line ++ [c]) rest

/-- The closed lines of a text in which every line begins with the same mark. -/
def markedLines (mark text : String) : List String :=
  linesFrom mark.toList.length mark.toList.length [] text.toList

/-- What stands before the place of a token in its line. -/
def fileMark (file : String) : String := file ++ ":"

/-- The kind of token that a word stands for. -/
def readKind? (word : List Char) : Option TokenKind :=
  if word = "html".toList then some .html
  else if word = "var".toList then some .var
  else none

/-- The token of a file that a line says: its line and its column behind the name of the file,
then its kind, and its text in quotes. -/
def readToken? (file line : String) : Option Token :=
  if (fileMark file).toList <+: line.toList then
    let row := cutAt ':' (line.toList.drop (fileMark file).toList.length)
    let column := cutAt ' ' row.2
    let kind := cutAt ' ' column.2
    match readKind? kind.1, Quoted.unquote? kind.2 with
    | some read, some (text, []) =>
        some ⟨read, String.ofList text,
          .clamped file (Nat.ofDigitChars 10 row.1 0) (Nat.ofDigitChars 10 column.1 0)⟩
    | _, _ => none
  else none

section Lines

variable (length : Nat) (line rest : List Char)

/-- The mark is passed over, whatever it is. -/
theorem linesFrom_mark (mark : List Char) :
    linesFrom length mark.length line (mark ++ rest) = linesFrom length 0 (line ++ mark) rest := by
  induction mark generalizing line with
  | nil => simp
  | cons c others ih =>
      rw [List.length_cons, List.cons_append, linesFrom, ih, List.append_assoc,
        List.singleton_append]

/-- Behind the mark a line goes on up to the next line feed. -/
theorem linesFrom_body {body : List Char} (single : '\n' ∉ body) :
    linesFrom length 0 line (body ++ '\n' :: rest) =
      String.ofList (line ++ body) :: linesFrom length length [] rest := by
  induction body generalizing line with
  | nil => simp [linesFrom]
  | cons c others ih =>
      obtain ⟨ordinary, later⟩ : '\n' ≠ c ∧ '\n' ∉ others := by simpa using single
      rw [List.cons_append, linesFrom, if_neg ordinary.symm, ih _ later, List.append_assoc,
        List.singleton_append]

end Lines

/-- Lines that begin with the mark and are not broken behind it are found again. -/
theorem markedLines_closeLines {mark : String} {lines : List String}
    (marked : ∀ line ∈ lines, ∃ body, line.toList = mark.toList ++ body ∧ '\n' ∉ body) :
    markedLines mark (closeLines lines) = lines := by
  rw [markedLines, toList_closeLines]
  induction lines with
  | nil => rfl
  | cons line others ih =>
      obtain ⟨⟨body, begins, single⟩, later⟩ := List.forall_mem_cons.mp marked
      rw [List.flatMap_cons, begins, List.append_assoc, List.append_assoc,
        List.singleton_append, linesFrom_mark, linesFrom_body _ _ _ single, ih later,
        List.nil_append, ← begins, String.ofList_toList]

/-- The name of a file may look like the end of a line. -/
example : markedLines (fileMark "a\nb") "a\nb:1:1 html \"x\"\na\nb:1:2 var \"y\"\n" =
    ["a\nb:1:1 html \"x\"", "a\nb:1:2 var \"y\""] := by
  decide

section Tokens

/-- The word for a kind has no space and no line feed, and is read as the kind. -/
theorem readKind?_name (kind : TokenKind) :
    ' ' ∉ kind.name.toList ∧ '\n' ∉ kind.name.toList ∧
      readKind? kind.name.toList = some kind := by
  cases kind with
  | html => decide
  | var => decide

/-- The characters of the line for a token. -/
theorem Token.toList_display (token : Token) :
    token.display.toList = (fileMark token.location.file).toList ++
      (Nat.toDigits 10 token.location.line ++ ':' ::
        (Nat.toDigits 10 token.location.column ++ ' ' ::
          (token.kind.name.toList ++ ' ' :: (Quoted.quote token.text).toList))) := by
  have display : token.display = fileMark token.location.file ++ token.location.line.repr ++ ":" ++
      token.location.column.repr ++ " " ++ token.kind.name ++ " " ++ Quoted.quote token.text := rfl
  simp [display]

/-- Behind the name of the file nothing breaks the line for a token. -/
theorem Token.exists_unbroken_display (token : Token) :
    ∃ body, token.display.toList = (fileMark token.location.file).toList ++ body ∧
      '\n' ∉ body := by
  refine ⟨_, token.toList_display, ?_⟩
  have number := notMem_toDigits_ten (c := '\n') (by decide)
  have kind := (readKind?_name token.kind).2.1
  have text := Quoted.lineFeed_notMem_quote token.text
  simp [number, kind, text]

/-- What the line for a token says is read back, whatever the token and its file are. -/
theorem readToken?_display (token : Token) :
    readToken? token.location.file token.display = some token := by
  obtain ⟨word, _, kind⟩ := readKind?_name token.kind
  have row := cutAt_append (notMem_toDigits_ten (c := ':') (by decide) token.location.line)
  have column := cutAt_append (notMem_toDigits_ten (c := ' ') (by decide) token.location.column)
  have text : Quoted.unquote? (Quoted.quote token.text).toList = some (token.text.toList, []) := by
    simpa using Quoted.unquote?_quote token.text []
  have place : Location.clamped token.location.file token.location.line token.location.column =
      token.location := by
    simp [Location.clamped, Nat.max_eq_left token.location.line_pos,
      Nat.max_eq_left token.location.column_pos]
  rw [readToken?, token.toList_display, if_pos (List.prefix_append _ _), List.drop_left]
  simp only [row, column, cutAt_append word, kind, text, Nat.ofDigitChars_ten_toDigits, place,
    String.ofList_toList]

end Tokens

end HtmlTemplate.Template
