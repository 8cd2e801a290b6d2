/-
# Reading a template source

Everything in a source is literal markup except what follows the sign `@`. Doubled, or at
the very end, the sign stands for itself; before the start of a name it introduces a
variable, whose name is the longest run of identifier graphemes; before anything else it
is an error. A literal runs on across doubled signs and ends only where a variable begins.
-/

import HtmlTemplate.Template.Token
import HtmlTemplate.Template.SyntaxError

namespace HtmlTemplate.Template

open Text

/-- Literal markup that has been read and is still growing. -/
structure Literal where
  text : String
  start : Location
  deriving DecidableEq, Repr

namespace Literal

/-- The literal that may begin at a place. -/
def startingAt (location : Location) : Literal := ⟨"", location⟩

/-- The literal with one more grapheme. -/
def push (literal : Literal) (g : Grapheme) : Literal :=
  { literal with text := literal.text ++ g.text }

/-- The token of a finished literal; an empty one leaves none. -/
def tokens (literal : Literal) : List Token :=
  if literal.text = "" then [] else [.html literal.text literal.start]

end Literal

/-- The text of several graphemes. -/
def joinText (gs : List Grapheme) : String :=
  gs.foldl (fun text g => text ++ g.text) ""

/-- The longest run of identifier graphemes. -/
def nameRun (gs : List Grapheme) : List Grapheme :=
  gs.takeWhile Grapheme.isIdentifierPart

/-- What follows the longest run of identifier graphemes. -/
def afterName (gs : List Grapheme) : List Grapheme :=
  gs.dropWhile Grapheme.isIdentifierPart

/-- Reading a name leaves no more than there was. -/
theorem length_afterName_le (gs : List Grapheme) : (afterName gs).length ≤ gs.length := by
  simpa [afterName] using (List.dropWhile_sublist (p := Grapheme.isIdentifierPart)).length_le

/-- Tokens of the unread graphemes, which begin at `here`, after the open literal. -/
def tokensFrom (here : Location) (literal : Literal) :
    List Grapheme → Except SyntaxError (List Token)
  | [] => .ok literal.tokens
  | g :: rest =>
      if g = .atSign then
        match rest with
        | [] => .ok (literal.push .atSign).tokens
        | next :: others =>
            if next = .atSign then
              tokensFrom ((here.after g).after next) (literal.push .atSign) others
            else if next.isIdentifierStart then
              let name := nameRun (next :: others)
              let behind := (here.after g).afterAll name
              match tokensFrom behind (.startingAt behind) (afterName (next :: others)) with
              | .ok tokens => .ok (literal.tokens ++ .var (joinText name) here :: tokens)
              | .error error => .error error
            else .error (.invalidEscape next.text here)
      else tokensFrom (here.after g) (literal.push g) rest
termination_by gs => gs.length
decreasing_by
  · simp only [List.length_cons]; omega
  · exact Nat.lt_succ_of_le (length_afterName_le (next :: others))
  · exact Nat.lt_succ_self rest.length

/-- Read a source that is known by the name of its file. -/
def tokenize (file source : String) : Except SyntaxError (List Token) :=
  tokensFrom (.start file) (.startingAt (.start file)) (graphemes source)

end HtmlTemplate.Template
