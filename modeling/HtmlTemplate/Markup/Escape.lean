/-
# Escaping text for markup

Five characters have a meaning in markup and are written as entities. The entities are all
the reader has to know: `entity?` lists them once, and escaping a text replaces them
character by character. The scan that runs goes over the bytes instead. All five
characters are single bytes that occur inside no longer character, so it copies the
stretches between them whole.
-/

namespace HtmlTemplate.Markup

/-- The entity that stands for a reserved character. -/
def entity? : Char → Option String
  | '&' => some "&amp;"
  | '<' => some "&lt;"
  | '>' => some "&gt;"
  | '"' => some "&quot;"
  | '\'' => some "&#39;"
  | _ => none

/-- The escaped form of one character. -/
def escapeChar (c : Char) : List Char :=
  match entity? c with
  | some entity => entity.toList
  | none => [c]

/-- The escaped form of a text, character by character. -/
def escapeChars (chars : List Char) : List Char :=
  chars.flatMap escapeChar

/-- A part of an escaped text: a stretch of the input between two byte offsets, or the
entity written for the byte after it. -/
inductive Piece where
  | stretch (start stop : Nat)
  | entity (text : String)
  deriving DecidableEq, Repr

namespace Piece

/-- The text that a piece contributes. -/
def text (input : String) : Piece → String
  | .stretch start stop => String.Pos.Raw.extract input ⟨start⟩ ⟨stop⟩
  | .entity written => written

end Piece

/-- The pieces of the bytes from `offset` on, when everything from `cursor` up to `offset`
is still to be copied. -/
def piecesFrom (cursor offset : Nat) : List UInt8 → List Piece
  | [] => [.stretch cursor offset]
  | byte :: rest =>
      match entity? (Char.ofUInt8 byte) with
      | some entity =>
          .stretch cursor offset :: .entity entity :: piecesFrom (offset + 1) (offset + 1) rest
      | none => piecesFrom cursor (offset + 1) rest

/-- The pieces of a whole text. -/
def pieces (input : String) : List Piece :=
  piecesFrom 0 0 input.toUTF8.toList

/-- An escaped text. Text without reserved characters is passed on as it is. -/
inductive Escaped where
  | unchanged (text : String)
  | changed (text : String)
  deriving DecidableEq, Repr

namespace Escaped

/-- The escaped text itself. -/
def text : Escaped → String
  | .unchanged text => text
  | .changed text => text

/-- Whether the input had nothing to escape. -/
def isUnchanged : Escaped → Bool
  | .unchanged _ => true
  | .changed _ => false

end Escaped

/-- Escape a text in one pass over its bytes. -/
def escape (input : String) : Escaped :=
  match pieces input with
  | [] | [_] => .unchanged input
  | parts => .changed (parts.foldl (fun out piece => out ++ piece.text input) "")

/-- Append the escaped form of a text to what has been written. -/
def pushEscaped (out input : String) : String :=
  out ++ (escape input).text

end HtmlTemplate.Markup
