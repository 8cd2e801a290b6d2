/-
# Cluster break classes

The class of a character decides how it attaches to its neighbours. The classes are the
values of `Grapheme_Cluster_Break`, refined where a rule of segmentation asks for more:
pictographs and the consonants of Indic conjuncts are told apart from other characters,
and so are the extenders that link two consonants or that no conjunct may contain.
-/

import HtmlTemplate.Text.Property

namespace HtmlTemplate.Text

/-- How a character takes part in grapheme clusters. -/
inductive BreakClass where
  | carriageReturn
  | lineFeed
  | control
  | extender
  | linker
  | nonJoiner
  | joiner
  | spacingMark
  | prependedMark
  | regionalIndicator
  | leadingJamo
  | vowelJamo
  | trailingJamo
  | openSyllable
  | closedSyllable
  | pictographic
  | consonant
  | other
  deriving DecidableEq, Repr

namespace BreakClass

/-- The Hangul classes. Composed syllables come in groups of twenty-eight, the first of
which has no final consonant. The vowel signs of Kirat Rai behave like vowel letters. -/
def ofHangul? (code : Nat) : Option BreakClass :=
  if 0x1100 ≤ code ∧ code < 0x1160 ∨ 0xA960 ≤ code ∧ code < 0xA97D then some .leadingJamo
  else if 0x1160 ≤ code ∧ code < 0x11A8 ∨ 0xD7B0 ≤ code ∧ code < 0xD7C7 ∨ code = 0x16D63 ∨
      0x16D67 ≤ code ∧ code < 0x16D6B then some .vowelJamo
  else if 0x11A8 ≤ code ∧ code < 0x1200 ∨ 0xD7CB ≤ code ∧ code < 0xD7FC then some .trailingJamo
  else if 0xAC00 ≤ code ∧ code < 0xD7A4 then
    some (if (code - 0xAC00) % 28 = 0 then .openSyllable else .closedSyllable)
  else none

/-- Skin tones extend the pictograph before them. -/
def isSkinTone (code : Nat) : Bool := 0x1F3FB ≤ code && code < 0x1F400

/-- Letters that spell the code of a flag in pairs. -/
def isRegionalIndicator (code : Nat) : Bool := 0x1F1E6 ≤ code && code < 0x1F200

/-- The class of a character. The sets consulted here do not overlap, except that every
linker and the non-joiner are extenders too. -/
def ofChar (c : Char) : BreakClass :=
  if c = '\r' then .carriageReturn
  else if c = '\n' then .lineFeed
  else if c = '\u200c' then .nonJoiner
  else if c = '\u200d' then .joiner
  else match ofHangul? c.toNat with
    | some hangul => hangul
    | none =>
        if isRegionalIndicator c.toNat then .regionalIndicator
        else if Property.control.contains c then .control
        else if Property.conjunctLinker.contains c then .linker
        else if isSkinTone c.toNat || Property.graphemeExtend.contains c then .extender
        else if Property.spacingMark.contains c then .spacingMark
        else if Property.prependedMark.contains c then .prependedMark
        else if Property.pictographic.contains c then .pictographic
        else if Property.conjunctConsonant.contains c then .consonant
        else .other

/-- Extenders of every kind: they attach to what precedes them. -/
def isExtender (k : BreakClass) : Bool :=
  k = .extender || k = .linker || k = .nonJoiner

end BreakClass

end HtmlTemplate.Text
