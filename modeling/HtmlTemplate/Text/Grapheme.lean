/-
# Graphemes

Text is read one user-perceived character at a time: an extended grapheme cluster, so that
a letter with its accents, a flag or an emoji made of several parts is never split. The
clusters are found from left to right. What the characters of the open cluster say about
the next one is kept as a small context, and the context starts afresh with each cluster.
-/

import HtmlTemplate.Text.BreakClass
import HtmlTemplate.Text.Property
import HtmlTemplate.Text.Quoted

namespace HtmlTemplate.Text

/-- How far the end of a cluster has come towards joining two pictographs. -/
inductive EmojiLink where
  | none
  | pictograph
  | joined
  deriving DecidableEq, Repr

/-- How far the end of a cluster has come towards joining two consonants. -/
inductive ConjunctLink where
  | none
  | consonant
  | linked
  deriving DecidableEq, Repr

/-- What the open cluster says about the next character. -/
structure ClusterContext where
  last : BreakClass
  /-- The cluster ends in a regional indicator that still lacks its partner. -/
  unpairedIndicator : Bool
  emoji : EmojiLink
  conjunct : ConjunctLink
  deriving DecidableEq, Repr

namespace ClusterContext

/-- The context after the first character of a cluster. -/
def start (k : BreakClass) : ClusterContext where
  last := k
  unpairedIndicator := k = .regionalIndicator
  emoji := if k = .pictographic then .pictograph else .none
  conjunct := if k = .consonant then .consonant else .none

/-- The context after one more character of the same cluster. -/
def push (context : ClusterContext) (k : BreakClass) : ClusterContext where
  last := k
  unpairedIndicator := k = .regionalIndicator && !context.unpairedIndicator
  emoji :=
    if k = .pictographic then .pictograph
    else if context.emoji = .pictograph then
      if k.isExtender then .pictograph else if k = .joiner then .joined else .none
    else .none
  conjunct :=
    if k = .consonant then .consonant
    else if k = .linker then if context.conjunct = .none then .none else .linked
    else if k = .extender ∨ k = .joiner then context.conjunct
    else .none

/-- Whether a character of the given class continues the cluster. The cases stand in the
order of precedence of the segmentation rules. -/
def joins (context : ClusterContext) (next : BreakClass) : Bool :=
  match context.last, next with
  | .carriageReturn, .lineFeed => true
  | .control, _ | .carriageReturn, _ | .lineFeed, _ => false
  | _, .control | _, .carriageReturn | _, .lineFeed => false
  | .leadingJamo, .leadingJamo | .leadingJamo, .vowelJamo => true
  | .leadingJamo, .openSyllable | .leadingJamo, .closedSyllable => true
  | .openSyllable, .vowelJamo | .openSyllable, .trailingJamo => true
  | .vowelJamo, .vowelJamo | .vowelJamo, .trailingJamo => true
  | .closedSyllable, .trailingJamo | .trailingJamo, .trailingJamo => true
  | _, .extender | _, .linker | _, .nonJoiner | _, .joiner => true
  | _, .spacingMark => true
  | .prependedMark, _ => true
  | _, .consonant => context.conjunct = .linked
  | _, .pictographic => context.emoji = .joined
  | .regionalIndicator, .regionalIndicator => context.unpairedIndicator
  | _, _ => false

end ClusterContext

/-- The clusters of the text that begins with the open cluster, given in reverse. -/
def clustersFrom (context : ClusterContext) (openCluster : List Char) :
    List Char → List (List Char)
  | [] => [openCluster.reverse]
  | c :: rest =>
      let k := BreakClass.ofChar c
      if context.joins k then clustersFrom (context.push k) (c :: openCluster) rest
      else openCluster.reverse :: clustersFrom (.start k) [c] rest

/-- Cut a text into its grapheme clusters. -/
def clusters : List Char → List (List Char)
  | [] => []
  | c :: rest => clustersFrom (.start (BreakClass.ofChar c)) [c] rest

/-- One user-perceived character. -/
structure Grapheme where
  chars : List Char
  deriving DecidableEq, Repr, Inhabited

/-- A text that is not exactly one grapheme was given where one was needed. -/
structure GraphemeError where
  text : String
  count : Nat
  deriving DecidableEq, Repr

namespace GraphemeError

/-- What the error says to its reader. -/
def message (error : GraphemeError) : String :=
  s!"expected a single grapheme, found {error.count} in {Quoted.quote error.text}"

end GraphemeError

/-- The graphemes of a text, in order. -/
def graphemes (text : String) : List Grapheme :=
  (clusters text.toList).map Grapheme.mk

/-- Whether a text is exactly one grapheme. -/
def isSingleGrapheme (text : String) : Bool :=
  (graphemes text).length = 1

namespace Grapheme

/-- The grapheme that a text consists of. -/
def ofText (text : String) : Except GraphemeError Grapheme :=
  match graphemes text with
  | [g] => .ok g
  | pieces => .error ⟨text, pieces.length⟩

/-- The grapheme as text. -/
def text (g : Grapheme) : String := String.ofList g.chars

/-- The sign that introduces variables and escapes. -/
def atSign : Grapheme := ⟨['@']⟩

/-- The underscore, which names may use like a letter. -/
def underscore : Grapheme := ⟨['_']⟩

/-- Whether any character of the grapheme is white space. -/
def isWhitespace (g : Grapheme) : Bool := g.chars.any Property.whiteSpace.contains

/-- Whether any character of the grapheme is a letter. -/
def isLetter (g : Grapheme) : Bool := g.chars.any Property.letter.contains

/-- Whether any character of the grapheme is a decimal digit. -/
def isDigit (g : Grapheme) : Bool := g.chars.any Property.decimalDigit.contains

/-- A letter or a digit, which a grapheme may be at once. -/
def isAlphanumeric (g : Grapheme) : Bool := g.isLetter || g.isDigit

/-- A line ends with a line feed, a carriage return, or the two as one grapheme. -/
def isNewline (g : Grapheme) : Bool :=
  g.chars = ['\n'] || g.chars = ['\r'] || g.chars = ['\r', '\n']

/-- Names begin with a letter or an underscore. -/
def isIdentifierStart (g : Grapheme) : Bool := g.isLetter || g = underscore

/-- Names go on with letters, digits and underscores. -/
def isIdentifierPart (g : Grapheme) : Bool := g.isIdentifierStart || g.isDigit

end Grapheme

end HtmlTemplate.Text
