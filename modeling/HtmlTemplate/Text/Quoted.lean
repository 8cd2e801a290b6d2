/-
# Quoted text

Diagnostics and listings show text so that every character can be seen. Common controls
and the quoting characters get a backslash, and whatever has no visible form of its own is
spelled by its number. The number is written between braces, so no escape runs into the
text after it.
-/

import HtmlTemplate.Text.Property

namespace HtmlTemplate.Text.Quoted

/-- What has to be escaped beyond controls, backslashes and invisible characters. -/
structure Style where
  doubleQuote : Bool
  singleQuote : Bool
  /-- Spell out combining marks, which would attach to the sign before them. -/
  marks : Bool

/-- Inside double quotes a single quote may stand as it is. -/
def insideQuotes : Style := ⟨true, false, true⟩

/-- At the start of a bare text every quote and every mark is escaped. -/
def bareStart : Style := ⟨true, true, true⟩

/-- Further on, a mark has something to attach to. -/
def bareRest : Style := ⟨true, true, false⟩

/-- A character spelled by its number, in lower-case hexadecimal without leading zeros. -/
def numbered (c : Char) : List Char :=
  ['\\', 'u', '\x7b'] ++ Nat.toDigits 16 c.toNat ++ ['\x7d']

/-- The halfwidth sound marks of Japanese. They belong to the character before them, but are
letters with a width of their own. -/
def isHalfwidthSoundMark (c : Char) : Bool := c = '\uff9e' || c = '\uff9f'

/-- Whether a character is a mark on the one before it: an extender that is no letter. -/
def isCombining (c : Char) : Bool :=
  Property.graphemeExtend.contains c && !isHalfwidthSoundMark c

/-- The spelling of one character. -/
def escapeChar (style : Style) (c : Char) : List Char :=
  if c = '\x00' then ['\\', '0']
  else if c = '\t' then ['\\', 't']
  else if c = '\r' then ['\\', 'r']
  else if c = '\n' then ['\\', 'n']
  else if c = '\\' then ['\\', '\\']
  else if c = '"' && style.doubleQuote then ['\\', '"']
  else if c = '\'' && style.singleQuote then ['\\', '\'']
  else if style.marks && isCombining c then numbered c
  else if Property.unprintable.contains c then numbered c
  else [c]

/-- The characters of a quoted text, without the quotes around it. -/
def body (chars : List Char) : List Char :=
  chars.flatMap (escapeChar insideQuotes)

/-- A text between double quotes, with every character visible. -/
def quote (text : String) : String :=
  String.ofList ('"' :: body text.toList ++ ['"'])

/-- The characters of a text shown without quotes of its own. -/
def bareChars : List Char → List Char
  | [] => []
  | c :: rest => escapeChar bareStart c ++ rest.flatMap (escapeChar bareRest)

/-- A text with every character visible, to be placed between quotes by its reader. -/
def bare (text : String) : String :=
  String.ofList (bareChars text.toList)

end HtmlTemplate.Text.Quoted
