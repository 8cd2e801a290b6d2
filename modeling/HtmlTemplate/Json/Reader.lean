/-
# Reading JSON

A JSON text is read one character at a time. What has been read is a stack of containers
that are still open, and a mode that says what may come next. Strings, numbers and words
are modes of their own. At most a hundred and twenty-seven containers may be open at once.
-/

import HtmlTemplate.Json.Value
import HtmlTemplate.Data.OrderedMap

namespace HtmlTemplate.Json

/-- A container that is still open. -/
inductive Frame where
  /-- A list; the items read so far, the last one first. -/
  | array (items : List JsonValue)
  /-- An object between fields. -/
  | object (fields : List (String × JsonValue))
  /-- An object that waits for the value of a field. -/
  | field (fields : List (String × JsonValue)) (name : String)

/-- Where a string stands. -/
inductive StringMode where
  | plain
  | escape
  /-- In a numbered escape: the digits still to come, the number so far, and the first
  half of a surrogate pair, if this is the second. -/
  | number (missing value : Nat) (high : Option Nat)
  /-- After the first half of a surrogate pair. -/
  | afterHigh (high : Nat)
  /-- After the backslash that follows the first half of a surrogate pair. -/
  | afterHighEscape (high : Nat)
  deriving DecidableEq, Repr

/-- What may come next. -/
inductive Mode where
  | value
  | valueOrClose
  | name
  | nameOrClose
  | colon
  | commaOrClose
  /-- In a string, which is the name of a field or a value. -/
  | string (isName : Bool) (text : String) (mode : StringMode)
  /-- In a number; its characters, the last one first. -/
  | number (chars : List Char)
  /-- In a word; the characters still to come, and what the word stands for. -/
  | word (missing : List Char) (value : JsonValue)
  | finished (value : JsonValue)

/-- What has been read so far. -/
structure Reader where
  stack : List Frame
  mode : Mode

namespace Reader

/-- How many containers may be open at once. -/
def maxOpen : Nat := 127

/-- Nothing has been read. -/
def start : Reader := ⟨[], .value⟩

/-- Blank characters between the parts of a text. -/
def isBlank (c : Char) : Bool := c = ' ' || c = '\t' || c = '\n' || c = '\r'

/-- Characters that a number may consist of. -/
def isNumberChar (c : Char) : Bool :=
  c.isDigit || c = '-' || c = '+' || c = '.' || c = 'e' || c = 'E'

/-- Put a complete value where it belongs. -/
def complete (stack : List Frame) (value : JsonValue) : Option Reader :=
  match stack with
  | [] => some ⟨[], .finished value⟩
  | .array items :: rest => some ⟨.array (value :: items) :: rest, .commaOrClose⟩
  | .field fields name :: rest =>
      some ⟨.object (Data.setEntry name value fields) :: rest, .commaOrClose⟩
  | .object _ :: _ => none

/-- Put a complete string where it belongs. -/
def completeString (stack : List Frame) (isName : Bool) (text : String) : Option Reader :=
  if isName then
    match stack with
    | .object fields :: rest => some ⟨.field fields text :: rest, .colon⟩
    | _ => none
  else complete stack (.string text)

/-- Open a container, unless too many are open. -/
def openContainer (stack : List Frame) (frame : Frame) (mode : Mode) : Option Reader :=
  if stack.length < maxOpen then some ⟨frame :: stack, mode⟩ else none

/-- Close the innermost container. -/
def close (stack : List Frame) (c : Char) : Option Reader :=
  match stack, c with
  | .array items :: rest, ']' => complete rest (.array items.reverse)
  | .object fields :: rest, '\x7d' => complete rest (.object fields)
  | _, _ => none

/-- Begin a value. -/
def beginValue (stack : List Frame) (c : Char) : Option Reader :=
  if c = '"' then some ⟨stack, .string false "" .plain⟩
  else if c = '[' then openContainer stack (.array []) .valueOrClose
  else if c = '\x7b' then openContainer stack (.object []) .nameOrClose
  else if c = 'n' then some ⟨stack, .word ['u', 'l', 'l'] .null⟩
  else if c = 't' then some ⟨stack, .word ['r', 'u', 'e'] (.bool true)⟩
  else if c = 'f' then some ⟨stack, .word ['a', 'l', 's', 'e'] (.bool false)⟩
  else if c = '-' || c.isDigit then some ⟨stack, .number [c]⟩
  else none

/-- Read a character between the parts of a text. -/
def stepBetween (reader : Reader) (c : Char) : Option Reader :=
  if isBlank c then some reader
  else match reader.mode with
    | .value => beginValue reader.stack c
    | .valueOrClose => if c = ']' then close reader.stack c else beginValue reader.stack c
    | .name => if c = '"' then some ⟨reader.stack, .string true "" .plain⟩ else none
    | .nameOrClose =>
        if c = '"' then some ⟨reader.stack, .string true "" .plain⟩ else close reader.stack c
    | .colon => if c = ':' then some ⟨reader.stack, .value⟩ else none
    | .commaOrClose =>
        if c = ',' then
          match reader.stack with
          | .array _ :: _ => some ⟨reader.stack, .value⟩
          | .object _ :: _ => some ⟨reader.stack, .name⟩
          | _ => none
        else close reader.stack c
    | _ => none

/-- The character that a short escape stands for. -/
def shortEscape? : Char → Option Char
  | '"' => some '"'
  | '\\' => some '\\'
  | '/' => some '/'
  | 'b' => some '\x08'
  | 'f' => some '\x0c'
  | 'n' => some '\n'
  | 'r' => some '\r'
  | 't' => some '\t'
  | _ => none

/-- The value of a hexadecimal digit. -/
def hexValue? (c : Char) : Option Nat :=
  if '0' ≤ c ∧ c ≤ '9' then some (c.toNat - '0'.toNat)
  else if 'a' ≤ c ∧ c ≤ 'f' then some (c.toNat - 'a'.toNat + 10)
  else if 'A' ≤ c ∧ c ≤ 'F' then some (c.toNat - 'A'.toNat + 10)
  else none

/-- Whether a code unit is the first half of a surrogate pair. -/
def isHigh (unit : Nat) : Bool := 0xD800 ≤ unit && unit < 0xDC00

/-- Whether a code unit is the second half of a surrogate pair. -/
def isLow (unit : Nat) : Bool := 0xDC00 ≤ unit && unit < 0xE000

/-- Go on after a numbered escape. Halves of a pair may not stand alone. -/
def completeEscape (text : String) (unit : Nat) : Option Nat → Option (String × StringMode)
  | some high =>
      if isLow unit then
        some (text.push (Char.ofNat (0x10000 + (high - 0xD800) * 0x400 + (unit - 0xDC00))), .plain)
      else none
  | none =>
      if isLow unit then none
      else if isHigh unit then some (text, .afterHigh unit)
      else some (text.push (Char.ofNat unit), .plain)

/-- Read a character of a string other than its end. -/
def stepString (text : String) (c : Char) : StringMode → Option (String × StringMode)
  | .plain =>
      if c = '\\' then some (text, .escape)
      else if c.toNat < 0x20 then none
      else some (text.push c, .plain)
  | .escape =>
      if c = 'u' then some (text, .number 4 0 none)
      else (shortEscape? c).map fun escaped => (text.push escaped, .plain)
  | .number missing value high =>
      match hexValue? c with
      | none => none
      | some digit =>
          if missing ≤ 1 then completeEscape text (value * 16 + digit) high
          else some (text, .number (missing - 1) (value * 16 + digit) high)
  | .afterHigh high => if c = '\\' then some (text, .afterHighEscape high) else none
  | .afterHighEscape high => if c = 'u' then some (text, .number 4 0 (some high)) else none

/-- Read one character. A character that ends a number is read once more behind it. -/
def step (reader : Reader) (c : Char) : Option Reader :=
  match reader.mode with
  | .string isName text mode =>
      if c = '"' && mode = .plain then completeString reader.stack isName text
      else (stepString text c mode).map fun next =>
        ⟨reader.stack, .string isName next.1 next.2⟩
  | .number chars =>
      if isNumberChar c then some ⟨reader.stack, .number (c :: chars)⟩
      else do
        let number ← readNumber? chars.reverse
        let behind ← complete reader.stack (.number number)
        behind.stepBetween c
  | .word missing value =>
      match missing with
      | [last] => if c = last then complete reader.stack value else none
      | next :: rest => if c = next then some ⟨reader.stack, .word rest value⟩ else none
      | [] => none
  | _ => reader.stepBetween c

/-- The value of a text that has been read to its end. -/
def result? (reader : Reader) : Option JsonValue :=
  match reader.stack, reader.mode with
  | [], .finished value => some value
  | [], .number chars => (readNumber? chars.reverse).map .number
  | _, _ => none

end Reader

/-- The value that a text denotes, if it is JSON. -/
def read? (text : String) : Option JsonValue := do
  let reader ← text.toList.foldlM Reader.step .start
  reader.result?

end HtmlTemplate.Json
