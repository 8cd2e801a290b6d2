/-
# Escaping what a value shows

A value is shown first and escaped afterwards, as one text. Nothing but the strings in it
and the names of its fields can need escaping: the brackets and separators are not reserved,
and neither is any character that a number is written with. So it makes no difference when
the strings and names are escaped one by one, and the value is shown then.

How a value is laid out is said here once more, sign by sign, over any texts for its strings
and names. A value is shown with these texts as they are, and escaping puts the escaped texts
in their places and touches no other sign.
-/

import HtmlTemplate.Value.Basic
import HtmlTemplate.Proofs.Markup.Scan

namespace HtmlTemplate

namespace Decimal

/-- The characters that numbers and their names are written with. -/
def isNumeral (c : Char) : Bool := c.isAlphanum || c = '.' || c = '+' || c = '-'

/-- A decimal digit is one of them. -/
theorem isNumeral_of_mem_toDigits {n : Nat} {c : Char} (digit : c ∈ Nat.toDigits 10 n) :
    isNumeral c = true := by
  have isDigit : c.isDigit = true :=
    Nat.isDigit_of_mem_toDigits (by decide) (by decide) digit
  simp [isNumeral, Char.isAlphanum, isDigit]

/-- Zeros that fill up a number are digits. -/
theorem isNumeral_of_mem_zeros {n : Nat} {c : Char} (zero : c ∈ List.replicate n '0') :
    isNumeral c = true := by
  rw [List.eq_of_mem_replicate zero]
  decide

/-- Positional form has digits, zeros and a point. -/
theorem isNumeral_of_mem_positional {x : Scientific} {c : Char} (written : c ∈ x.positional) :
    isNumeral c = true := by
  rw [Scientific.positional] at written
  split at written
  · rcases List.mem_append.mp written with digit | zero
    · exact isNumeral_of_mem_toDigits digit
    · exact isNumeral_of_mem_zeros zero
  · dsimp only at written
    split at written
    · rcases List.mem_append.mp written with whole | fraction
      · exact isNumeral_of_mem_toDigits (List.mem_of_mem_take whole)
      · rcases List.mem_cons.mp fraction with rfl | digit
        · decide
        · exact isNumeral_of_mem_toDigits (List.mem_of_mem_drop digit)
    · rcases List.mem_append.mp written with filled | digit
      · rcases List.mem_append.mp filled with point | zero
        · simp only [List.mem_cons, List.not_mem_nil, or_false] at point
          rcases point with rfl | rfl <;> decide
        · exact isNumeral_of_mem_zeros zero
      · exact isNumeral_of_mem_toDigits digit

/-- Exponential form has digits, a point, the letter and a sign. -/
theorem isNumeral_of_mem_exponential {x : Scientific} {c : Char} (written : c ∈ x.exponential) :
    isNumeral c = true := by
  have ofDigits (front : c ∈ x.digitChars) : isNumeral c = true :=
    isNumeral_of_mem_toDigits front
  rw [Scientific.exponential] at written
  rcases List.mem_append.mp written with mantissa | exponent
  · split at mantissa
    · cases mantissa
    · rename_i single
      exact ofDigits (by rwa [single])
    · rename_i digit others _ several
      rw [several] at ofDigits
      rcases List.mem_cons.mp mantissa with rfl | behind
      · exact ofDigits List.mem_cons_self
      · rcases List.mem_cons.mp behind with rfl | later
        · decide
        · exact ofDigits (List.mem_cons_of_mem digit later)
  · rcases List.mem_cons.mp exponent with rfl | signed
    · decide
    · rcases List.mem_cons.mp signed with rfl | digit
      · split <;> decide
      · exact isNumeral_of_mem_toDigits digit

/-- Whatever double is written, its text has such characters only. -/
theorem isNumeral_of_mem_formatNumber {x : Float} {c : Char}
    (written : c ∈ (formatNumber x).toList) : isNumeral c = true := by
  have name (text : String) (spelled : text.toList.all isNumeral = true) :
      c ∈ text.toList → isNumeral c = true := List.all_eq_true.mp spelled c
  have sign {negative : Bool} : c ∈ (if negative then ['-'] else []) → isNumeral c = true := by
    cases negative with
    | false => exact fun none => absurd none List.not_mem_nil
    | true =>
        intro minus
        rw [List.mem_singleton.mp minus]
        decide
  rw [formatNumber, Layout.format, String.toList_ofList] at written
  cases taken : Binary64.ofFloat x with
  | nan =>
      rw [taken] at written
      exact name "NaN" (by decide) written
  | infinite negative =>
      rw [taken] at written
      rcases List.mem_append.mp written with minus | word
      · exact sign minus
      · exact name "Infinity" (by decide) word
  | finite negative magnitude =>
      rw [taken, Layout.chars] at written
      split at written
      · exact name "0" (by decide) written
      · rcases List.mem_append.mp written with minus | digits
        · exact sign minus
        · rw [Layout.magnitude] at digits
          split at digits
          · exact isNumeral_of_mem_positional digits
          · exact isNumeral_of_mem_exponential digits

end Decimal

namespace Markup

/-- No character of a number is reserved. -/
theorem entity?_eq_none_of_isNumeral {c : Char} (numeral : Decimal.isNumeral c = true) :
    entity? c = none := by
  rw [entity?_eq_none_iff]
  intro isReserved
  have apart : reserved.all (fun sign => !Decimal.isNumeral sign) = true := by decide
  have other := List.all_eq_true.mp apart c isReserved
  rw [numeral] at other
  cases other

/-- Whether there is nothing to escape in a text. -/
def isOrdinary (text : String) : Bool := text.toList.all fun c => (entity? c).isNone

theorem isOrdinary_iff {text : String} :
    isOrdinary text = true ↔ ∀ c ∈ text.toList, entity? c = none := by
  simp [isOrdinary]

/-- A text with nothing to escape is passed on. -/
theorem escape_eq_unchanged {text : String} (ordinary : isOrdinary text = true) :
    escape text = .unchanged text := by
  rcases escape_cases text with ⟨_, passed⟩ | ⟨extraordinary, _⟩
  · exact passed
  · exact absurd (isOrdinary_iff.mp ordinary) extraordinary

/-- The escaped form of a text. -/
def escapeText (text : String) : String := (escape text).text

theorem escapeText_eq_self (text : String) (ordinary : isOrdinary text = true) :
    escapeText text = text := by
  rw [escapeText, escape_eq_unchanged ordinary]
  rfl

/-- Texts can be escaped one after the other. -/
theorem escapeText_append (first second : String) :
    escapeText (first ++ second) = escapeText first ++ escapeText second := by
  simp only [escapeText, text_escape, String.toList_append, escapeChars_append,
    String.ofList_append]

/-- A separator that needs no escaping may be put between the parts before or after. -/
theorem escapeText_intercalate {separator : String} (ordinary : isOrdinary separator = true)
    (parts : List String) :
    escapeText (separator.intercalate parts) = separator.intercalate (parts.map escapeText) := by
  induction parts with
  | nil => exact escapeText_eq_self "" (by decide)
  | cons first rest ih =>
      cases rest with
      | nil => simp only [List.map_cons, List.map_nil, String.intercalate_singleton]
      | cons second others =>
          rw [String.intercalate_cons_cons, escapeText_append, escapeText_append, ih,
            escapeText_eq_self separator ordinary]
          simp only [List.map_cons, String.intercalate_cons_cons]

end Markup

namespace Value

open Markup

mutual

/-- The value with other texts for its strings and for the names of its fields. -/
def mapTexts (f : String → String) : Value → Value
  | .null => .null
  | .bool value => .bool value
  | .number value => .number value
  | .string value => .string (f value)
  | .array items => .array (mapItemTexts f items)
  | .object fields => .object (mapFieldTexts f fields)

/-- The items of a list with other texts. -/
def mapItemTexts (f : String → String) : List Value → List Value
  | [] => []
  | item :: rest => item.mapTexts f :: mapItemTexts f rest

/-- The fields of an object with other texts. -/
def mapFieldTexts (f : String → String) : List (String × Value) → List (String × Value)
  | [] => []
  | (name, value) :: rest => (f name, value.mapTexts f) :: mapFieldTexts f rest

end

mutual

/-- The text of a value over other texts for its strings and for the names of its fields: lists
stand in brackets and objects in braces with blanks, names end with a colon, and commas separate
what follows one another. -/
def layout (f : String → String) : Value → String
  | .null => "null"
  | .bool false => "false"
  | .bool true => "true"
  | .number value => Decimal.formatNumber value
  | .string value => f value
  | .array items => "[" ++ layoutItems f items ++ "]"
  | .object fields => "\x7b " ++ layoutFields f fields ++ " \x7d"

/-- The items of a list with commas between them. -/
def layoutItems (f : String → String) : List Value → String
  | [] => ""
  | [item] => item.layout f
  | item :: next :: rest => item.layout f ++ ", " ++ layoutItems f (next :: rest)

/-- The fields of an object with commas between them. -/
def layoutFields (f : String → String) : List (String × Value) → String
  | [] => ""
  | [(name, value)] => f name ++ ": " ++ value.layout f
  | (name, value) :: next :: rest =>
      f name ++ ": " ++ value.layout f ++ ", " ++ layoutFields f (next :: rest)

end

mutual

/-- A value with other texts is shown in the layout over these texts. -/
theorem display_mapTexts (f : String → String) :
    ∀ value : Value, (value.mapTexts f).display = value.layout f
  | .null | .bool false | .bool true | .number _ | .string _ => rfl
  | .array items => by
      rw [mapTexts, display, listText, intercalate_displayItems f items, layout]
  | .object fields => by
      rw [mapTexts, display, objectText, intercalate_displayFields f fields, layout]

theorem intercalate_displayItems (f : String → String) : ∀ items : List Value,
    ", ".intercalate (displayItems (mapItemTexts f items)) = layoutItems f items
  | [] => rfl
  | [item] => by
      rw [mapItemTexts, mapItemTexts, displayItems, displayItems, String.intercalate_singleton,
        display_mapTexts f item, layoutItems]
  | item :: next :: rest => by
      have others := intercalate_displayItems f (next :: rest)
      rw [mapItemTexts, displayItems] at others
      rw [mapItemTexts, mapItemTexts, displayItems, displayItems, String.intercalate_cons_cons,
        others, display_mapTexts f item, layoutItems]

theorem intercalate_displayFields (f : String → String) : ∀ fields : List (String × Value),
    ", ".intercalate (displayFields (mapFieldTexts f fields)) = layoutFields f fields
  | [] => rfl
  | [(name, value)] => by
      rw [mapFieldTexts, mapFieldTexts, displayFields, displayFields,
        String.intercalate_singleton, fieldText, display_mapTexts f value, layoutFields]
  | (name, value) :: (second, other) :: rest => by
      have others := intercalate_displayFields f ((second, other) :: rest)
      rw [mapFieldTexts, displayFields] at others
      rw [mapFieldTexts, mapFieldTexts, displayFields, displayFields,
        String.intercalate_cons_cons, others, fieldText, display_mapTexts f value, layoutFields]

end

mutual

/-- Nothing changes if the texts stay as they are. -/
theorem mapTexts_id : ∀ value : Value, value.mapTexts id = value
  | .null | .bool _ | .number _ | .string _ => rfl
  | .array items => by rw [mapTexts, mapItemTexts_id items]
  | .object fields => by rw [mapTexts, mapFieldTexts_id fields]

theorem mapItemTexts_id : ∀ items : List Value, mapItemTexts id items = items
  | [] => rfl
  | item :: rest => by rw [mapItemTexts, mapTexts_id item, mapItemTexts_id rest]

theorem mapFieldTexts_id : ∀ fields : List (String × Value), mapFieldTexts id fields = fields
  | [] => rfl
  | (name, value) :: rest => by
      rw [mapFieldTexts, mapTexts_id value, mapFieldTexts_id rest, id]

end

/-- A value is shown in the layout over its own texts. -/
theorem display_eq_layout (value : Value) : value.display = value.layout id := by
  rw [← display_mapTexts, mapTexts_id]

/-- A value without strings and names in it is shown without reserved characters. -/
theorem isOrdinary_display {value : Value} (single : value.isComposite = false)
    (unworded : value.string? = none) : isOrdinary value.display = true := by
  cases value with
  | null => decide
  | bool truth => cases truth <;> decide
  | number x =>
      rw [isOrdinary_iff]
      intro c shown
      apply entity?_eq_none_of_isNumeral
      exact Decimal.isNumeral_of_mem_formatNumber shown
  | string text => cases unworded
  | array items => cases single
  | object fields => cases single

/-- The brackets of a list and its separators need no escaping. -/
theorem escapeText_listText (items : List String) :
    escapeText (listText items) = listText (items.map escapeText) := by
  rw [listText, escapeText_append, escapeText_append, escapeText_intercalate (by decide),
    escapeText_eq_self "[" (by decide), escapeText_eq_self "]" (by decide), listText]

/-- The braces of an object and its separators need no escaping. -/
theorem escapeText_objectText (fields : List String) :
    escapeText (objectText fields) = objectText (fields.map escapeText) := by
  rw [objectText, escapeText_append, escapeText_append, escapeText_intercalate (by decide),
    escapeText_eq_self "\x7b " (by decide), escapeText_eq_self " \x7d" (by decide), objectText]

/-- What stands between a name and its value needs no escaping. -/
theorem escapeText_fieldText (name value : String) :
    escapeText (fieldText name value) = fieldText (escapeText name) (escapeText value) := by
  rw [fieldText, escapeText_append, escapeText_append, escapeText_eq_self ": " (by decide),
    fieldText]

mutual

/-- Escaping what a value shows is showing the value with escaped texts. -/
theorem escapeText_display : ∀ value : Value,
    escapeText value.display = (value.mapTexts escapeText).display
  | .null | .bool _ | .number _ =>
      escapeText_eq_self _ (isOrdinary_display rfl rfl)
  | .string _ => rfl
  | .array items => by
      rw [display, escapeText_listText, map_displayItems items, mapTexts, display]
  | .object fields => by
      rw [display, escapeText_objectText, map_displayFields fields, mapTexts, display]

theorem map_displayItems : ∀ items : List Value,
    (displayItems items).map escapeText = displayItems (mapItemTexts escapeText items)
  | [] => rfl
  | item :: rest => by
      rw [displayItems, List.map_cons, escapeText_display item, map_displayItems rest,
        mapItemTexts, displayItems]

theorem map_displayFields : ∀ fields : List (String × Value),
    (displayFields fields).map escapeText = displayFields (mapFieldTexts escapeText fields)
  | [] => rfl
  | (name, value) :: rest => by
      rw [displayFields, List.map_cons, escapeText_fieldText, escapeText_display value,
        map_displayFields rest, mapFieldTexts, displayFields]

end

/-- Escaping commutes with showing. A value is laid out over its own texts, and the escaped text of
it is the layout over the escaped texts, which is what the value with escaped strings and names
shows. What is neither a string nor made of other values is not touched by escaping at all. -/
theorem escape_display (value : Value) :
    value.display = value.layout id ∧
      (escape value.display).text = value.layout (fun text => (escape text).text) ∧
      (escape value.display).text =
        (value.mapTexts fun text => (escape text).text).display ∧
      (value.isComposite = false → value.string? = none →
        escape value.display = .unchanged value.display) := by
  refine ⟨display_eq_layout value, ?_, escapeText_display value, ?_⟩
  · rw [← display_mapTexts]
    exact escapeText_display value
  · intro single unworded
    apply escape_eq_unchanged
    exact isOrdinary_display single unworded

/-- Signs in a name and in a nested string are escaped where they stand. -/
example : (escape (object [("<a>", .array [.string "x & y", .null])]).display).text =
    "\x7b &lt;a&gt;: [x &amp; y, null] \x7d" := by
  decide +kernel

end Value

end HtmlTemplate
