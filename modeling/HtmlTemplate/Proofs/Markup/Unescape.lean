/-
# Escaping can be undone

Escaped text contains ampersands again, and the text that was escaped may have looked like
entities already. Still each ampersand that was written begins an entity that stands there
in full, so reading from the left finds exactly the entities that escaping wrote, and puts
the characters back.
-/

import Mathlib.Logic.Function.Basic
import HtmlTemplate.Proofs.Markup.Escape

namespace HtmlTemplate.Markup

/-- Read escaped text from the left: an entity gives its character, and every other character
stays. -/
def unescapeChars : List Char → List Char
  | '&' :: 'a' :: 'm' :: 'p' :: ';' :: rest => '&' :: unescapeChars rest
  | '&' :: 'l' :: 't' :: ';' :: rest => '<' :: unescapeChars rest
  | '&' :: 'g' :: 't' :: ';' :: rest => '>' :: unescapeChars rest
  | '&' :: 'q' :: 'u' :: 'o' :: 't' :: ';' :: rest => '"' :: unescapeChars rest
  | '&' :: '#' :: '3' :: '9' :: ';' :: rest => '\'' :: unescapeChars rest
  | c :: rest => c :: unescapeChars rest
  | [] => []

/-- The text that an escaped text stands for. -/
def unescape (escaped : String) : String := String.ofList (unescapeChars escaped.toList)

/-- An entity is read as the character that it stands for. -/
theorem unescapeChars_entity {c : Char} {entity : String} (found : entity? c = some entity)
    (rest : List Char) : unescapeChars (entity.toList ++ rest) = c :: unescapeChars rest := by
  unfold entity? at found
  split at found
  all_goals cases found
  all_goals rfl

/-- Where no entity can begin, the character stays. -/
theorem unescapeChars_cons {c : Char} (ordinary : c ≠ '&') (rest : List Char) :
    unescapeChars (c :: rest) = c :: unescapeChars rest := by
  simp [unescapeChars, ordinary]

/-- The escaped form of a character is read as the character. -/
theorem unescapeChars_escapeChar_append (c : Char) (rest : List Char) :
    unescapeChars (escapeChar c ++ rest) = c :: unescapeChars rest := by
  rw [escapeChar]
  cases found : entity? c with
  | some entity => exact unescapeChars_entity found rest
  | none =>
      apply unescapeChars_cons
      rintro rfl
      cases found

/-- Reading escaped characters puts them back. -/
theorem unescapeChars_escapeChars (chars : List Char) :
    unescapeChars (escapeChars chars) = chars := by
  induction chars with
  | nil => rfl
  | cons c rest ih =>
      rw [escapeChars_cons, unescapeChars_escapeChar_append, ih]

/-- Escaped text has none of the signs of markup, each ampersand in it begins an entity, and
reading the entities gives the text back. So different texts are escaped differently. -/
theorem unescape_escape :
    (∀ text : String,
      let escaped := (escape text).text
      (∀ c ∈ escaped.toList, isSign c = false) ∧ OpensEntities escaped.toList ∧
        unescape escaped = text) ∧
      Function.Injective fun text => (escape text).text := by
  have undone (text : String) : unescape (escape text).text = text := by
    rw [unescape, toList_escape, unescapeChars_escapeChars, String.ofList_toList]
  refine ⟨?_, Function.LeftInverse.injective undone⟩
  intro text escaped
  refine ⟨?_, ?_, undone text⟩
  · rw [toList_escape]
    exact fun c => isSign_eq_false_of_mem
  · rw [toList_escape]
    exact opensEntities_escapeChars text.toList

/-- A text that looks escaped is escaped once more, and one reading takes only that away. -/
example : (escape "&amp;lt;").text = "&amp;amp;lt;" ∧ unescape "&amp;amp;lt;" = "&amp;lt;" := by
  decide +kernel

end HtmlTemplate.Markup
