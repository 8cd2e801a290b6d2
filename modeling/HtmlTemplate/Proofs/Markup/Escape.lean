/-
# What escaping writes

The scan over bytes writes what replacing the characters one by one would. A reserved
character is a single byte, and no byte of a longer character looks like one, so every
stretch that is copied begins and ends between characters.

What is written has none of the signs that open or close tags and attribute values, and an
ampersand in it is always the first character of an entity that is written there in full.
-/

import HtmlTemplate.Markup.Escape
import Mathlib.Data.String.Basic

namespace HtmlTemplate.Markup

@[simp] theorem escapeChars_nil : escapeChars [] = [] := rfl

@[simp] theorem escapeChars_cons (c : Char) (rest : List Char) :
    escapeChars (c :: rest) = escapeChar c ++ escapeChars rest :=
  List.flatMap_cons

@[simp] theorem escapeChars_append (first second : List Char) :
    escapeChars (first ++ second) = escapeChars first ++ escapeChars second :=
  List.flatMap_append

open String (utf8EncodeChar utf8Len utf8Len_append utf8Len_cons utf8Len_nil)

section Bytes

/-- A byte array lists the bytes that it stores. -/
theorem toList_byteArray (bytes : ByteArray) : bytes.toList = bytes.data.toList := by
  have listed (index : Nat) (found : List UInt8) :
      ByteArray.toList.loop bytes index found =
        found.reverse ++ bytes.data.toList.drop index := by
    fun_induction ByteArray.toList.loop bytes index found with
    | case1 index found inside ih =>
        have bound : index < bytes.data.toList.length := by simpa using inside
        have byte : bytes.get! index = bytes.data.toList[index] := by
          cases bytes
          exact getElem!_pos _ index inside
        rw [ih, List.drop_eq_getElem_cons bound, byte, List.reverse_cons, List.append_assoc]
        rfl
    | case2 index found outside =>
        rw [List.drop_eq_nil_of_le (by simpa using Nat.le_of_not_lt outside), List.append_nil]
  rw [ByteArray.toList, listed]
  rfl

/-- The bytes of a text are those of its characters. -/
theorem toList_toUTF8 (chars : List Char) :
    (String.ofList chars).toUTF8.toList = chars.flatMap utf8EncodeChar := by
  rw [toList_byteArray, String.toUTF8_eq_toByteArray, ← String.utf8Encode_toList,
    String.toList_ofList, List.utf8Encode, List.toList_data_toByteArray]

/-- A byte that is read as a character keeps its number. -/
theorem toNat_ofUInt8 (byte : UInt8) : (Char.ofUInt8 byte).toNat = byte.toNat :=
  UInt8.toNat_toUInt32 byte

/-- Reserved characters are ASCII. -/
theorem entity?_eq_none_of_lt {c : Char} (large : 0x7f < c.toNat) : entity? c = none := by
  unfold entity?
  split
  all_goals first | rfl | exact absurd large (by decide)

/-- No byte of a longer character looks like a reserved character, for each is written as a sum
whose last summand is at least 128. -/
theorem entity?_eq_none_of_mem {c : Char} (large : 0x7f < c.toNat) {byte : UInt8}
    (stored : byte ∈ utf8EncodeChar c) : entity? (Char.ofUInt8 byte) = none := by
  have outside : 0x7f < byte.toNat := by
    have long : ¬ c.val.toNat ≤ 0x7f := Nat.not_le.mpr large
    unfold utf8EncodeChar at stored
    rw [if_neg long] at stored
    split at stored
    · simp only [List.mem_cons, List.not_mem_nil, or_false] at stored
      rcases stored with rfl | rfl <;> rw [UInt8.toNat_ofNat'] <;> omega
    · split at stored
      · simp only [List.mem_cons, List.not_mem_nil, or_false] at stored
        rcases stored with rfl | rfl | rfl <;> rw [UInt8.toNat_ofNat'] <;> omega
      · simp only [List.mem_cons, List.not_mem_nil, or_false] at stored
        rcases stored with rfl | rfl | rfl | rfl <;> rw [UInt8.toNat_ofNat'] <;> omega
  apply entity?_eq_none_of_lt
  rw [toNat_ofUInt8]
  exact outside

/-- An ASCII character is written as one byte, from which it can be told again. -/
theorem utf8EncodeChar_of_le {c : Char} (small : c.toNat ≤ 0x7f) :
    ∃ byte, utf8EncodeChar c = [byte] ∧ Char.ofUInt8 byte = c := by
  refine ⟨UInt8.ofNat c.toNat, ?_, ?_⟩
  · exact if_pos small
  · apply Char.ext
    apply UInt32.toNat_inj.mp
    have back : (Char.ofUInt8 (UInt8.ofNat c.toNat)).toNat = c.toNat := by
      rw [toNat_ofUInt8, UInt8.toNat_ofNat']
      exact Nat.mod_eq_of_lt (by omega)
    exact back

/-- Bytes that do not look reserved are left to be copied. -/
theorem piecesFrom_append {bytes : List UInt8}
    (ordinary : ∀ byte ∈ bytes, entity? (Char.ofUInt8 byte) = none) (cursor offset : Nat)
    (rest : List UInt8) :
    piecesFrom cursor offset (bytes ++ rest) = piecesFrom cursor (offset + bytes.length) rest := by
  induction bytes generalizing offset with
  | nil => rfl
  | cons byte bytes ih =>
      obtain ⟨first, others⟩ := List.forall_mem_cons.mp ordinary
      rw [List.cons_append, piecesFrom, first]
      dsimp only
      rw [ih others, List.length_cons, Nat.add_assoc, Nat.add_comm 1]

/-- The scan takes one character at a time. -/
theorem piecesFrom_char (c : Char) (cursor offset : Nat) (rest : List UInt8) :
    piecesFrom cursor offset (utf8EncodeChar c ++ rest) =
      match entity? c with
      | some entity =>
          .stretch cursor offset :: .entity entity ::
            piecesFrom (offset + c.utf8Size) (offset + c.utf8Size) rest
      | none => piecesFrom cursor (offset + c.utf8Size) rest := by
  rw [← String.length_utf8EncodeChar]
  obtain small | large := Nat.lt_or_ge 0x7f c.toNat |>.symm
  · obtain ⟨byte, encoded, same⟩ := utf8EncodeChar_of_le small
    rw [encoded, List.singleton_append, piecesFrom, same]
    rfl
  · rw [entity?_eq_none_of_lt large]
    exact piecesFrom_append (fun byte => entity?_eq_none_of_mem large) cursor offset rest

/-- The pieces of `rest`, when what stands `before` is written and `pending` is still to be
copied. -/
def piecesBehind (before pending rest : List Char) : List Piece :=
  piecesFrom (utf8Len before) (utf8Len before + utf8Len pending) (rest.flatMap utf8EncodeChar)

/-- The pieces of a text are those behind nothing. -/
theorem pieces_eq_piecesBehind (text : String) : pieces text = piecesBehind [] [] text.toList := by
  have bytes := toList_toUTF8 text.toList
  rw [String.ofList_toList] at bytes
  rw [pieces, bytes]
  rfl

/-- At the end the scan copies what is pending. -/
theorem piecesBehind_nil (before pending : List Char) :
    piecesBehind before pending [] =
      [.stretch (utf8Len before) (utf8Len before + utf8Len pending)] := rfl

/-- A reserved character ends the stretch before it, and any other character is added to it. -/
theorem piecesBehind_cons (before pending : List Char) (c : Char) (rest : List Char) :
    piecesBehind before pending (c :: rest) =
      match entity? c with
      | some entity =>
          .stretch (utf8Len before) (utf8Len before + utf8Len pending) :: .entity entity ::
            piecesBehind (before ++ pending ++ [c]) [] rest
      | none => piecesBehind before (pending ++ [c]) rest := by
  have behind : utf8Len (pending ++ [c]) = utf8Len pending + c.utf8Size := by
    rw [utf8Len_append, utf8Len_cons, utf8Len_nil, Nat.zero_add]
  rw [piecesBehind, List.flatMap_cons, piecesFrom_char]
  cases entity? c with
  | none =>
      dsimp only
      rw [piecesBehind, behind, Nat.add_assoc]
  | some entity =>
      dsimp only
      rw [piecesBehind, List.append_assoc, utf8Len_append, behind, utf8Len_nil, Nat.add_zero,
        Nat.add_assoc]

/-- A stretch between characters is the text of the characters in it. -/
theorem text_stretch {whole before pending rest : List Char}
    (cut : whole = before ++ pending ++ rest) :
    (Piece.stretch (utf8Len before) (utf8Len before + utf8Len pending)).text
      (String.ofList whole) = String.ofList pending := by
  rw [Piece.text, cut, String.extract_of_valid]

/-- The scan writes what it still has to copy and then the rest character by character. -/
theorem flatMap_piecesBehind {whole before pending rest : List Char}
    (cut : whole = before ++ pending ++ rest) :
    (piecesBehind before pending rest).flatMap
      (fun piece => (piece.text (String.ofList whole)).toList) = pending ++ escapeChars rest := by
  induction rest generalizing before pending with
  | nil =>
      rw [piecesBehind_nil, List.flatMap_singleton, text_stretch cut, String.toList_ofList,
        escapeChars_nil, List.append_nil]
  | cons c rest ih =>
      rw [piecesBehind_cons, escapeChars_cons, escapeChar]
      cases found : entity? c with
      | none =>
          have cutBehind : whole = before ++ (pending ++ [c]) ++ rest := by simp [cut]
          dsimp only
          rw [ih cutBehind, List.append_assoc]
      | some entity =>
          have cutBehind : whole = (before ++ pending ++ [c]) ++ [] ++ rest := by simp [cut]
          dsimp only
          rw [List.flatMap_cons, List.flatMap_cons, text_stretch cut, ih cutBehind,
            String.toList_ofList]
          rfl

/-- Besides the stretches around them, the scan writes one entity for each reserved character. -/
theorem length_piecesBehind (before pending rest : List Char) :
    (piecesBehind before pending rest).length =
      2 * rest.countP (fun c => (entity? c).isSome) + 1 := by
  induction rest generalizing before pending with
  | nil => rfl
  | cons c rest ih =>
      rw [piecesBehind_cons, List.countP_cons]
      cases entity? c with
      | none => exact ih before _
      | some entity =>
          simp only [List.length_cons, ih, Option.isSome_some, if_true]
          omega

end Bytes

/-- Text without reserved characters stays as it is. -/
theorem escapeChars_eq_self {chars : List Char} (ordinary : ∀ c ∈ chars, entity? c = none) :
    escapeChars chars = chars := by
  induction chars with
  | nil => rfl
  | cons c rest ih =>
      obtain ⟨first, others⟩ := List.forall_mem_cons.mp ordinary
      rw [escapeChars_cons, escapeChar, first, ih others]
      rfl

/-- A text without reserved characters is passed on, and the pieces of any other are joined. -/
theorem escape_cases (text : String) :
    ((∀ c ∈ text.toList, entity? c = none) ∧ escape text = .unchanged text) ∨
      ((¬ ∀ c ∈ text.toList, entity? c = none) ∧
        escape text =
          .changed ((pieces text).foldl (fun out piece => out ++ piece.text text) "")) := by
  have counted := length_piecesBehind [] [] text.toList
  rw [← pieces_eq_piecesBehind] at counted
  have uncounted : (∀ c ∈ text.toList, entity? c = none) ↔
      text.toList.countP (fun c => (entity? c).isSome) = 0 := by
    simp [List.countP_eq_zero]
  rw [uncounted]
  unfold escape
  split
  · rename_i nothing
    rw [nothing] at counted
    cases counted
  · rename_i whole
    rw [whole, List.length_singleton] at counted
    exact .inl ⟨by omega, rfl⟩
  · rename_i several
    refine .inr ⟨?_, rfl⟩
    intro ordinary
    rw [ordinary] at counted
    obtain ⟨piece, whole⟩ := List.length_eq_one_iff.mp counted
    exact several piece whole

/-- Escaping in one pass over the bytes is escaping character by character. -/
theorem toList_escape (input : String) :
    (escape input).text.toList = escapeChars input.toList := by
  rcases escape_cases input with ⟨ordinary, passed⟩ | ⟨_, put⟩
  · rw [passed, Escaped.text, escapeChars_eq_self ordinary]
  · have joined (parts : List Piece) (out : String) :
        (parts.foldl (fun out piece => out ++ piece.text input) out).toList =
          out.toList ++ parts.flatMap fun piece => (piece.text input).toList := by
      induction parts generalizing out with
      | nil => simp
      | cons piece parts ih => rw [List.foldl_cons, ih]; simp
    have cut : input.toList = [] ++ [] ++ input.toList := rfl
    have written := flatMap_piecesBehind cut
    rw [← pieces_eq_piecesBehind, String.ofList_toList] at written
    rw [put, Escaped.text, joined, written]
    rfl

/-- The escaped text is that of the escaped characters. -/
theorem text_escape (text : String) :
    (escape text).text = String.ofList (escapeChars text.toList) := by
  rw [← toList_escape, String.ofList_toList]

/-- Text that is appended in its escaped form is appended character by character. -/
theorem pushEscaped_eq (out text : String) :
    pushEscaped out text = out ++ String.ofList (escapeChars text.toList) := by
  rw [pushEscaped, text_escape]

section Safety

/-- The entities that escaping writes. -/
def entities : List String := ["&amp;", "&lt;", "&gt;", "&quot;", "&#39;"]

/-- The signs that open or close a tag or an attribute value. -/
def isSign (c : Char) : Bool := c = '<' || c = '>' || c = '"' || c = '\''

/-- Each ampersand is the first character of an entity that the text contains in full. -/
def OpensEntities (chars : List Char) : Prop :=
  ∀ before after, chars = before ++ '&' :: after →
    ∃ entity ∈ entities, entity.toList <+: '&' :: after

theorem mem_entities_of_entity? {c : Char} {entity : String} (found : entity? c = some entity) :
    entity ∈ entities := by
  unfold entity? at found
  split at found
  all_goals cases found
  all_goals simp [entities]

/-- Signs are reserved. -/
theorem entity?_isSome_of_isSign {c : Char} (sign : isSign c) : (entity? c).isSome := by
  simp only [isSign, Bool.or_eq_true, decide_eq_true_eq] at sign
  rcases sign with ((rfl | rfl) | rfl) | rfl <;> rfl

/-- An entity has no sign in it, and no second ampersand. -/
theorem entity_eq_cons {entity : String} (listed : entity ∈ entities) :
    ∃ tail, entity.toList = '&' :: tail ∧ '&' ∉ tail ∧ entity.toList.filter isSign = [] := by
  simp only [entities, List.mem_cons, List.not_mem_nil, or_false] at listed
  rcases listed with rfl | rfl | rfl | rfl | rfl <;>
    exact ⟨_, rfl, by decide, rfl⟩

/-- No sign is left in escaped text. -/
theorem isSign_eq_false_of_mem {chars : List Char} {c : Char} (stored : c ∈ escapeChars chars) :
    isSign c = false := by
  obtain ⟨original, _, written⟩ := List.mem_flatMap.mp stored
  unfold escapeChar at written
  split at written
  · rename_i entity found
    obtain ⟨_, _, _, noSigns⟩ := entity_eq_cons (mem_entities_of_entity? found)
    exact Bool.eq_false_iff.mpr (List.filter_eq_nil_iff.mp noSigns c written)
  · rename_i ordinary
    obtain rfl := List.mem_singleton.mp written
    rw [Bool.eq_false_iff]
    intro sign
    have reserved := entity?_isSome_of_isSign sign
    rw [ordinary] at reserved
    cases reserved

theorem OpensEntities.append {first second : List Char} (opens : OpensEntities first)
    (secondOpens : OpensEntities second) : OpensEntities (first ++ second) := by
  intro before after cut
  obtain ⟨rest, rfl, tail⟩ | ⟨rest, rfl, tail⟩ := List.append_eq_append_iff.mp cut
  · exact secondOpens rest after tail
  · cases rest with
    | nil => exact secondOpens [] after tail.symm
    | cons c rest =>
        obtain ⟨rfl, rfl⟩ := List.cons.inj tail
        obtain ⟨entity, listed, inside⟩ := opens before rest rfl
        exact ⟨entity, listed, inside.trans (List.prefix_append _ _)⟩

/-- One escaped character opens an entity or has no ampersand. -/
theorem opensEntities_escapeChar (c : Char) : OpensEntities (escapeChar c) := by
  intro before after cut
  unfold escapeChar at cut
  split at cut
  · rename_i entity found
    have listed := mem_entities_of_entity? found
    obtain ⟨tail, starts, noSecond, _⟩ := entity_eq_cons listed
    refine ⟨entity, listed, ?_⟩
    rw [starts] at cut
    cases before with
    | nil =>
        rw [starts, cut]
        exact List.prefix_rfl
    | cons head before =>
        obtain ⟨_, rfl⟩ := List.cons.inj cut
        exact absurd (List.mem_append_right before List.mem_cons_self) noSecond
  · rename_i ordinary
    have only : '&' ∈ [c] := by
      rw [cut]
      exact List.mem_append_right before List.mem_cons_self
    obtain rfl := List.mem_singleton.mp only
    cases ordinary

/-- In escaped text an ampersand always begins an entity. -/
theorem opensEntities_escapeChars (chars : List Char) : OpensEntities (escapeChars chars) := by
  induction chars with
  | nil => exact fun before after cut => absurd cut.symm (by simp [escapeChars])
  | cons c rest ih => exact (opensEntities_escapeChar c).append ih

end Safety

end HtmlTemplate.Markup
