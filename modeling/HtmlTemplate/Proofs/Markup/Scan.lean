/-
# The scan over bytes

Escaping counts bytes and copies its input in slices, so two things could go wrong that
replacing characters one by one cannot get wrong: a slice could begin or end inside a
character, and the cursor, whose position alone tells whether anything has been written,
could be moved without an entity, or left where it was after one.

Both are excluded by what the cursor stands for. It is the size of the characters that are
already written, and the offset is the size of these and of the pending ones.
-/

import HtmlTemplate.Proofs.Markup.Escape

namespace HtmlTemplate.Markup

open String (utf8Len utf8Len_append utf8Len_cons utf8Len_nil)

/-- The characters that escaping replaces. -/
def reserved : List Char := ['&', '<', '>', '"', '\'']

/-- Exactly the reserved characters have an entity. -/
theorem entity?_eq_none_iff (c : Char) : entity? c = none ↔ c ∉ reserved := by
  unfold entity?
  split <;> simp_all [reserved]

section Slices

/-- A text can be sliced between two offsets that are in order and both stand between
characters. -/
structure Sliceable (text : String) (start stop : Nat) : Prop where
  ordered : start ≤ stop
  startsBetween : String.Pos.Raw.IsValid text ⟨start⟩
  stopsBetween : String.Pos.Raw.IsValid text ⟨stop⟩

/-- The size of the first characters of a text is an offset between characters. -/
theorem isValid_utf8Len (front back : List Char) :
    String.Pos.Raw.IsValid (String.ofList (front ++ back)) ⟨utf8Len front⟩ := by
  rw [String.Pos.Raw.isValid_iff_exists_append]
  exact ⟨String.ofList front, String.ofList back, String.ofList_append,
    (String.rawEndPos_ofList front).symm⟩

/-- Characters in the middle of a text are a slice of it. -/
theorem sliceable_utf8Len (front slice back : List Char) :
    Sliceable (String.ofList (front ++ slice ++ back)) (utf8Len front)
      (utf8Len front + utf8Len slice) where
  ordered := Nat.le_add_right _ _
  startsBetween := by
    rw [List.append_assoc]
    exact isValid_utf8Len front (slice ++ back)
  stopsBetween := by
    rw [← utf8Len_append]
    exact isValid_utf8Len (front ++ slice) back

/-- The scan copies slices only. -/
theorem sliceable_of_mem_piecesBehind {before pending rest : List Char} {start stop : Nat}
    (taken : .stretch start stop ∈ piecesBehind before pending rest) :
    Sliceable (String.ofList (before ++ pending ++ rest)) start stop := by
  induction rest generalizing before pending with
  | nil =>
      rw [piecesBehind_nil, List.mem_singleton] at taken
      obtain ⟨rfl, rfl⟩ := Piece.stretch.inj taken
      exact sliceable_utf8Len before pending []
  | cons c rest ih =>
      rw [piecesBehind_cons] at taken
      cases found : entity? c with
      | none =>
          rw [found] at taken
          have later := ih taken
          simpa only [List.append_assoc, List.singleton_append] using later
      | some entity =>
          rw [found] at taken
          rcases List.mem_cons.mp taken with here | behind
          · obtain ⟨rfl, rfl⟩ := Piece.stretch.inj here
            exact sliceable_utf8Len before pending (c :: rest)
          · have later := ih (List.mem_of_ne_of_mem Piece.noConfusion behind)
            simpa only [List.append_assoc, List.singleton_append, List.nil_append] using later

end Slices

/-- The last piece reaches from the cursor to the end, and the cursor has moved if and only if a
reserved character was met. It is put behind that character and never moves back. -/
theorem getLast?_piecesBehind (before pending rest : List Char) :
    ∃ cursor, (piecesBehind before pending rest).getLast? =
        some (.stretch cursor (utf8Len (before ++ pending ++ rest))) ∧
      utf8Len before ≤ cursor ∧
      (cursor = utf8Len before ↔ ∀ c ∈ rest, entity? c = none) := by
  induction rest generalizing before pending with
  | nil =>
      refine ⟨utf8Len before, ?_, Nat.le_refl _, by simp⟩
      rw [piecesBehind_nil, List.append_nil, utf8Len_append]
      rfl
  | cons c rest ih =>
      rw [piecesBehind_cons]
      cases found : entity? c with
      | none =>
          obtain ⟨cursor, last, beyond, moved⟩ := ih before (pending ++ [c])
          refine ⟨cursor, ?_, beyond, ?_⟩
          · simpa only [List.append_assoc, List.singleton_append] using last
          · rw [moved, List.forall_mem_cons]
            exact ⟨fun others => ⟨found, others⟩, fun all => all.2⟩
      | some entity =>
          obtain ⟨cursor, last, beyond, _⟩ := ih (before ++ pending ++ [c]) []
          have size := Char.utf8Size_pos c
          rw [utf8Len_append, utf8Len_append, utf8Len_cons, utf8Len_nil] at beyond
          refine ⟨cursor, ?_, by omega, ?_⟩
          · dsimp only
            rw [List.getLast?_cons, List.getLast?_cons, last]
            simp only [Option.getD_some, List.append_assoc, List.singleton_append]
          · constructor
            · intro stayed
              omega
            · intro ordinary
              rw [ordinary c List.mem_cons_self] at found
              cases found

/-- Escaping passes its input on if and only if there is nothing to replace. -/
theorem isUnchanged_escape_iff (text : String) :
    (escape text).isUnchanged = true ↔ ∀ c ∈ text.toList, entity? c = none := by
  rcases escape_cases text with ⟨ordinary, passed⟩ | ⟨extraordinary, put⟩
  · rw [passed]
    exact iff_of_true rfl ordinary
  · rw [put]
    exact iff_of_false Bool.false_ne_true extraordinary

/-- The scan over bytes writes what replacing the characters one by one writes. It takes slices
of its input only, it passes its input on if and only if no character is reserved, which is when
its cursor ends where it began, and it appends its result to any text. So texts can be escaped
one after the other. -/
theorem escape_eq_substitution (text : String) :
    (escape text).text = String.ofList (text.toList.flatMap escapeChar) ∧
      (∀ start stop, .stretch start stop ∈ pieces text → Sliceable text start stop) ∧
      ((escape text).isUnchanged = true ↔ ∀ c ∈ text.toList, c ∉ reserved) ∧
      (∃ cursor, (pieces text).getLast? = some (.stretch cursor text.utf8ByteSize) ∧
        ((escape text).isUnchanged = true ↔ cursor = 0)) ∧
      (∀ out, pushEscaped out text = out ++ String.ofList (text.toList.flatMap escapeChar)) ∧
      ∀ other, (escape (text ++ other)).text = (escape text).text ++ (escape other).text := by
  refine ⟨text_escape text, ?slices, ?flag, ?cursor, fun out => pushEscaped_eq out text, ?append⟩
  case slices =>
    intro start stop taken
    rw [pieces_eq_piecesBehind] at taken
    have sliceable := sliceable_of_mem_piecesBehind taken
    rwa [List.append_nil, List.nil_append, String.ofList_toList] at sliceable
  case flag =>
    rw [isUnchanged_escape_iff]
    simp only [entity?_eq_none_iff]
  case cursor =>
    obtain ⟨cursor, last, _, moved⟩ := getLast?_piecesBehind [] [] text.toList
    refine ⟨cursor, ?_, ?_⟩
    · rw [pieces_eq_piecesBehind, last, List.append_nil, List.nil_append,
        ← String.utf8ByteSize_ofList, String.ofList_toList]
    · rw [isUnchanged_escape_iff, ← moved, utf8Len_nil]
  case append =>
    intro other
    rw [text_escape, text_escape, text_escape, String.toList_append, escapeChars_append,
      String.ofList_append]

end HtmlTemplate.Markup
