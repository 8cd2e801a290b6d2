/-
# The tokens divide the source

Every grapheme of a source that can be read is covered by one token: a variable covers a
sign and its name, and a literal covers its graphemes and the second sign of each of its
pairs. The tokens lie one right behind the other, and the place of a token is that of the
first grapheme that it covers.
-/

import HtmlTemplate.Proofs.Template.Pieces
import HtmlTemplate.Proofs.Template.Lossless

namespace HtmlTemplate.Template

open Text

/-- The token covers a stretch of a source. The stretch of a literal gives its text when one sign
is left of each pair, and that of a variable is a sign and the name. -/
def Token.Covers (token : Token) (stretch : List Grapheme) : Prop :=
  match token.kind with
  | .html => stretch ≠ [] ∧ token.text = joinText (mergePairs stretch)
  | .var => ∃ name, IsName name ∧ token.text = joinText name ∧ stretch = .atSign :: name

/-- The places where stretches begin that lie one right behind the other, when the given graphemes
stand before them. -/
def places (file : String) (before : List Grapheme) : List (List Grapheme) → List Location
  | [] => []
  | stretch :: rest => .behind file before :: places file (before ++ stretch) rest

/-- No token covers nothing. -/
theorem Token.Covers.ne_nil {token : Token} {stretch : List Grapheme}
    (covers : token.Covers stretch) : stretch ≠ [] := by
  unfold Covers at covers
  split at covers
  · exact covers.1
  · obtain ⟨name, -, -, rfl⟩ := covers
    exact List.cons_ne_nil _ _

/-- Stretches that tokens cover are not empty. -/
theorem ne_nil_of_covered {tokens : List Token} {stretches : List (List Grapheme)}
    (covered : List.Forall₂ Token.Covers tokens stretches) :
    ∀ stretch ∈ stretches, stretch ≠ [] := by
  induction covered with
  | nil => simp
  | cons first _ ih => exact List.forall_mem_cons.mpr ⟨first.ne_nil, ih⟩

/-- Merging the pairs of a spelled literal gives the literal. -/
theorem mergePairs_escaped_append (literal rest : List Grapheme) :
    mergePairs (escaped literal ++ rest) = literal ++ mergePairs rest := by
  induction literal with
  | nil => rfl
  | cons g others ih =>
      by_cases sign : g = .atSign
      · simp [sign, mergePairs_pair, ih]
      · simp [sign, mergePairs_cons sign, ih]

/-- A piece covers its spelling. -/
theorem covers_spelling {piece : Piece} (wellFormed : piece.WellFormed) (here : Location) :
    (piece.tokenAt here).Covers piece.spelling := by
  cases piece with
  | html literal =>
      have merged := mergePairs_escaped_append literal []
      rw [List.append_nil, mergePairs, List.append_nil] at merged
      refine ⟨?_, ?_⟩
      · intro empty
        rw [Piece.spelling] at empty
        rw [empty] at merged
        exact wellFormed merged.symm
      · rw [Piece.spelling, merged]
        rfl
  | var name => exact ⟨name, wellFormed, rfl, rfl⟩

/-- The sign at the end of a spelled literal is the second one of a pair. -/
theorem mergePairs_of_escaped_eq {literal stretch : List Grapheme}
    (lacking : stretch ++ [.atSign] = escaped literal) : mergePairs stretch = literal := by
  rcases List.eq_nil_or_concat literal with rfl | ⟨earlier, last, rfl⟩
  · exact absurd lacking (by simp)
  · by_cases sign : last = .atSign
    · have split : stretch ++ [.atSign] = (escaped earlier ++ [.atSign]) ++ [.atSign] := by
        simpa [sign] using lacking
      rw [List.append_cancel_right split, mergePairs_escaped_append, sign, mergePairs,
        List.concat_eq_append]
    · have ends := congrArg List.getLast? lacking
      simp [sign] at ends
      exact absurd ends.symm sign

/-- A piece covers its spelling even if the partner of a sign at the end is missing. -/
theorem covers_of_spelling_eq {piece : Piece} (wellFormed : piece.WellFormed) (here : Location)
    {stretch : List Grapheme} (lacking : stretch ++ [.atSign] = piece.spelling) :
    (piece.tokenAt here).Covers stretch := by
  cases piece with
  | html literal =>
      have merged := mergePairs_of_escaped_eq lacking
      refine ⟨?_, ?_⟩
      · rintro rfl
        exact wellFormed merged.symm
      · rw [merged]
        rfl
  | var name =>
      obtain ⟨first, others, rfl, -⟩ := wellFormed.begins
      have ends : (first :: others).getLast? = some .atSign := by
        simpa [Piece.spelling] using (congrArg List.getLast? lacking).symm
      have part := wellFormed.goesOn .atSign (List.mem_of_getLast? ends)
      rw [isIdentifierPart_atSign] at part
      cases part

/-- What is spelled behind the first of several pieces spells the others. -/
theorem Spells.uncons {gs : List Grapheme} {piece next : Piece} {rest : List Piece}
    (wellFormed : next.WellFormed) (spells : Spells gs (piece :: next :: rest)) :
    ∃ others, gs = piece.spelling ++ others ∧ Spells others (next :: rest) := by
  rcases spells with full | lacking
  · exact ⟨spelling (next :: rest), full, Or.inl rfl⟩
  · have filled : spelling (next :: rest) ≠ [] := by
      have nonempty := (covers_spelling wellFormed (.start "")).ne_nil
      simp [nonempty]
    obtain ⟨others, last, split⟩ := List.eq_nil_or_concat _ |>.resolve_left filled
    rw [List.concat_eq_append] at split
    rw [spelling_cons, split, ← List.append_assoc] at lacking
    obtain ⟨same, sign⟩ := List.append_inj' lacking rfl
    refine ⟨others, same, Or.inr ?_⟩
    rw [sign, split]

/-- The places where nonempty stretches begin lie behind what stands before them. -/
theorem exists_behind_of_mem_places {file : String} {before : List Grapheme}
    {stretches : List (List Grapheme)} {here : Location}
    (listed : here ∈ places file before stretches) :
    ∃ passed, here = .behind file (before ++ passed) := by
  induction stretches generalizing before with
  | nil => cases listed
  | cons stretch rest ih =>
      rcases List.mem_cons.mp listed with rfl | later
      · exact ⟨[], by rw [List.append_nil]⟩
      · obtain ⟨passed, rfl⟩ := ih later
        exact ⟨stretch ++ passed, by rw [List.append_assoc]⟩

/-- Stretches that are not empty begin at later and later places. -/
theorem pairwise_places (file : String) (before : List Grapheme) {stretches : List (List Grapheme)}
    (filled : ∀ stretch ∈ stretches, stretch ≠ []) :
    (places file before stretches).Pairwise Location.Precedes := by
  induction stretches generalizing before with
  | nil => exact List.Pairwise.nil
  | cons stretch rest ih =>
      obtain ⟨first, others⟩ := List.forall_mem_cons.mp filled
      refine List.pairwise_cons.mpr ⟨?_, ih _ others⟩
      intro here later
      obtain ⟨passed, rfl⟩ := exists_behind_of_mem_places later
      rw [List.append_assoc]
      exact Location.precedes_behind_append file before (by simp [first])

/-- Spelled pieces divide the graphemes into the stretches that their tokens cover. -/
theorem exists_stretches_of_spells (file : String) (before : List Grapheme) {gs : List Grapheme}
    {pieces : List Piece} (wellFormed : ∀ piece ∈ pieces, piece.WellFormed)
    (spells : Spells gs pieces) :
    ∃ stretches : List (List Grapheme), gs = stretches.flatten ∧
      List.Forall₂ Token.Covers (placed file before pieces) stretches ∧
      (placed file before pieces).map Token.location = places file before stretches := by
  induction pieces generalizing before gs with
  | nil => exact ⟨[], spells.eq_nil, List.Forall₂.nil, rfl⟩
  | cons piece rest ih =>
      obtain ⟨first, others⟩ := List.forall_mem_cons.mp wellFormed
      cases rest with
      | nil =>
          refine ⟨[gs], by simp, List.Forall₂.cons ?_ List.Forall₂.nil, by simp [placed, places]⟩
          rcases spells with full | lacking
          · rw [full, spelling_cons, spelling_nil, List.append_nil]
            exact covers_spelling first _
          · rw [spelling_cons, spelling_nil, List.append_nil] at lacking
            exact covers_of_spelling_eq first _ lacking
      | cons next later =>
          obtain ⟨behind, rfl, spellsBehind⟩ := spells.uncons (others next List.mem_cons_self)
          obtain ⟨stretches, rfl, covered, placedBehind⟩ :=
            ih (before ++ piece.spelling) others spellsBehind
          refine ⟨piece.spelling :: stretches, rfl, ?_, ?_⟩
          · exact List.Forall₂.cons (covers_spelling first _) covered
          · rw [placed, List.map_cons, placedBehind, Piece.location_tokenAt]
            rfl

/-- The tokens of a source divide it. Each covers a stretch of the graphemes and stands at the place
where its stretch begins, which for all but the first one is the place where the stretch before it
ends; so they stand at later and later places. -/
theorem tokenize_places {file source : String} {tokens : List Token}
    (read : tokenize file source = .ok tokens) :
    ∃ stretches : List (List Grapheme),
      graphemes source = stretches.flatten ∧
        List.Forall₂ Token.Covers tokens stretches ∧
        tokens.map Token.location = places file [] stretches ∧
        (tokens.map Token.location).Pairwise Location.Precedes := by
  obtain ⟨pieces, spellable, spells, rfl⟩ := exists_pieces_of_tokenize read
  obtain ⟨stretches, whole, covered, placed⟩ :=
    exists_stretches_of_spells file [] spellable.wellFormed spells
  refine ⟨stretches, whole, covered, placed, ?_⟩
  rw [placed]
  exact pairwise_places file [] (ne_nil_of_covered covered)

/-- A newline of two characters takes no column, a pair takes two, and the sign before a name is
where the variable stands. -/
theorem tokenize_places_odd_run :
    let tokens : List Token :=
      [.html "a\r\n@" (.clamped "page" 1 1),
        .var "x" (.clamped "page" 2 3),
        .html "\n@" (.clamped "page" 2 5)]
    tokenize "page" "a\r\n@@@x\n@" = .ok tokens ∧
      ∃ stretches : List (List Grapheme),
        graphemes "a\r\n@@@x\n@" = stretches.flatten ∧
          List.Forall₂ Token.Covers tokens stretches ∧
          tokens.map Token.location = places "page" [] stretches ∧
          (tokens.map Token.location).Pairwise Location.Precedes := by
  intro tokens
  have read : tokenize "page" "a\r\n@@@x\n@" = .ok tokens := by
    decide +kernel
  exact ⟨read, tokenize_places read⟩

end HtmlTemplate.Template
