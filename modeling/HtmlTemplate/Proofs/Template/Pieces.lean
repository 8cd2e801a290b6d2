/-
# What is read was spelled

Spelling pieces and reading them again gives the pieces back. Here is the other direction:
a source that can be read spells some pieces, and its tokens are those of the pieces, each
at the place where the spelling of the one before it ends. Only a sign at the very end may
lack its partner, and then the source with one more sign spells the pieces.

The invariant that carries this through a source is that the graphemes of the open literal,
spelled, are exactly what was read since the place where the literal begins.
-/

import HtmlTemplate.Proofs.Template.Spelling

namespace HtmlTemplate.Template

open Text

/-- The token that a piece is read as where it stands. -/
def Piece.tokenAt (here : Location) : Piece → Token
  | .html literal => .html (joinText literal) here
  | .var name => .var (joinText name) here

@[simp] theorem Piece.location_tokenAt (piece : Piece) (here : Location) :
    (piece.tokenAt here).location = here := by
  cases piece with
  | html literal => rfl
  | var name => rfl

/-- The tokens of pieces that are spelled one right behind the other, when the given graphemes
stand before them. -/
def placed (file : String) (before : List Grapheme) : List Piece → List Token
  | [] => []
  | piece :: rest =>
      piece.tokenAt (.behind file before) :: placed file (before ++ piece.spelling) rest

/-- The graphemes spell the pieces, but for a sign at the end that may lack its partner. -/
def Spells (gs : List Grapheme) (pieces : List Piece) : Prop :=
  gs = spelling pieces ∨ gs ++ [.atSign] = spelling pieces

@[simp] theorem escaped_append (first second : List Grapheme) :
    escaped (first ++ second) = escaped first ++ escaped second :=
  List.flatMap_append

@[simp] theorem spelling_append (first second : List Piece) :
    spelling (first ++ second) = spelling first ++ spelling second :=
  List.flatMap_append

/-- Only a source without graphemes spells nothing. -/
theorem Spells.eq_nil {gs : List Grapheme} (spells : Spells gs []) : gs = [] := by
  rcases spells with full | lacking
  · exact full
  · exact absurd lacking (by simp)

/-- More pieces are spelled when their spelling comes before. -/
theorem Spells.append {gs : List Grapheme} {pieces : List Piece} (spells : Spells gs pieces)
    (first : List Piece) : Spells (spelling first ++ gs) (first ++ pieces) := by
  rcases spells with full | lacking
  · exact Or.inl (by rw [spelling_append, ← full])
  · exact Or.inr (by rw [spelling_append, ← lacking, List.append_assoc])

/-- The piece of a finished literal; an empty one leaves none. -/
def literalPieces (literal : List Grapheme) : List Piece :=
  if literal = [] then [] else [.html literal]

/-- Pieces are placed behind those that come before them. -/
theorem placed_append (file : String) (before : List Grapheme) (first second : List Piece) :
    placed file before (first ++ second) =
      placed file before first ++ placed file (before ++ spelling first) second := by
  induction first generalizing before with
  | nil => simp [placed]
  | cons piece rest ih => simp [placed, ih]

/-- Placing a piece keeps its kind and text. -/
theorem map_content_placed (file : String) (before : List Grapheme) (pieces : List Piece) :
    (placed file before pieces).map Token.content = pieces.map Piece.content := by
  induction pieces generalizing before with
  | nil => rfl
  | cons piece rest ih =>
      rw [placed, List.map_cons, List.map_cons, ih]
      cases piece with
      | html literal => rfl
      | var name => rfl

/-- A finished literal is spelled whether or not it leaves a piece. -/
theorem spelling_literalPieces (literal : List Grapheme) :
    spelling (literalPieces literal) = escaped literal := by
  rw [literalPieces]
  split
  · rename_i empty
    rw [empty]
    rfl
  · exact List.append_nil _

/-- A finished literal leaves a piece exactly if it leaves a token. -/
theorem placed_literalPieces (file : String) (before : List Grapheme) {literal : List Grapheme}
    (solid : ∀ g ∈ literal, g.chars ≠ []) :
    placed file before (literalPieces literal) =
      (Literal.mk (joinText literal) (.behind file before)).tokens := by
  by_cases empty : literal = []
  · rw [empty]
    rfl
  · rw [literalPieces, if_neg empty, Literal.tokens, if_neg (joinText_ne_empty empty solid)]
    rfl

/-- A finished literal is a spellable piece, if any. -/
theorem spellable_literalPieces (literal : List Grapheme) : Spellable (literalPieces literal) := by
  rw [literalPieces]
  split
  · exact ⟨by simp, List.isChain_nil⟩
  · rename_i filled
    exact ⟨by simpa [Piece.WellFormed] using filled, List.isChain_singleton _⟩

/-- A literal may stand before a variable. -/
theorem Spellable.literalPieces_append {name : List Grapheme} {rest : List Piece}
    (spellable : Spellable (.var name :: rest)) (literal : List Grapheme) :
    Spellable (literalPieces literal ++ .var name :: rest) := by
  rw [literalPieces]
  split
  · exact spellable
  · rename_i filled
    exact ⟨List.forall_mem_cons.mpr ⟨filled, spellable.wellFormed⟩,
      List.isChain_cons_cons.mpr ⟨trivial, spellable.separate⟩⟩

/-- Where a name ends, the literal that is spelled next does not go on with it. -/
theorem endsName_of_spelled {literal rest : List Grapheme}
    (ends : EndsName (escaped literal ++ rest)) : EndsName literal := by
  cases literal with
  | nil => simp [EndsName]
  | cons g others =>
      by_cases sign : g = .atSign
      · rw [sign]
        exact endsName_atSign others
      · simpa [EndsName, sign] using ends

/-- A variable may stand before pieces whose spelling ends its name. -/
theorem Spellable.cons_var {name gs : List Grapheme} {rest : List Piece}
    (spellable : Spellable rest) (isName : IsName name) (ends : EndsName gs)
    (spells : Spells gs rest) : Spellable (.var name :: rest) := by
  refine ⟨List.forall_mem_cons.mpr ⟨isName, spellable.wellFormed⟩, ?_⟩
  have stops : EndsName (spelling rest) := by
    rcases spells with full | lacking
    · rwa [← full]
    · rw [← lacking]
      cases gs with
      | nil => exact endsName_atSign []
      | cons next others => exact ends
  cases rest with
  | nil => exact List.isChain_singleton _
  | cons piece others =>
      refine List.isChain_cons_cons.mpr ⟨?_, spellable.separate⟩
      cases piece with
      | html literal => exact endsName_of_spelled stops
      | var next => trivial

/-- The longest run of identifier graphemes is a name if it begins as names do. -/
theorem isName_nameRun {next : Grapheme} (starts : next.isIdentifierStart = true)
    (others : List Grapheme) : IsName (nameRun (next :: others)) := by
  refine ⟨⟨next, nameRun others, ?_, starts⟩, List.all_eq_true.mp List.all_takeWhile⟩
  exact List.takeWhile_cons_of_pos (isIdentifierPart_of_isIdentifierStart starts)

/-- What follows the longest run of identifier graphemes ends the name. -/
theorem endsName_afterName (gs : List Grapheme) : EndsName (afterName gs) := by
  intro next first
  have stops := List.head?_dropWhile_not Grapheme.isIdentifierPart gs
  rw [afterName, Option.mem_def] at first
  rwa [first] at stops

/-- The literal that is open after the given graphemes were put into it. -/
def openLiteral (file : String) (before literal : List Grapheme) : Literal :=
  ⟨joinText literal, .behind file before⟩

@[simp] theorem push_openLiteral (file : String) (before literal : List Grapheme) (g : Grapheme) :
    (openLiteral file before literal).push g = openLiteral file before (literal ++ [g]) := by
  simp [openLiteral, Literal.push]

/-- The tokens of the unread graphemes are those of the pieces that are spelled from the beginning
of the open literal on. -/
theorem exists_pieces_of_tokensFrom {file : String} (before literal : List Grapheme)
    (here : Location) (opened : Literal) (gs : List Grapheme)
    (solid : ∀ g ∈ literal ++ gs, g.chars ≠ [])
    (holds : opened = openLiteral file before literal)
    (place : here = .behind file (before ++ escaped literal)) :
    ∀ tokens, tokensFrom here opened gs = .ok tokens →
      ∃ pieces, Spellable pieces ∧ Spells (escaped literal ++ gs) pieces ∧
        tokens = placed file before pieces := by
  fun_induction tokensFrom here opened gs generalizing before literal with
  | case1 here opened =>
      rintro tokens ⟨⟩
      refine ⟨literalPieces literal, spellable_literalPieces literal, Or.inl ?_, ?_⟩
      · rw [spelling_literalPieces, List.append_nil]
      · rw [holds]
        exact (placed_literalPieces file before (by simpa using solid)).symm
  | case2 here opened =>
      rintro tokens ⟨⟩
      refine ⟨literalPieces (literal ++ [.atSign]), spellable_literalPieces _, Or.inr ?_, ?_⟩
      · simp [spelling_literalPieces]
      · rw [holds, push_openLiteral]
        exact (placed_literalPieces file before solid).symm
  | case3 here opened others ih =>
      intro tokens read
      obtain ⟨pieces, spellable, spells, rfl⟩ := ih before (literal ++ [.atSign])
        (fun g mem => solid g (by simpa using mem)) (by simp [holds]) (by simp [place]) tokens read
      exact ⟨pieces, spellable, by simpa using spells, rfl⟩
  | case4 here opened next others single starts name later behind read ih =>
      rintro tokens ⟨⟩
      have whole : name ++ afterName (next :: others) = next :: others :=
        nameRun_append_afterName (next :: others)
      have passed : behind = .behind file (before ++ escaped literal ++ .atSign :: name) := by
        simp [behind, place]
      have solidBehind : ∀ g ∈ afterName (next :: others), g.chars ≠ [] := by
        intro g mem
        apply solid
        rw [← whole]
        simp [mem]
      obtain ⟨pieces, spellable, spells, rfl⟩ := ih _ [] solidBehind
        (by rw [passed]; rfl) (by rw [passed]; simp) later read
      refine ⟨literalPieces literal ++ .var name :: pieces, ?_, ?_, ?_⟩
      · apply Spellable.literalPieces_append
        exact spellable.cons_var (isName_nameRun starts others) (endsName_afterName _) spells
      · rw [← whole]
        have joined := spells.append (literalPieces literal ++ [.var name])
        rw [spelling_append, spelling_literalPieces] at joined
        simpa [Piece.spelling] using joined
      · have solidHere : ∀ g ∈ literal, g.chars ≠ [] := fun g mem => solid g (by simp [mem])
        rw [holds, openLiteral, ← placed_literalPieces file before solidHere, place,
          placed_append, spelling_literalPieces]
        rfl
  | case5 =>
      rintro tokens ⟨⟩
  | case6 =>
      rintro tokens ⟨⟩
  | case7 here opened g rest ordinary ih =>
      intro tokens read
      obtain ⟨pieces, spellable, spells, rfl⟩ := ih before (literal ++ [g])
        (fun g mem => solid g (by simpa using mem)) (by simp [holds])
        (by simp [place, ordinary]) tokens read
      exact ⟨pieces, spellable, by simpa [ordinary] using spells, rfl⟩

/-- A source that can be read spells pieces, and its tokens are those of the pieces. -/
theorem exists_pieces_of_tokenize {file source : String} {tokens : List Token}
    (read : tokenize file source = .ok tokens) :
    ∃ pieces, Spellable pieces ∧ Spells (graphemes source) pieces ∧
      tokens = placed file [] pieces :=
  exists_pieces_of_tokensFrom [] [] (.start file) (.startingAt (.start file)) (graphemes source)
    (fun _ mem => chars_ne_nil_of_mem_graphemes mem) rfl rfl tokens read

/-- The name of a variable that is read consists of graphemes that follow one another in the
source. The sign that may be missing at the end of the source is no part of a name. -/
theorem exists_isName_of_tokenize {file source name : String} {tokens : List Token}
    (read : tokenize file source = .ok tokens)
    (used : (.var, name) ∈ tokens.map Token.content) :
    ∃ gs before behind, IsName gs ∧ graphemes source = before ++ (gs ++ behind) ∧
      joinText gs = name := by
  obtain ⟨pieces, spellable, spells, same⟩ := exists_pieces_of_tokenize read
  rw [same, map_content_placed] at used
  obtain ⟨piece, inPieces, content⟩ := List.mem_map.mp used
  cases piece with
  | html literal => cases content
  | var gs =>
      have isName : IsName gs := spellable.wellFormed _ inPieces
      obtain ⟨earlier, later, split⟩ := List.append_of_mem inPieces
      have spelled : spelling pieces =
          (spelling earlier ++ [.atSign]) ++ (gs ++ spelling later) := by
        rw [split, spelling_append]
        simp [spelling, Piece.spelling]
      rcases spells with full | lacking
      · exact ⟨gs, _, _, isName, full.trans spelled, congrArg Prod.snd content⟩
      · rw [spelled] at lacking
        rcases List.eq_nil_or_concat (spelling later) with nothing | ⟨rest, last, ends⟩
        · obtain ⟨first, others, filled, -⟩ := isName.begins
          have sign : gs.getLast? = some .atSign := by
            have last := congrArg List.getLast? lacking
            rw [nothing, List.append_nil, List.getLast?_concat,
              List.getLast?_append_of_ne_nil _ (by rw [filled]; exact List.cons_ne_nil _ _)] at last
            exact last.symm
          exact absurd rfl
            (ne_atSign_of_isIdentifierPart (isName.goesOn _ (List.mem_of_getLast? sign)))
        · rw [ends, List.concat_eq_append, ← List.append_assoc, ← List.append_assoc] at lacking
          have source_eq := (List.append_inj' lacking rfl).1
          rw [List.append_assoc] at source_eq
          exact ⟨gs, _, rest, isName, source_eq, congrArg Prod.snd content⟩

end HtmlTemplate.Template
