/-
# Spelling and reading again

A sequence of literals and variables can be written down as a source: the signs of a
literal are doubled, and a variable is its name behind a sign. Where one piece ends and
the next begins is not marked, so the pieces have to be told apart by what they are: no
two literals meet, and no literal goes on with the name before it. Reading such a source
gives the pieces back, if the graphemes of its text are those that were written.
-/

import Mathlib.Data.List.Chain
import HtmlTemplate.Proofs.Template.Reading
import HtmlTemplate.Proofs.Text.Clusters

namespace HtmlTemplate.Template

open Text

/-- What a token stands for, in graphemes. -/
inductive Piece where
  | html (literal : List Grapheme)
  | var (name : List Grapheme)
  deriving DecidableEq

/-- Kind and text of a token. -/
def Token.content (token : Token) : TokenKind × String := (token.kind, token.text)

namespace Piece

/-- The graphemes that a source spells a piece with. -/
def spelling : Piece → List Grapheme
  | .html literal => escaped literal
  | .var name => .atSign :: name

/-- Kind and text of the token that a piece is read as. -/
def content : Piece → TokenKind × String
  | .html literal => (.html, joinText literal)
  | .var name => (.var, joinText name)

/-- A literal has graphemes, and a variable has a name. -/
def WellFormed : Piece → Prop
  | .html literal => literal ≠ []
  | .var name => IsName name

/-- The second piece can be told from the first one when it is spelled right behind it. -/
def MayPrecede : Piece → Piece → Prop
  | .html _, .html _ => False
  | .var _, .html literal => EndsName literal
  | _, .var _ => True

end Piece

/-- Pieces that a source can spell. -/
structure Spellable (pieces : List Piece) : Prop where
  wellFormed : ∀ piece ∈ pieces, piece.WellFormed
  separate : pieces.IsChain Piece.MayPrecede

/-- The graphemes that a source spells pieces with. -/
def spelling (pieces : List Piece) : List Grapheme := pieces.flatMap Piece.spelling

@[simp] theorem spelling_nil : spelling [] = [] := rfl

@[simp] theorem spelling_cons (piece : Piece) (rest : List Piece) :
    spelling (piece :: rest) = piece.spelling ++ spelling rest :=
  List.flatMap_cons

/-- Spellable pieces remain spellable without the first one. -/
theorem Spellable.tail {piece : Piece} {rest : List Piece} (spellable : Spellable (piece :: rest)) :
    Spellable rest :=
  ⟨(List.forall_mem_cons.mp spellable.wellFormed).2, spellable.separate.tail⟩

/-- The spelling of a literal begins like the literal. -/
theorem endsName_escaped_append {literal : List Grapheme} (filled : literal ≠ [])
    (ends : EndsName literal) (rest : List Grapheme) : EndsName (escaped literal ++ rest) := by
  cases literal with
  | nil => exact absurd rfl filled
  | cons g others =>
      by_cases sign : g = .atSign
      · simpa [sign] using endsName_atSign _
      · simpa [EndsName, sign] using ends

/-- What is spelled behind a variable ends its name. -/
theorem Spellable.endsName {name : List Grapheme} {rest : List Piece}
    (spellable : Spellable (.var name :: rest)) : EndsName (spelling rest) := by
  cases rest with
  | nil => simp [EndsName]
  | cons piece others =>
      have separate := (List.isChain_cons_cons.mp spellable.separate).1
      cases piece with
      | html literal =>
          have filled : literal ≠ [] := spellable.tail.wellFormed (.html literal) (by simp)
          exact endsName_escaped_append filled separate (spelling others)
      | var next => exact endsName_atSign (next ++ spelling others)

/-- Several graphemes have a text, unless they are all empty. -/
theorem joinText_ne_empty {gs : List Grapheme} (filled : gs ≠ [])
    (solid : ∀ g ∈ gs, g.chars ≠ []) : joinText gs ≠ "" := by
  obtain ⟨g, others, rfl⟩ := List.exists_cons_of_ne_nil filled
  intro empty
  have characters := congrArg String.toList empty
  simp [joinText_eq, solid g] at characters

/-- A literal that was empty before some graphemes were put into it leaves one token. -/
theorem tokens_pushAll {literal : Literal} (empty : literal.text = "") {gs : List Grapheme}
    (text : joinText gs ≠ "") :
    (literal.pushAll gs).tokens = [.html (joinText gs) literal.start] := by
  simp [Literal.tokens, Literal.pushAll, empty, text]

/-- Reading the spelling of pieces gives them back behind the open literal, which has to be
empty if the first piece is a literal too. Behind a literal comes no other, so there it may be
filled. -/
theorem tokensFrom_spelling {pieces : List Piece} (spellable : Spellable pieces)
    (solid : ∀ g ∈ spelling pieces, g.chars ≠ []) (here : Location) (literal : Literal)
    (closed : ∀ gs, pieces.head? = some (.html gs) → literal.text = "") :
    ∃ tokens, tokensFrom here literal (spelling pieces) = .ok tokens ∧
      tokens.map Token.content = literal.tokens.map Token.content ++ pieces.map Piece.content := by
  induction pieces generalizing here literal with
  | nil => exact ⟨literal.tokens, tokensFrom_nil here literal, by simp⟩
  | cons piece rest ih =>
      have solidRest : ∀ g ∈ spelling rest, g.chars ≠ [] := fun g mem =>
        solid g (by simp [mem])
      cases piece with
      | html gs =>
          have empty : literal.text = "" := closed gs rfl
          have filled : gs ≠ [] := spellable.wellFormed (.html gs) (by simp)
          have solidHere : ∀ g ∈ gs, g.chars ≠ [] := fun g mem =>
            solid g (by simp [Piece.spelling, mem_escaped_iff, mem])
          have alone (next : List Grapheme) : rest.head? ≠ some (.html next) := by
            intro first
            obtain ⟨others, rfl⟩ := List.head?_eq_some_iff.mp first
            exact (List.isChain_cons_cons.mp spellable.separate).1
          obtain ⟨tokens, read, contents⟩ := ih spellable.tail solidRest
            (here.afterAll (escaped gs)) (literal.pushAll gs)
            (fun next first => absurd first (alone next))
          refine ⟨tokens, ?_, ?_⟩
          · rw [spelling_cons, Piece.spelling, tokensFrom_escaped_append, read]
          · rw [contents, tokens_pushAll empty (joinText_ne_empty filled solidHere)]
            simp [Literal.tokens, empty, Token.content, Token.html, Piece.content]
      | var name =>
          have isName : IsName name := spellable.wellFormed (.var name) (by simp)
          let behind := here.afterAll (.atSign :: name)
          obtain ⟨tokens, read, contents⟩ := ih spellable.tail solidRest behind
            (.startingAt behind) (fun _ _ => rfl)
          refine ⟨literal.tokens ++ .var (joinText name) here :: tokens, ?_, ?_⟩
          · rw [spelling_cons, Piece.spelling, List.cons_append,
              tokensFrom_variable here literal isName spellable.endsName, read]
            rfl
          · simp [contents, Token.content, Token.var, Piece.content, Literal.tokens,
              Literal.startingAt]

/-- Reading undoes spelling: spellable pieces are the kinds and texts of the tokens of their
spelling, if its text is cut into the graphemes that were written. -/
theorem tokenize_spelling (file : String) {pieces : List Piece} (spellable : Spellable pieces)
    (segmented : graphemes (joinText (spelling pieces)) = spelling pieces) :
    ∃ tokens, tokenize file (joinText (spelling pieces)) = .ok tokens ∧
      tokens.map Token.content = pieces.map Piece.content := by
  have solid : ∀ g ∈ spelling pieces, g.chars ≠ [] := by
    intro g mem
    rw [← segmented] at mem
    exact chars_ne_nil_of_mem_graphemes mem
  rw [tokenize, segmented]
  exact tokensFrom_spelling spellable solid (.start file) (.startingAt (.start file))
    (fun _ _ => rfl)

/-- Where pieces meet, up to three signs stand in a row; they are told apart nevertheless. -/
theorem tokenize_spelling_junctions :
    let pieces : List Piece :=
      [.html [⟨['a']⟩, .atSign], .var [⟨['b']⟩], .html [.atSign, ⟨['c']⟩], .var [⟨['d']⟩],
        .var [⟨['e']⟩], .html [.atSign]]
    joinText (spelling pieces) = "a@@@b@@c@d@e@@" ∧ Spellable pieces ∧
      graphemes (joinText (spelling pieces)) = spelling pieces ∧
      ∃ tokens, tokenize "page" (joinText (spelling pieces)) = .ok tokens ∧
        tokens.map Token.content =
          [(.html, "a@"), (.var, "b"), (.html, "@c"), (.var, "d"), (.var, "e"), (.html, "@")] := by
  intro pieces
  have isName {g : Grapheme} (starts : g.isIdentifierStart = true) : IsName [g] :=
    ⟨⟨g, [], rfl, starts⟩, by simp [isIdentifierPart_of_isIdentifierStart starts]⟩
  have spellable : Spellable pieces := by
    refine ⟨?_, ?_⟩
    · have names : IsName [⟨['b']⟩] ∧ IsName [⟨['d']⟩] ∧ IsName [⟨['e']⟩] :=
        ⟨isName (by decide +kernel), isName (by decide +kernel), isName (by decide +kernel)⟩
      simpa [pieces, Piece.WellFormed] using names
    · simp [pieces, Piece.MayPrecede, EndsName, isIdentifierPart_atSign]
  have segmented : graphemes (joinText (spelling pieces)) = spelling pieces := by
    decide +kernel
  obtain ⟨tokens, read, contents⟩ := tokenize_spelling "page" spellable segmented
  exact ⟨by decide +kernel, spellable, segmented, tokens, read, contents.trans (by decide +kernel)⟩

end HtmlTemplate.Template
