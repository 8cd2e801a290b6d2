/-
# The normal form of bytecode

Compiling translates the tokens one by one, so bytecode is as tidy as the tokens are. These
are the pieces that the source spells. A literal takes in everything between two variables,
pairs of signs included, and is left out where it would be empty; so there is something in
every instruction, and no two literals meet.
-/

import HtmlTemplate.Proofs.Template.Bytecode
import HtmlTemplate.Proofs.Template.Pieces
import HtmlTemplate.Proofs.Template.Lossless

namespace HtmlTemplate.Template

open Text

/-- Kind and text of the token that an instruction is for. -/
def Instruction.content : Instruction → TokenKind × String
  | .appendLiteral text => (.html, text)
  | .appendVariable name => (.var, name)

@[simp] theorem Instruction.content_ofToken (token : Token) :
    (Instruction.ofToken token).content = token.content := by
  obtain ⟨kind, text, location⟩ := token
  cases kind with
  | html => rfl
  | var => rfl

@[simp] theorem Instruction.snd_content (instruction : Instruction) :
    instruction.content.2 = instruction.operand := by
  cases instruction with
  | appendLiteral text => rfl
  | appendVariable name => rfl

/-- The instructions are those for the tokens, one for each. -/
theorem map_content_ofTokens (file : String) (tokens : List Token) :
    (Bytecode.ofTokens file tokens).instructions.map Instruction.content =
      tokens.map Token.content := by
  rw [Bytecode.ofTokens, List.map_map]
  exact List.map_congr_left fun token _ => Instruction.content_ofToken token

/-- The graphemes of spelled pieces are those of the source, and perhaps a sign. -/
theorem Spells.chars_ne_nil {source : String} {pieces : List Piece}
    (spells : Spells (graphemes source) pieces) :
    ∀ g ∈ spelling pieces, g.chars ≠ [] := by
  intro g mem
  rcases spells with full | lacking
  · rw [← full] at mem
    exact chars_ne_nil_of_mem_graphemes mem
  · rw [← lacking] at mem
    rcases List.mem_append.mp mem with inSource | sign
    · exact chars_ne_nil_of_mem_graphemes inSource
    · rw [List.mem_singleton.mp sign]
      exact List.cons_ne_nil '@' []

/-- A piece has a text. -/
theorem Piece.WellFormed.text_ne_empty {piece : Piece} (wellFormed : piece.WellFormed)
    (solid : ∀ g ∈ piece.spelling, g.chars ≠ []) : piece.content.2 ≠ "" := by
  cases piece with
  | html literal =>
      exact joinText_ne_empty wellFormed fun g mem => solid g (mem_escaped_iff.mpr mem)
  | var name =>
      obtain ⟨first, others, rfl, -⟩ := wellFormed.begins
      exact joinText_ne_empty (List.cons_ne_nil first others) fun g mem =>
        solid g (List.mem_cons_of_mem _ mem)

/-- Code for spelled pieces has no empty operand. -/
theorem operand_ne_empty {source : String} {pieces : List Piece} (spellable : Spellable pieces)
    (spells : Spells (graphemes source) pieces) {instructions : List Instruction}
    (contents : instructions.map Instruction.content = pieces.map Piece.content) :
    ∀ instruction ∈ instructions, instruction.operand ≠ "" := by
  intro instruction mem
  have listed := List.mem_map_of_mem (f := Instruction.content) mem
  rw [contents] at listed
  obtain ⟨piece, inPieces, same⟩ := List.mem_map.mp listed
  rw [← Instruction.snd_content, ← same]
  apply (spellable.wellFormed piece inPieces).text_ne_empty
  intro g inPiece
  exact spells.chars_ne_nil g (List.mem_flatMap.mpr ⟨piece, inPieces, inPiece⟩)

/-- In code for spelled pieces no two literals meet. -/
theorem isChain_instructions {pieces : List Piece} (spellable : Spellable pieces)
    {instructions : List Instruction}
    (contents : instructions.map Instruction.content = pieces.map Piece.content) :
    instructions.IsChain
      fun first second => ¬ (first.content.1 = .html ∧ second.content.1 = .html) := by
  have separate : (pieces.map Piece.content).IsChain
      fun first second => ¬ (first.1 = .html ∧ second.1 = .html) := by
    rw [List.isChain_map]
    apply spellable.separate.imp
    rintro (_ | _) (_ | _) apart
    · exact apart.elim
    all_goals simp [Piece.content]
  rwa [← contents, List.isChain_map] at separate

/-- The source without characters has no tokens. -/
theorem tokenize_empty (file : String) : tokenize file "" = .ok [] :=
  tokensFrom_nil _ _

/-- Compiled code is in normal form: no operand is empty, no two literals meet, the instructions
are those for the tokens in their order, and only the empty source has none. -/
theorem compile_normalForm {file source : String} {code : Bytecode}
    (compiled : compile file source = .ok code) :
    (∀ instruction ∈ code.instructions, instruction.operand ≠ "") ∧
      (∀ before first second after, code.instructions ≠
        before ++ .appendLiteral first :: .appendLiteral second :: after) ∧
      (∃ tokens, tokenize file source = .ok tokens ∧
        code.instructions.map Instruction.content = tokens.map Token.content) ∧
      (code.instructions = [] ↔ source = "") := by
  obtain ⟨tokens, read, rfl⟩ := exists_tokens_of_compile compiled
  obtain ⟨pieces, spellable, spells, same⟩ := exists_pieces_of_tokenize read
  have corresponds := map_content_ofTokens file tokens
  have contents : tokens.map Token.content = pieces.map Piece.content := by
    rw [same, map_content_placed]
  refine ⟨?_, ?_, ⟨tokens, read, corresponds⟩, ?_, ?_⟩
  · exact operand_ne_empty spellable spells (corresponds.trans contents)
  · intro before first second after split
    have chain := isChain_instructions spellable (corresponds.trans contents)
    rw [split, List.isChain_append_cons_cons] at chain
    exact chain.2.1 ⟨rfl, rfl⟩
  · intro nothing
    rw [contents, nothing, List.map_nil] at corresponds
    rw [List.map_eq_nil_iff.mp corresponds.symm] at spells
    rw [← joinText_graphemes source, spells.eq_nil, joinText_nil]
  · rintro rfl
    rw [tokenize_empty] at read
    cases read
    rfl

/-- Pairs of signs and the sign at the end go into the literals around them. -/
theorem compile_normalForm_pairs :
    let code : Bytecode :=
      ⟨"page", [.appendLiteral "a@b@", .appendVariable "x", .appendVariable "y",
        .appendLiteral "@"]⟩
    compile "page" "a@@b@@@x@y@" = .ok code ∧
      (∀ instruction ∈ code.instructions, instruction.operand ≠ "") ∧
      (∀ before first second after, code.instructions ≠
        before ++ .appendLiteral first :: .appendLiteral second :: after) ∧
      (∃ tokens, tokenize "page" "a@@b@@@x@y@" = .ok tokens ∧
        code.instructions.map Instruction.content = tokens.map Token.content) ∧
      (code.instructions = [] ↔ "a@@b@@@x@y@" = "") := by
  intro code
  have compiled : compile "page" "a@@b@@@x@y@" = .ok code := by
    decide +kernel
  exact ⟨compiled, compile_normalForm compiled⟩

end HtmlTemplate.Template
