/-
# Writing a text down as a source

To have a text written as it is, its author doubles the signs. That does what is wanted as
long as every sign of the text is a grapheme of its own, and only then: reading pairs
graphemes, so a sign that shares its grapheme with a mark behind it, or with a prepended
sign before it, is not half of a pair. The source is then refused, or keeps a sign too
many, or goes on with a variable.

That nothing else goes wrong is seen by counting. Doubling makes twice as many signs, and
reading takes one for each pair away, so that half of the signs are left only if each of
them belongs to a pair.
-/

import HtmlTemplate.Render.Template
import HtmlTemplate.Proofs.Template.Bytecode
import HtmlTemplate.Proofs.Template.Lossless
import HtmlTemplate.Proofs.Text.DoubledSigns
import HtmlTemplate.Proofs.Render.Run

namespace HtmlTemplate.Render

open Text Template

/-- The text with every sign doubled. -/
def doubledText (text : String) : String := String.ofList (doubleSigns text.toList)

/-- The source compiles, looks up no variable, and gives the text whatever arguments are
accepted. -/
def WritesVerbatim (file source text : String) : Prop :=
  ∃ code, compile file source = .ok code ∧ code.variableNames = [] ∧
    ∀ heap arguments graph, Arguments.convert heap arguments = .ok graph →
      render heap code arguments = .ok text

/-- Every sign of the text is a grapheme of its own. -/
def SignsStandAlone (text : String) : Prop :=
  ∀ g ∈ graphemes text, '@' ∈ g.chars → g = .atSign

/-- Signs stand alone where they are apart from the other characters of the clusters. -/
theorem signsStandAlone_iff (text : String) :
    SignsStandAlone text ↔ SignsApart (clusters text.toList) := by
  rw [SignsStandAlone, graphemes, List.forall_mem_map, SignsApart]
  simp [Grapheme.atSign]

/-- Doubled clusters are the graphemes of a literal that is spelled. -/
theorem map_doubleClusters (cut : List (List Char)) :
    (doubleClusters cut).map Grapheme.mk = escaped (cut.map Grapheme.mk) := by
  induction cut with
  | nil => rfl
  | cons cluster others ih =>
      by_cases sign : cluster = ['@']
      · simp [sign, ih, Grapheme.atSign]
      · simp [sign, ih, Grapheme.atSign]

/-- Where the signs of a text stand alone, doubling them spells it as a literal. -/
theorem graphemes_doubledText {text : String} (alone : SignsStandAlone text) :
    graphemes (doubledText text) = escaped (graphemes text) := by
  have apart := (signsStandAlone_iff text).mp alone
  have doubled := (doubles_clusters text.toList).eq_of_apart apart
  rw [graphemes, doubledText, String.toList_ofList, doubled, map_doubleClusters, graphemes]

/-- Where the signs of a doubled text stand alone, those of the text do. -/
theorem signsStandAlone_of_doubledText {text : String}
    (alone : SignsStandAlone (doubledText text)) : SignsStandAlone text := by
  have apart := (signsStandAlone_iff (doubledText text)).mp alone
  rw [doubledText, String.toList_ofList] at apart
  exact (signsStandAlone_iff text).mpr ((doubles_clusters text.toList).apart_of_apart apart)

/-- How many signs there are in graphemes. -/
def signCount (gs : List Grapheme) : Nat := (gs.map fun g => g.chars.count '@').sum

/-- How many signs there are in graphemes that are not signs themselves. -/
def joinedSignCount (gs : List Grapheme) : Nat :=
  (gs.map fun g => if g = .atSign then 0 else g.chars.count '@').sum

@[simp] theorem signCount_cons (g : Grapheme) (rest : List Grapheme) :
    signCount (g :: rest) = g.chars.count '@' + signCount rest := by
  simp [signCount]

@[simp] theorem joinedSignCount_cons (g : Grapheme) (rest : List Grapheme) :
    joinedSignCount (g :: rest) =
      (if g = .atSign then 0 else g.chars.count '@') + joinedSignCount rest := by
  simp [joinedSignCount]

/-- The signs of graphemes are those of their characters. -/
theorem signCount_eq (gs : List Grapheme) :
    signCount gs = (gs.flatMap Grapheme.chars).count '@' := by
  rw [signCount, List.count_flatMap]
  rfl

/-- Merging pairs leaves half of the signs, and the other half too of those that are joined with
other characters. -/
theorem signCount_add_joinedSignCount_le (gs : List Grapheme) :
    signCount gs + joinedSignCount gs ≤ 2 * signCount (mergePairs gs) := by
  have one : Grapheme.atSign.chars.count '@' = 1 := rfl
  fun_induction mergePairs gs with
  | case1 => exact Nat.le_refl 0
  | case2 g =>
      have none : joinedSignCount [] = 0 := rfl
      rw [joinedSignCount_cons, signCount_cons, none]
      split
      · omega
      · omega
  | case3 g next rest pair ih =>
      obtain ⟨rfl, rfl⟩ := pair
      simp only [signCount_cons, joinedSignCount_cons, if_true, one]
      omega
  | case4 g next rest single ih =>
      rw [signCount_cons g (next :: rest), joinedSignCount_cons g, signCount_cons g (mergePairs _)]
      split
      · omega
      · omega

/-- If merging pairs leaves only half of the signs, all of them stand alone. -/
theorem eq_atSign_of_two_mul_signCount_le {gs : List Grapheme}
    (half : 2 * signCount (mergePairs gs) ≤ signCount gs) :
    ∀ g ∈ gs, '@' ∈ g.chars → g = .atSign := by
  intro g mem sign
  by_contra other
  have none : joinedSignCount gs = 0 := by
    have bound := signCount_add_joinedSignCount_le gs
    omega
  have count := List.sum_eq_zero_iff_forall_eq_nat.mp none
    (if g = .atSign then 0 else g.chars.count '@') (List.mem_map.mpr ⟨g, mem, rfl⟩)
  rw [if_neg other, List.count_eq_zero] at count
  exact count sign

/-- Bytecode that looks up no variable writes what its tokens are spelled with. -/
theorem written_ofTokens {file : String} {tokens : List Token}
    (literal : (Bytecode.ofTokens file tokens).variableNames = []) (vars : Variables) :
    written vars (Bytecode.ofTokens file tokens).instructions =
      (String.join (tokens.map Token.sourceText)).toList := by
  have spelled : ∀ token ∈ tokens,
      contribution vars (.ofToken token) = token.sourceText.toList := by
    intro token mem
    cases kind : token.kind with
    | html => simp [Instruction.ofToken, kind, contribution, Token.sourceText]
    | var =>
        have announced : token.text ∈ (Bytecode.ofTokens file tokens).variableNames :=
          mem_variableNames_iff.mpr
            (List.mem_map.mpr ⟨token, mem, by rw [Instruction.ofToken, kind]⟩)
        rw [literal] at announced
        cases announced
  rw [written, Bytecode.ofTokens, String.toList_join, List.flatMap_map, List.flatMap_map]
  exact List.flatMap_congr spelled

/-- A text whose signs stand alone is one literal when they are doubled. -/
theorem tokenize_doubledText (file : String) {text : String} (alone : SignsStandAlone text) :
    tokenize file (doubledText text) = .ok (Literal.mk text (.start file)).tokens := by
  have read := tokensFrom_escaped_append (.start file) (.startingAt (.start file))
    (graphemes text) []
  rw [List.append_nil, tokensFrom_nil] at read
  rw [tokenize, graphemes_doubledText alone, read, Literal.pushAll, Literal.startingAt,
    joinText_graphemes, String.empty_append]

/-- The bytecode of one literal runs to its text. -/
theorem run_literal_tokens (file text : String) (vars : Variables) :
    run (Bytecode.ofTokens file (Literal.mk text (.start file)).tokens) vars = .ok text := by
  rw [Literal.tokens]
  split
  · rename_i empty
    rw [show text = "" from empty]
    rfl
  · show Except.ok ("" ++ text) = Except.ok text
    rw [String.empty_append]

/-- A text whose signs stand alone is written as it is when they are doubled. -/
theorem writesVerbatim_doubledText (file : String) {text : String}
    (alone : SignsStandAlone text) : WritesVerbatim file (doubledText text) text := by
  refine ⟨Bytecode.ofTokens file (Literal.mk text (.start file)).tokens, ?_, ?_, ?_⟩
  · rw [compile, tokenize_doubledText file alone]
    rfl
  · rw [Literal.tokens]
    split
    · rfl
    · rfl
  · intro heap arguments graph accepted
    rw [render, accept, accepted]
    exact run_literal_tokens file text graph.toVariables

/-- The heap of a caller who passes an object without properties. -/
def bareHeap : Host.Heap := ⟨#[⟨.object .plain .empty, false⟩]⟩

/-- An object without properties is accepted. -/
theorem convert_bareHeap : Arguments.convert bareHeap (.ref ⟨0⟩) = .ok ⟨#[], []⟩ := rfl

/-- What a source that looks up no variable gives is its tokens, spelled. -/
theorem WritesVerbatim.eq_joinText {file source text : String}
    (writes : WritesVerbatim file source text) :
    text = joinText (mergePairs (graphemes source)) := by
  obtain ⟨code, compiled, literal, renders⟩ := writes
  have rendered := renders bareHeap (.ref ⟨0⟩) _ convert_bareHeap
  rw [render, accept, convert_bareHeap] at rendered
  obtain ⟨tokens, read, rfl⟩ := exists_tokens_of_compile compiled
  have output := toList_of_run_eq_ok rendered
  rw [written_ofTokens literal] at output
  have spelled := join_sourceText_tokensFrom (.start file) (.startingAt (.start file))
    (graphemes source) tokens read
  rw [Literal.startingAt, String.empty_append] at spelled
  rw [← spelled]
  exact String.toList_inj.mp output

/-- The signs of a source are those of its characters. -/
theorem signCount_graphemes (text : String) :
    signCount (graphemes text) = text.toList.count '@' := by
  rw [signCount_eq, flatMap_chars_graphemes]

/-- **Doubling the signs writes a text as it is exactly where every sign of the text is a
grapheme of its own.** A text that is written so keeps all its signs, and these are half of the
signs that were read. -/
theorem writesVerbatim_doubledText_iff (file text : String) :
    WritesVerbatim file (doubledText text) text ↔ SignsStandAlone text := by
  constructor
  · intro writes
    have merged : signCount (mergePairs (graphemes (doubledText text))) =
        text.toList.count '@' := by
      rw [signCount_eq, ← String.toList_ofList (l := List.flatMap _ _), ← joinText_eq,
        ← writes.eq_joinText]
    have doubled : signCount (graphemes (doubledText text)) = 2 * text.toList.count '@' := by
      rw [signCount_graphemes, doubledText, String.toList_ofList, count_doubleSigns]
    apply signsStandAlone_of_doubledText
    apply eq_atSign_of_two_mul_signCount_le
    rw [merged, doubled]
  · exact writesVerbatim_doubledText file

/-- A sign with an accent is no sign to the reader: behind the sign that doubling puts before it,
it is taken for the fault of the source. -/
theorem not_writesVerbatim_accented_sign :
    ¬ WritesVerbatim "page" (doubledText "@\u0301") "@\u0301" := by
  rintro ⟨code, compiled, -, -⟩
  have refused : compile "page" (doubledText "@\u0301") =
      .error (.invalidEscape "@\u0301" (.start "page")) := by decide +kernel
  rw [refused] at compiled
  cases compiled

/-- A prepended sign takes the first of the doubled signs to itself, and the second goes on with
the name. -/
example : (compile "page" (doubledText "\u0600@name")).map Bytecode.variableNames =
    .ok ["name"] := by
  decide +kernel

end HtmlTemplate.Render
