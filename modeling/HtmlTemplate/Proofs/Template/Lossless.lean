/-
# Reading loses one sign of each pair

Put together again, the tokens of a source spell the source, but for its pairs of signs:
of each pair only the first sign is left. The pairs are those that are taken from the left
inside each maximal run, so a run is cut in half, and its last sign stays if it is odd.
-/

import HtmlTemplate.Proofs.Template.SignRuns
import HtmlTemplate.Proofs.Text.Clusters

namespace HtmlTemplate.Template

open Text

/-- The graphemes without the second sign of each pair, where pairs are taken from the left. -/
def mergePairs : List Grapheme → List Grapheme
  | [] => []
  | [g] => [g]
  | g :: next :: rest =>
      if g = .atSign ∧ next = .atSign then .atSign :: mergePairs rest
      else g :: mergePairs (next :: rest)

/-- Of a pair one sign is left. -/
theorem mergePairs_pair (rest : List Grapheme) :
    mergePairs (.atSign :: .atSign :: rest) = .atSign :: mergePairs rest := by
  rw [mergePairs, if_pos ⟨rfl, rfl⟩]

/-- A sign that stands alone stays. -/
theorem mergePairs_single {next : Grapheme} (single : next ≠ .atSign) (others : List Grapheme) :
    mergePairs (.atSign :: next :: others) = .atSign :: mergePairs (next :: others) := by
  rw [mergePairs, if_neg (by simp [single])]

/-- Every other grapheme than the sign stays. -/
theorem mergePairs_cons {g : Grapheme} (ordinary : g ≠ .atSign) (rest : List Grapheme) :
    mergePairs (g :: rest) = g :: mergePairs rest := by
  cases rest with
  | nil => rfl
  | cons next others => rw [mergePairs, if_neg (by simp [ordinary])]

/-- A stretch without signs stays. -/
theorem mergePairs_append {gs : List Grapheme} (ordinary : ∀ g ∈ gs, g ≠ .atSign)
    (rest : List Grapheme) : mergePairs (gs ++ rest) = gs ++ mergePairs rest := by
  induction gs with
  | nil => rfl
  | cons g others ih =>
      obtain ⟨first, later⟩ := List.forall_mem_cons.mp ordinary
      rw [List.cons_append, mergePairs_cons first, ih later, List.cons_append]

/-- Without two signs in a row nothing is left out. -/
theorem mergePairs_eq_self {gs : List Grapheme}
    (separate : gs.IsChain fun g next => ¬ (g = .atSign ∧ next = .atSign)) :
    mergePairs gs = gs := by
  fun_induction mergePairs gs with
  | case1 => rfl
  | case2 g => rfl
  | case3 g next rest pair ih => exact absurd pair (List.isChain_cons_cons.mp separate).1
  | case4 g next rest single ih => rw [ih (List.isChain_cons_cons.mp separate).2]

/-- What stands before a run of signs does not reach into it. -/
theorem mergePairs_append_of_getLast? {before : List Grapheme}
    (begins : before.getLast? ≠ some .atSign) (rest : List Grapheme) :
    mergePairs (before ++ rest) = mergePairs before ++ mergePairs rest := by
  fun_induction mergePairs before with
  | case1 => rfl
  | case2 g => exact mergePairs_cons (by simpa using begins) rest
  | case3 g next others pair ih =>
      obtain ⟨rfl, rfl⟩ := pair
      have later : others.getLast? ≠ some .atSign := by
        cases others with
        | nil => simp
        | cons first others => simpa using begins
      rw [List.cons_append, List.cons_append, mergePairs_pair, ih later, List.cons_append]
  | case4 g next others single ih =>
      have later : (next :: others).getLast? ≠ some .atSign := by simpa using begins
      rw [List.cons_append, List.cons_append, mergePairs, if_neg single, ← List.cons_append,
        ih later, List.cons_append]

/-- Half of the signs of a run are left, and the last one of an odd run. -/
theorem mergePairs_replicate_append (signs : Nat) {after : List Grapheme}
    (ends : after.head? ≠ some .atSign) :
    mergePairs (List.replicate signs .atSign ++ after) =
      List.replicate ((signs + 1) / 2) .atSign ++ mergePairs after := by
  induction signs using Nat.twoStepInduction with
  | zero => rfl
  | one =>
      cases after with
      | nil => rfl
      | cons next others => exact mergePairs_single (by simpa using ends) others
  | more signs ih _ =>
      have half : (signs + 2 + 1) / 2 = (signs + 1) / 2 + 1 := by omega
      rw [half, List.replicate_succ, List.replicate_succ, List.replicate_succ, List.cons_append,
        List.cons_append, mergePairs_pair, ih, List.cons_append]

/-- A maximal run of signs is cut in half where it stands. -/
theorem SignRun.IsMaximalIn.mergePairs_eq {run : SignRun} {gs : List Grapheme}
    (maximal : run.IsMaximalIn gs) :
    mergePairs gs = mergePairs run.before ++
      (List.replicate ((run.length + 1) / 2) .atSign ++ mergePairs run.after) := by
  rw [maximal.spelled, mergePairs_append_of_getLast? maximal.begins,
    mergePairs_replicate_append run.length maximal.ends]

/-- A finished literal is spelled with its text, whether or not it leaves a token. -/
theorem join_sourceText_tokens (literal : Literal) :
    String.join (literal.tokens.map Token.sourceText) = literal.text := by
  rw [Literal.tokens]
  split
  · rename_i empty
    rw [empty]
    rfl
  · simp [Token.html, Token.sourceText]

/-- The tokens of the unread graphemes spell the open literal and then what is left of the
graphemes. -/
theorem join_sourceText_tokensFrom (here : Location) (literal : Literal) (gs : List Grapheme) :
    ∀ tokens, tokensFrom here literal gs = .ok tokens →
      String.join (tokens.map Token.sourceText) = literal.text ++ joinText (mergePairs gs) := by
  fun_induction tokensFrom here literal gs with
  | case1 here literal =>
      rintro tokens ⟨⟩
      simp [join_sourceText_tokens, mergePairs]
  | case2 here literal =>
      rintro tokens ⟨⟩
      simp [join_sourceText_tokens, mergePairs, Literal.push]
  | case3 here literal others ih =>
      intro tokens read
      rw [ih tokens read, mergePairs_pair, joinText_cons, Literal.push, String.append_assoc]
  | case4 here literal next others single starts name later behind read ih =>
      rintro tokens ⟨⟩
      have sign : Grapheme.atSign.text = "@" := rfl
      rw [mergePairs_single single, ← nameRun_append_afterName (next :: others),
        mergePairs_append fun g => ne_atSign_of_mem_nameRun]
      simp [join_sourceText_tokens, ih later read, Token.var, Token.sourceText, name,
        Literal.startingAt, sign, String.append_assoc]
  | case5 =>
      rintro tokens ⟨⟩
  | case6 =>
      rintro tokens ⟨⟩
  | case7 here literal g rest ordinary ih =>
      intro tokens read
      rw [ih tokens read, mergePairs_cons ordinary, joinText_cons, Literal.push,
        String.append_assoc]

/-- The graphemes of a text, put together, are the text. -/
theorem joinText_graphemes (text : String) : joinText (graphemes text) = text := by
  rw [joinText_eq, flatMap_chars_graphemes, String.ofList_toList]

/-- The tokens of a source spell it, but for the second sign of each pair: in every maximal run
half of the signs are left, and the last one if their number is odd. So a source without two
signs in a row is spelled as it is. -/
theorem tokenize_lossless {file source : String} {tokens : List Token}
    (read : tokenize file source = .ok tokens) :
    let gs := graphemes source
    let spelled := String.join (tokens.map Token.sourceText)
    spelled = joinText (mergePairs gs) ∧
      (∀ run : SignRun, run.IsMaximalIn gs →
        mergePairs gs = mergePairs run.before ++
          (List.replicate ((run.length + 1) / 2) .atSign ++ mergePairs run.after)) ∧
      (gs.IsChain (fun g next => ¬ (g = .atSign ∧ next = .atSign)) → spelled = source) := by
  intro gs spelled
  have whole : spelled = joinText (mergePairs gs) := by
    have joined := join_sourceText_tokensFrom (.start file) (.startingAt (.start file)) gs tokens
      read
    rwa [Literal.startingAt, String.empty_append] at joined
  refine ⟨whole, fun run maximal => maximal.mergePairs_eq, ?_⟩
  intro separate
  rw [whole, mergePairs_eq_self separate, joinText_graphemes]

/-- A pair before a variable loses a sign, and neither the sign of the variable nor the one at the
end does. -/
theorem tokenize_lossless_odd_run :
    let tokens : List Token :=
      [.html "@" (.start "page"), .var "a" (.behind "page" [.atSign, .atSign]),
        .html "@" (.behind "page" [.atSign, .atSign, .atSign, ⟨['a']⟩])]
    tokenize "page" "@@@a@" = .ok tokens ∧
      "@@a@" = joinText (mergePairs (graphemes "@@@a@")) ∧
      (∀ run : SignRun, run.IsMaximalIn (graphemes "@@@a@") →
        mergePairs (graphemes "@@@a@") = mergePairs run.before ++
          (List.replicate ((run.length + 1) / 2) .atSign ++ mergePairs run.after)) ∧
      ((graphemes "@@@a@").IsChain (fun g next => ¬ (g = .atSign ∧ next = .atSign)) →
        "@@a@" = "@@@a@") := by
  intro tokens
  have read : tokenize "page" "@@@a@" = .ok tokens := by
    decide +kernel
  exact ⟨read, tokenize_lossless read⟩

end HtmlTemplate.Template
