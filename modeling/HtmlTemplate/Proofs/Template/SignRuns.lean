/-
# The runs of signs in a source

Whether a source can be read depends only on its maximal runs of signs. Reading pairs the
signs of a run from the left, so it is the parity of the run that counts: an even run is
used up, and the last sign of an odd one stands before whatever follows the run. There it
begins a variable, or is the end of the source, or is the fault that is reported.

The invariant that carries this through a source is that an even number of signs of the
open run has been read whenever a token could end.
-/

import Mathlib.Data.Set.Card
import HtmlTemplate.Proofs.Template.Reading

namespace HtmlTemplate.Template

open Text

/-- Several signs in a row, with the graphemes before and after them. -/
structure SignRun where
  before : List Grapheme
  length : Nat
  after : List Grapheme
  deriving DecidableEq

namespace SignRun

/-- The signs stand in the given graphemes, and on neither side of them is one more. -/
structure IsMaximalIn (run : SignRun) (gs : List Grapheme) : Prop where
  spelled : gs = run.before ++ (List.replicate run.length .atSign ++ run.after)
  nonempty : 0 < run.length
  begins : run.before.getLast? ≠ some .atSign
  ends : run.after.head? ≠ some .atSign

/-- Pairing leaves a sign over, and behind it is a grapheme that does or does not start a
name. -/
def IsOddBefore (run : SignRun) (starts : Bool) : Prop :=
  run.length % 2 = 1 ∧ ∃ next ∈ run.after.head?, next.isIdentifierStart = starts

/-- The last sign of the run introduces a name. -/
abbrev IntroducesName (run : SignRun) : Prop := run.IsOddBefore true

/-- The last sign of the run stands before something that is not a name. -/
abbrev Offends (run : SignRun) : Prop := run.IsOddBefore false

instance (run : SignRun) (starts : Bool) : Decidable (run.IsOddBefore starts) :=
  inferInstanceAs (Decidable (run.length % 2 = 1 ∧
    ∃ next ∈ run.after.head?, next.isIdentifierStart = starts))

/-- The place of the last sign of the run. -/
def lastSign (run : SignRun) (file : String) : Location :=
  .behind file (run.before ++ List.replicate (run.length - 1) .atSign)

end SignRun

/-- The maximal runs of signs, when `before` and then `signs` signs of an open run stand before
the given graphemes. -/
def signRunsFrom (before : List Grapheme) (signs : Nat) : List Grapheme → List SignRun
  | [] => if signs = 0 then [] else [⟨before, signs, []⟩]
  | g :: rest =>
      if g = .atSign then signRunsFrom before (signs + 1) rest
      else if signs = 0 then signRunsFrom (before ++ [g]) 0 rest
      else
        ⟨before, signs, g :: rest⟩ ::
          signRunsFrom (before ++ List.replicate signs .atSign ++ [g]) 0 rest

/-- The maximal runs of signs in the given graphemes, in order. -/
def signRuns (gs : List Grapheme) : List SignRun := signRunsFrom [] 0 gs

/-- Two runs that begin at one place, and are not followed by a sign, are the same. -/
theorem replicate_atSign_append_inj {length signs : Nat} {after rest : List Grapheme}
    (whole : List.replicate length Grapheme.atSign ++ after =
      List.replicate signs Grapheme.atSign ++ rest)
    (ends : after.head? ≠ some .atSign) (stops : rest.head? ≠ some .atSign) :
    length = signs ∧ after = rest := by
  induction length generalizing signs with
  | zero =>
      cases signs with
      | zero => exact ⟨rfl, whole⟩
      | succ signs =>
          have begins : after = .atSign :: (List.replicate signs .atSign ++ rest) := whole
          exact absurd (by simp [begins]) ends
  | succ length ih =>
      cases signs with
      | zero =>
          have begins : .atSign :: (List.replicate length .atSign ++ after) = rest := whole
          exact absurd (by simp [← begins]) stops
      | succ signs =>
          obtain ⟨same, behind⟩ := ih (List.cons.inj whole).2
          exact ⟨congrArg Nat.succ same, behind⟩

/-- A run that begins no earlier than an open one is the open one or lies behind its end. -/
theorem eq_or_behind_of_append_eq {skipped rest after : List Grapheme} {signs length : Nat}
    (spelled : List.replicate signs .atSign ++ rest =
      skipped ++ (List.replicate length .atSign ++ after))
    (stops : rest.head? ≠ some .atSign) (begins : skipped.getLast? ≠ some .atSign)
    (ends : after.head? ≠ some .atSign) :
    (skipped = [] ∧ length = signs ∧ after = rest) ∨
      ∃ between, skipped = List.replicate signs .atSign ++ between ∧
        rest = between ++ (List.replicate length .atSign ++ after) := by
  rcases List.append_eq_append_iff.mp spelled with ⟨between, left, right⟩ | ⟨inside, left, right⟩
  · exact Or.inr ⟨between, left, right⟩
  · obtain ⟨total, signsOnly, others⟩ := List.replicate_eq_append_iff.mp left
    have nothing : skipped = [] := by
      by_contra filled
      rw [signsOnly, List.getLast?_replicate, if_neg (by simpa using filled)] at begins
      exact begins rfl
    have whole : List.replicate length Grapheme.atSign ++ after =
        List.replicate signs .atSign ++ rest := by
      rw [right, others, ← total, nothing, List.length_nil, Nat.zero_add]
    exact Or.inl ⟨nothing, replicate_atSign_append_inj whole ends stops⟩

/-- The graphemes before a run that is found begin with those that were passed over. -/
theorem isPrefix_of_mem_signRunsFrom {before gs : List Grapheme} {signs : Nat} {run : SignRun}
    (found : run ∈ signRunsFrom before signs gs) : before <+: run.before := by
  fun_induction signRunsFrom before signs gs with
  | case1 => cases found
  | case2 before signs positive =>
      rw [List.mem_singleton.mp found]
  | case3 before signs rest ih => exact ih found
  | case4 before g rest ordinary ih => exact (List.prefix_append before [g]).trans (ih found)
  | case5 before signs g rest ordinary positive ih =>
      rcases List.mem_cons.mp found with rfl | later
      · exact List.prefix_rfl
      · exact (by simp : before <+: before ++ List.replicate signs .atSign ++ [g]).trans (ih later)

/-- Every run that is found is maximal. -/
theorem isMaximalIn_of_mem_signRunsFrom {before gs : List Grapheme} {signs : Nat} {run : SignRun}
    (begins : before.getLast? ≠ some .atSign) (found : run ∈ signRunsFrom before signs gs) :
    run.IsMaximalIn (before ++ (List.replicate signs .atSign ++ gs)) := by
  fun_induction signRunsFrom before signs gs with
  | case1 => cases found
  | case2 before signs positive =>
      rw [List.mem_singleton.mp found]
      exact ⟨rfl, Nat.pos_of_ne_zero positive, begins, by simp⟩
  | case3 before signs rest ih =>
      simpa [List.replicate_succ'] using ih begins found
  | case4 before g rest ordinary ih =>
      simpa using ih (by simpa using ordinary) found
  | case5 before signs g rest ordinary positive ih =>
      rcases List.mem_cons.mp found with rfl | later
      · exact ⟨rfl, Nat.pos_of_ne_zero positive, begins, by simpa using ordinary⟩
      · simpa using ih (by simpa using ordinary) later

/-- A grapheme that is not a sign lies before the run. -/
theorem exists_cons_of_append_run {g : Grapheme} {rest between after : List Grapheme}
    {length : Nat} (ordinary : g ≠ .atSign) (nonempty : 0 < length)
    (spelled : g :: rest = between ++ (List.replicate length .atSign ++ after)) :
    ∃ others, between = g :: others ∧
      rest = others ++ (List.replicate length .atSign ++ after) := by
  cases between with
  | nil =>
      obtain ⟨n, rfl⟩ := Nat.exists_eq_succ_of_ne_zero nonempty.ne'
      rw [List.nil_append, List.replicate_succ, List.cons_append] at spelled
      exact absurd (List.cons.inj spelled).1 ordinary
  | cons first others =>
      obtain ⟨rfl, behind⟩ := List.cons.inj spelled
      exact ⟨others, rfl, behind⟩

/-- Every maximal run that does not begin too early is found. One that is not found yet lies behind
what was passed over, so less is skipped before it. -/
theorem mem_signRunsFrom_of_spelled (before : List Grapheme)
    {gs skipped after : List Grapheme} {signs length : Nat}
    (spelled : List.replicate signs .atSign ++ gs =
      skipped ++ (List.replicate length .atSign ++ after))
    (nonempty : 0 < length) (begins : skipped.getLast? ≠ some .atSign)
    (ends : after.head? ≠ some .atSign) :
    ⟨before ++ skipped, length, after⟩ ∈ signRunsFrom before signs gs := by
  have behind (passed others : List Grapheme)
      (begins : (passed ++ others).getLast? ≠ some .atSign) : others.getLast? ≠ some .atSign := by
    intro last
    exact begins (by simp [List.getLast?_append, last])
  have nothing (between : List Grapheme) :
      [] ≠ between ++ (List.replicate length .atSign ++ after) := by
    intro empty
    have none := (List.append_eq_nil_iff.mp (List.append_eq_nil_iff.mp empty.symm).2).1
    exact nonempty.ne' (by simpa using none)
  fun_induction signRunsFrom before signs gs generalizing skipped with
  | case1 => exact absurd spelled (nothing skipped)
  | case2 before signs positive =>
      rcases eq_or_behind_of_append_eq spelled (by simp) begins ends with
        ⟨rfl, rfl, rfl⟩ | ⟨between, -, following⟩
      · simp
      · exact absurd following (nothing between)
  | case3 before signs rest ih =>
      exact ih (by simpa [List.replicate_succ'] using spelled) begins
  | case4 before g rest ordinary ih =>
      obtain ⟨others, rfl, later⟩ := exists_cons_of_append_run ordinary nonempty spelled
      simpa using ih later (behind [g] others begins)
  | case5 before signs g rest ordinary positive ih =>
      rcases eq_or_behind_of_append_eq spelled (by simpa using ordinary) begins ends with
        ⟨rfl, rfl, rfl⟩ | ⟨between, rfl, following⟩
      · simp
      · obtain ⟨others, rfl, later⟩ := exists_cons_of_append_run ordinary nonempty following
        have separate := behind (List.replicate signs .atSign ++ [g]) others
          (by simpa using begins)
        apply List.mem_cons_of_mem
        simpa using ih later separate

/-- The runs that are found are the maximal ones. -/
theorem mem_signRuns_iff {gs : List Grapheme} {run : SignRun} :
    run ∈ signRuns gs ↔ run.IsMaximalIn gs := by
  constructor
  · intro found
    simpa using isMaximalIn_of_mem_signRunsFrom (by simp) found
  · intro maximal
    exact mem_signRunsFrom_of_spelled [] maximal.spelled maximal.nonempty maximal.begins
      maximal.ends

/-- The runs are found from left to right. -/
theorem pairwise_signRunsFrom (before gs : List Grapheme) (signs : Nat) :
    (signRunsFrom before signs gs).Pairwise
      fun first second => first.before.length < second.before.length := by
  fun_induction signRunsFrom before signs gs with
  | case1 => exact List.Pairwise.nil
  | case2 before signs positive => exact List.pairwise_singleton _ _
  | case3 before signs rest ih => exact ih
  | case4 before g rest ordinary ih => exact ih
  | case5 before signs g rest ordinary positive ih =>
      refine List.pairwise_cons.mpr ⟨?_, ih⟩
      intro run later
      have passed := (isPrefix_of_mem_signRunsFrom later).length_le
      simp only [List.length_append, List.length_replicate, List.length_singleton] at passed
      show before.length < run.before.length
      omega

/-- No run is found twice. -/
theorem nodup_signRuns (gs : List Grapheme) : (signRuns gs).Nodup := by
  refine (pairwise_signRunsFrom [] gs 0).imp ?_
  rintro first second less rfl
  exact Nat.lt_irrefl _ less

/-- Counting among the runs that are found counts the maximal ones. -/
theorem ncard_isMaximalIn_eq (gs : List Grapheme) (p : SignRun → Prop) [DecidablePred p] :
    {run : SignRun | run.IsMaximalIn gs ∧ p run}.ncard = (signRuns gs).countP fun run => p run := by
  have listed : {run : SignRun | run.IsMaximalIn gs ∧ p run} =
      ((signRuns gs).filter fun run => p run).toFinset := by
    ext run
    simp [mem_signRuns_iff]
  rw [listed, Set.ncard_coe_finset, List.toFinset_card_of_nodup ((nodup_signRuns gs).filter _),
    List.countP_eq_length_filter]

/-- The runs that are found later begin later. -/
theorem length_before_le_of_split {gs : List Grapheme} {earlier later : List SignRun}
    {run other : SignRun} (split : signRuns gs = earlier ++ run :: later)
    (behind : other ∈ run :: later) : run.before.length ≤ other.before.length := by
  have ordered : (earlier ++ run :: later).Pairwise
      fun first second => first.before.length < second.before.length := by
    rw [← split]
    exact pairwise_signRunsFrom [] gs 0
  rcases List.mem_cons.mp behind with rfl | found
  · exact Nat.le_refl _
  · have laterRuns := (List.pairwise_append.mp ordered).2.1
    exact Nat.le_of_lt ((List.pairwise_cons.mp laterRuns).1 other found)

/-- Passing over graphemes that are not signs finds no run. -/
theorem signRunsFrom_append {passed : List Grapheme} (ordinary : ∀ g ∈ passed, g ≠ .atSign)
    (before rest : List Grapheme) :
    signRunsFrom before 0 (passed ++ rest) = signRunsFrom (before ++ passed) 0 rest := by
  induction passed generalizing before with
  | nil => simp
  | cons g others ih =>
      obtain ⟨first, later⟩ := List.forall_mem_cons.mp ordinary
      rw [List.cons_append, signRunsFrom, if_neg first, if_pos rfl, ih later, List.append_assoc,
        List.singleton_append]

/-- What the maximal runs say about the result of reading: the first one that offends is the
fault, and if none does, the variables are those that runs introduce. -/
def Judges (file : String) (runs : List SignRun) : Except SyntaxError (List Token) → Prop
  | .ok tokens =>
      (∀ run ∈ runs, ¬ run.Offends) ∧
        tokens.countP (fun token => token.kind = .var) =
          runs.countP (fun run => run.IntroducesName)
  | .error error =>
      ∃ earlier run later next, runs = earlier ++ run :: later ∧
        (∀ other ∈ earlier, ¬ other.Offends) ∧ run.Offends ∧ run.after.head? = some next ∧
        error = .invalidEscape next.text (run.lastSign file)

/-- A run that is used up by pairs does not change the verdict, nor does one at the end. -/
theorem Judges.pass {file : String} {runs : List SignRun}
    {result : Except SyntaxError (List Token)} (judges : Judges file runs result) {run : SignRun}
    (used : ∀ starts, ¬ run.IsOddBefore starts) : Judges file (run :: runs) result := by
  cases result with
  | ok tokens =>
      obtain ⟨harmless, count⟩ := judges
      exact ⟨List.forall_mem_cons.mpr ⟨used false, harmless⟩, by simp [count, used true]⟩
  | error error =>
      obtain ⟨earlier, fault, later, next, rfl, harmless, offends⟩ := judges
      exact ⟨run :: earlier, fault, later, next, rfl,
        List.forall_mem_cons.mpr ⟨used false, harmless⟩, offends⟩

/-- A finished literal leaves no variable. -/
theorem countP_tokens (literal : Literal) :
    literal.tokens.countP (fun token => token.kind = .var) = 0 := by
  rw [Literal.tokens]
  split
  · rfl
  · rfl

/-- A run that introduces a name leaves a variable. -/
theorem Judges.introduce {file : String} {runs : List SignRun}
    {result : Except SyntaxError (List Token)} (judges : Judges file runs result) {run : SignRun}
    (introduces : run.IntroducesName) (literal : Literal) (name : String) (here : Location) :
    Judges file (run :: runs)
      (result.map fun tokens => literal.tokens ++ .var name here :: tokens) := by
  have harmless : ¬ run.Offends := by
    rintro ⟨-, next, first, malformed⟩
    obtain ⟨-, other, sameFirst, starts⟩ := introduces
    cases Option.mem_unique first sameFirst
    rw [starts] at malformed
    cases malformed
  cases result with
  | ok tokens =>
      obtain ⟨others, count⟩ := judges
      refine ⟨List.forall_mem_cons.mpr ⟨harmless, others⟩, ?_⟩
      rw [List.countP_append, countP_tokens]
      simp [count, introduces, Token.var]
  | error error =>
      obtain ⟨earlier, fault, later, next, rfl, others, offends⟩ := judges
      exact ⟨run :: earlier, fault, later, next, rfl,
        List.forall_mem_cons.mpr ⟨harmless, others⟩, offends⟩

/-- The run before a name ends at the sign that introduces it, and the name holds no other. -/
theorem signRunsFrom_variable {next : Grapheme} (starts : next.isIdentifierStart = true)
    (before : List Grapheme) (signs : Nat) (others : List Grapheme) :
    signRunsFrom before signs (.atSign :: next :: others) =
      ⟨before, signs + 1, next :: others⟩ ::
        signRunsFrom (before ++ List.replicate (signs + 1) .atSign ++ nameRun (next :: others)) 0
          (afterName (next :: others)) := by
  have single : next ≠ .atSign :=
    ne_atSign_of_isIdentifierPart (isIdentifierPart_of_isIdentifierStart starts)
  rw [← signRunsFrom_append fun g => ne_atSign_of_mem_nameRun, nameRun_append_afterName]
  simp [signRunsFrom, single]

/-- One sign more than an even number introduces the name behind it. -/
theorem Judges.introduce_even {file : String} {before others : List Grapheme} {next : Grapheme}
    {signs : Nat} {result : Except SyntaxError (List Token)}
    (judges : Judges file
      (signRunsFrom (before ++ List.replicate (signs + 1) .atSign ++ nameRun (next :: others)) 0
        (afterName (next :: others))) result)
    (even : signs % 2 = 0) (starts : next.isIdentifierStart = true) (literal : Literal)
    (name : String) (here : Location) :
    Judges file (signRunsFrom before signs (.atSign :: next :: others))
      (result.map fun tokens => literal.tokens ++ .var name here :: tokens) := by
  rw [signRunsFrom_variable starts]
  apply judges.introduce
  refine ⟨?_, next, rfl, starts⟩
  show (signs + 1) % 2 = 1
  omega

/-- The maximal runs judge the result of reading, when an even number of signs of the open run
has been read. -/
theorem judges_tokensFrom (file : String) (before : List Grapheme) (signs : Nat)
    (even : signs % 2 = 0) (here : Location) (literal : Literal) (gs : List Grapheme)
    (place : here = (Location.start file).afterAll (before ++ List.replicate signs .atSign)) :
    Judges file (signRunsFrom before signs gs) (tokensFrom here literal gs) := by
  fun_induction tokensFrom here literal gs generalizing before signs with
  | case1 here literal =>
      have finished : Judges file [] (.ok literal.tokens) := ⟨by simp, countP_tokens literal⟩
      rw [signRunsFrom]
      split
      · exact finished
      · exact finished.pass (by simp [SignRun.IsOddBefore])
  | case2 here literal =>
      have finished : Judges file [] (.ok (literal.push .atSign).tokens) :=
        ⟨by simp, countP_tokens _⟩
      rw [signRunsFrom, if_pos rfl, signRunsFrom, if_neg (Nat.succ_ne_zero signs)]
      exact finished.pass (by simp [SignRun.IsOddBefore])
  | case3 here literal others ih =>
      rw [signRunsFrom, if_pos rfl, signRunsFrom, if_pos rfl]
      apply ih
      · omega
      · simp [place, List.replicate_succ']
  | case4 here literal next others single starts name tokens behind read ih =>
      rw [read] at ih
      have rest := ih (before ++ List.replicate (signs + 1) .atSign ++ name) 0 rfl
        (by simp [behind, place, List.replicate_succ'])
      exact rest.introduce_even even starts literal (joinText name) here
  | case5 here literal next others single starts name error behind read ih =>
      rw [read] at ih
      have rest := ih (before ++ List.replicate (signs + 1) .atSign ++ name) 0 rfl
        (by simp [behind, place, List.replicate_succ'])
      exact rest.introduce_even even starts literal (joinText name) here
  | case6 here literal next others single malformed =>
      rw [signRunsFrom, if_pos rfl, signRunsFrom, if_neg single, if_neg (Nat.succ_ne_zero signs)]
      refine ⟨[], _, _, next, rfl, by simp, ⟨?_, next, rfl, by simpa using malformed⟩, rfl, ?_⟩
      · show (signs + 1) % 2 = 1
        omega
      · rw [place, Location.afterAll_start]
        rfl
  | case7 here literal g rest ordinary ih =>
      rw [signRunsFrom, if_neg ordinary]
      split
      · rename_i none
        exact ih (before ++ [g]) 0 rfl (by simp [place, none])
      · have later := ih (before ++ List.replicate signs .atSign ++ [g]) 0 rfl (by simp [place])
        exact later.pass (by simp [SignRun.IsOddBefore, even])

/-- The source is read exactly if no run of signs offends. Then each odd run before a name is
a variable; and if some run does offend, the last sign of the first one is the fault. -/
theorem tokenize_signRuns (file source : String) :
    let gs := graphemes source
    ((∃ tokens, tokenize file source = .ok tokens) ↔
        ∀ run : SignRun, run.IsMaximalIn gs → ¬ run.Offends) ∧
      (∀ tokens, tokenize file source = .ok tokens →
        tokens.countP (fun token => token.kind = .var) =
          {run : SignRun | run.IsMaximalIn gs ∧ run.IntroducesName}.ncard) ∧
      ∀ error, tokenize file source = .error error →
        ∃ (run : SignRun) (next : Grapheme), run.IsMaximalIn gs ∧ run.Offends ∧
          (∀ other : SignRun, other.IsMaximalIn gs → other.Offends →
            run.before.length ≤ other.before.length) ∧
          run.after.head? = some next ∧
          error = .invalidEscape next.text (run.lastSign file) := by
  intro gs
  have judges : Judges file (signRuns gs) (tokenize file source) :=
    judges_tokensFrom file [] 0 rfl (.start file) (.startingAt (.start file)) gs rfl
  refine ⟨⟨?_, ?_⟩, ?_, ?_⟩
  · rintro ⟨tokens, read⟩ run maximal
    rw [read] at judges
    exact judges.1 run (mem_signRuns_iff.mpr maximal)
  · intro harmless
    cases read : tokenize file source with
    | ok tokens => exact ⟨tokens, rfl⟩
    | error error =>
        rw [read] at judges
        obtain ⟨earlier, run, later, next, split, -, offends, -⟩ := judges
        have found : run ∈ signRuns gs := by simp [split]
        exact absurd offends (harmless run (mem_signRuns_iff.mp found))
  · intro tokens read
    rw [read] at judges
    rw [judges.2, ncard_isMaximalIn_eq]
  · intro error read
    rw [read] at judges
    obtain ⟨earlier, run, later, next, split, harmless, offends, first, fault⟩ := judges
    have found : run ∈ signRuns gs := by simp [split]
    refine ⟨run, next, mem_signRuns_iff.mp found, offends, ?_, first, fault⟩
    intro other maximal otherOffends
    have listed : other ∈ signRuns gs := mem_signRuns_iff.mpr maximal
    rw [split] at listed
    rcases List.mem_append.mp listed with before | behind
    · exact absurd otherOffends (harmless other before)
    · exact length_before_le_of_split split behind

end HtmlTemplate.Template
