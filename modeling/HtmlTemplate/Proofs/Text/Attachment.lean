/-
# What a base attaches to itself

Markup, digits and most letters are bases: a cluster has one of them at most, and whatever
else is in the cluster is a mark that clings to it, or belongs to a line end. So a grapheme
with a base in it is a letter or a digit on account of something else only if that something
is a letter which clings. Such letters are few, but there are some.

While a text is cut, the context says enough of the open cluster to tell that nothing but
marks can follow a base, and nothing but prepended marks can come before it.
-/

import HtmlTemplate.Proofs.Text.CodePointSet
import HtmlTemplate.Proofs.Text.LineEnds

namespace HtmlTemplate.Text

namespace BreakClass

/-- Whether characters of the class attach to what comes before them. -/
def follows (k : BreakClass) : Bool := k.isExtender || k = .joiner || k = .spacingMark

/-- Whether characters of the class attach to a neighbour, whatever it is. -/
def clings (k : BreakClass) : Bool := k.follows || k = .prependedMark

/-- Whether characters of the class attach to nothing of their own accord. -/
def isBase (k : BreakClass) : Bool := k = .other || k = .control || k.isLineEnd

/-- No base clings. -/
theorem clings_of_isBase {k : BreakClass} (base : k.isBase = true) : k.clings = false := by
  cases k <;> first | rfl | cases base

end BreakClass

/-- A base joins prepended marks only, but for a line feed behind its carriage return. -/
theorem eq_of_joins_isBase {context : ClusterContext} {k : BreakClass}
    (joins : context.joins k = true) (base : k.isBase = true) :
    context.last = .prependedMark ∨ k = .lineFeed := by
  cases ends : k.isLineEnd with
  | true => exact Or.inr (eq_of_joins joins (Or.inr ends)).2
  | false =>
      unfold ClusterContext.joins at joins
      cases k with
      | other =>
          cases last : context.last with
          | prependedMark => exact Or.inl rfl
          | _ =>
              rw [last] at joins
              cases joins
      | control => cases last : context.last <;> rw [last] at joins <;> cases joins
      | carriageReturn | lineFeed => cases ends
      | _ => cases base

/-- A prepended mark joins prepended marks only. -/
theorem eq_of_joins_prependedMark {context : ClusterContext}
    (joins : context.joins .prependedMark = true) : context.last = .prependedMark := by
  unfold ClusterContext.joins at joins
  cases last : context.last with
  | prependedMark => rfl
  | _ =>
      rw [last] at joins
      cases joins

/-- The open cluster ends in a base, or in marks that follow one: neither a pictograph nor a
consonant waits to be joined to another. -/
structure ClusterContext.Calm (context : ClusterContext) : Prop where
  last : context.last.isBase = true ∨ context.last.follows = true
  emoji : context.emoji = .none
  conjunct : context.conjunct = .none

namespace ClusterContext.Calm

/-- Only a mark that follows, or the line feed behind a carriage return, joins such a cluster. -/
theorem follows_of_joins {context : ClusterContext} (calm : context.Calm) {k : BreakClass}
    (joins : context.joins k = true) : k.follows = true ∨ k = .lineFeed := by
  obtain ⟨last, emoji, conjunct⟩ := calm
  unfold ClusterContext.joins at joins
  rw [emoji, conjunct] at joins
  cases ends : context.last <;> rw [ends] at last joins <;> first
    | exact absurd last (by decide)
    | (cases k <;> first
        | exact Or.inl rfl
        | exact Or.inr rfl
        | cases joins)

/-- So it is when a mark that follows has joined. -/
theorem push {context : ClusterContext} (calm : context.Calm) {k : BreakClass}
    (next : k.follows = true) : (context.push k).Calm := by
  obtain ⟨-, emoji, conjunct⟩ := calm
  apply mk (Or.inr next)
  · simp only [ClusterContext.push, emoji]
    cases k <;> first | rfl | cases next
  · simp only [ClusterContext.push, conjunct]
    cases k <;> first | rfl | cases next

end ClusterContext.Calm

/-- So it is when the cluster begins with a base, -/
theorem calm_start {k : BreakClass} (base : k.isBase = true) :
    (ClusterContext.start k).Calm := by
  apply ClusterContext.Calm.mk (Or.inl base)
  · cases k <;> first | rfl | cases base
  · cases k <;> first | rfl | cases base

/-- or when a base has joined it. -/
theorem calm_push {k : BreakClass} (base : k.isBase = true) (context : ClusterContext) :
    (context.push k).Calm := by
  apply ClusterContext.Calm.mk (Or.inl base)
  · cases k <;> first | cases base; done | simp [ClusterContext.push, BreakClass.isExtender]
  · cases k <;> first | cases base; done | simp [ClusterContext.push]

/-- What the context tells of the open cluster: there is no base in it, and if it ends in a
prepended mark then it has only marks that cling; or it has a base to which all the others
cling, but for the line feed behind a carriage return. -/
inductive BaseState (context : ClusterContext) (openCluster : List Char) : Prop where
  | before (last : context.last.isBase = false)
      (without : ∀ d ∈ openCluster, (BreakClass.ofChar d).isBase = false)
      (marks : context.last = .prependedMark →
        ∀ d ∈ openCluster, (BreakClass.ofChar d).clings = true)
  | around (c : Char)
      (others : ∀ d ∈ openCluster, d = c ∨ (BreakClass.ofChar d).clings = true ∨ d = '\n')
      (calm : context.Calm)

/-- The context tells this of a cluster that has just been opened. -/
theorem baseState_start (c : Char) : BaseState (.start (.ofChar c)) [c] := by
  cases base : (BreakClass.ofChar c).isBase with
  | true =>
      apply BaseState.around c _ (calm_start base)
      intro d mem
      exact Or.inl (List.mem_singleton.mp mem)
  | false =>
      apply BaseState.before base
      · intro d mem
        rwa [List.mem_singleton.mp mem]
      · intro mark d mem
        have last : BreakClass.ofChar c = .prependedMark := mark
        rw [List.mem_singleton.mp mem, last]
        rfl

/-- It goes on to do so with each character that joins the cluster. A line feed joins a carriage
return only, which is a base itself. -/
theorem BaseState.push {context : ClusterContext} {openCluster : List Char}
    (state : BaseState context openCluster) {c : Char}
    (joins : context.joins (.ofChar c) = true) :
    BaseState (context.push (.ofChar c)) (c :: openCluster) := by
  cases state with
  | before last without marks =>
      cases base : (BreakClass.ofChar c).isBase with
      | true =>
          rcases eq_of_joins_isBase joins base with mark | feeds
          · apply BaseState.around c _ (calm_push base context)
            intro d mem
            rcases List.mem_cons.mp mem with rfl | earlier
            · exact Or.inl rfl
            · exact Or.inr (Or.inl (marks mark d earlier))
          · rw [feeds] at joins
            rw [(eq_of_joins joins (Or.inr rfl)).1] at last
            cases last
      | false =>
          apply BaseState.before base
          · exact List.forall_mem_cons.mpr ⟨base, without⟩
          · intro mark
            have pushed : BreakClass.ofChar c = .prependedMark := mark
            rw [pushed] at joins
            have clings : (BreakClass.ofChar c).clings = true := by
              rw [pushed]
              rfl
            exact List.forall_mem_cons.mpr ⟨clings, marks (eq_of_joins_prependedMark joins)⟩
  | around first others calm =>
      rcases calm.follows_of_joins joins with follows | feeds
      · apply BaseState.around first _ (calm.push follows)
        have clings : (BreakClass.ofChar c).clings = true := by
          rw [BreakClass.clings, follows, Bool.true_or]
        exact List.forall_mem_cons.mpr ⟨Or.inr (Or.inl clings), others⟩
      · apply BaseState.around first _ (calm_push (by rw [feeds]; rfl) context)
        have feed := BreakClass.eq_of_ofChar_eq_lineFeed feeds
        exact List.forall_mem_cons.mpr ⟨Or.inr (Or.inr feed), others⟩

/-- Whatever else is in the cluster of a base clings to it, or belongs to the same line end. -/
theorem clings_or_isLineEnd {cs cluster : List Char} (cut : cluster ∈ clusters cs) {c d : Char}
    (here : c ∈ cluster) (base : (BreakClass.ofChar c).isBase = true) (there : d ∈ cluster)
    (other : d ≠ c) :
    (BreakClass.ofChar d).clings = true ∨ d = '\r' ∨ d = '\n' := by
  obtain ⟨context, state⟩ := exists_state_of_mem_clusters (fun c => baseState_start c)
    (fun state joins => BaseState.push state joins) cut
  rw [← List.mem_reverse] at here there
  cases state with
  | before last without marks =>
      rw [without c here] at base
      cases base
  | around first others calm =>
      rcases others c here with rfl | clings | rfl
      · rcases others d there with same | clings | feed
        · exact absurd same other
        · exact Or.inl clings
        · exact Or.inr (Or.inr feed)
      · rw [BreakClass.clings_of_isBase base] at clings
        cases clings
      · apply Or.inr
        rw [List.mem_reverse] at here there
        rcases eq_of_lineFeed_mem_clusters cut here with rfl | rfl
        · exact Or.inr (List.mem_singleton.mp there)
        · simpa using there

/-! ## Letters, digits and signs -/

/-- Every decimal digit is a base. -/
theorem isBase_of_decimalDigit {c : Char} (digit : Property.decimalDigit.contains c = true) :
    (BreakClass.ofChar c).isBase = true := by
  have outside : ∀ range ∈ Property.namedRanges, ¬ (range.1 ≤ c.toNat ∧ c.toNat < range.2) :=
    fun range named => Property.outside_namedRanges digit named
  simp only [Property.namedRanges, List.forall_mem_cons] at outside
  obtain ⟨lineEnd, jamo, joiner, leading, hangul, kirat, flag, tone, -⟩ := outside
  have noReturn : c ≠ '\r' := by
    rintro rfl
    exact lineEnd (by decide)
  have noFeed : c ≠ '\n' := by
    rintro rfl
    exact lineEnd (by decide)
  have noNonJoiner : c ≠ '\u200c' := by
    rintro rfl
    exact joiner (by decide)
  have noJoiner : c ≠ '\u200d' := by
    rintro rfl
    exact joiner (by decide)
  have noHangul : BreakClass.ofHangul? c.toNat = none := by
    rw [BreakClass.ofHangul?, if_neg (by omega), if_neg (by omega), if_neg (by omega),
      if_neg (by omega)]
  have noFlag : BreakClass.isRegionalIndicator c.toNat = false := by
    simp only [BreakClass.isRegionalIndicator, Bool.and_eq_false_iff, decide_eq_false_iff_not]
    omega
  have noTone : BreakClass.isSkinTone c.toNat = false := by
    simp only [BreakClass.isSkinTone, Bool.and_eq_false_iff, decide_eq_false_iff_not]
    omega
  have attaches : ∀ set ∈ Property.attachments, set.contains c = false := by
    intro set listed
    exact Property.contains_eq_false_of_decimalDigit digit (List.mem_cons_of_mem _ listed)
  simp only [Property.attachments, List.forall_mem_cons] at attaches
  simp [BreakClass.ofChar, noReturn, noFeed, noNonJoiner, noJoiner, noHangul, noFlag, noTone,
    attaches, BreakClass.isBase]

/-- What holds of the first 128 characters holds of every character of markup. -/
theorem forall_ascii {P : Char → Prop} (checked : ∀ n : Fin 128, P (Char.ofNat n)) {c : Char}
    (ascii : c.toNat < 128) : P c := by
  have here := checked ⟨c.toNat, ascii⟩
  rwa [Char.ofNat_toNat] at here

/-- Every character of markup is a base. -/
theorem isBase_of_ascii {c : Char} (ascii : c.toNat < 128) :
    (BreakClass.ofChar c).isBase = true := by
  apply forall_ascii _ ascii
  decide +kernel

/-- The letters and digits among the characters of markup are the Latin and European ones. -/
theorem isAlphanum_of_ascii {c : Char} (ascii : c.toNat < 128)
    (word : Property.letter.contains c = true ∨ Property.decimalDigit.contains c = true) :
    c.isAlphanum = true := by
  have checked : ∀ n : Fin 128, Property.letter.contains (Char.ofNat n) = true ∨
      Property.decimalDigit.contains (Char.ofNat n) = true → (Char.ofNat n).isAlphanum = true := by
    decide +kernel
  exact forall_ascii (P := fun c => Property.letter.contains c = true ∨
    Property.decimalDigit.contains c = true → c.isAlphanum = true) checked ascii word

namespace Grapheme

/-- Only letters that cling to a neighbour make the grapheme a letter. -/
def IsLetterByMark (g : Grapheme) : Prop :=
  g.isLetter = true ∧ ∀ l ∈ g.chars, Property.letter.contains l = true →
    (BreakClass.ofChar l).clings = true

instance (g : Grapheme) : Decidable g.IsLetterByMark :=
  inferInstanceAs (Decidable (_ ∧ ∀ l ∈ g.chars, _ → _))

section Base

variable {text : String} {g : Grapheme} {c : Char}

/-- Nothing else in the grapheme of a base is a letter that does not cling, or a digit. -/
theorem eq_base {d : Char} (cut : g ∈ graphemes text) (here : c ∈ g.chars)
    (base : (BreakClass.ofChar c).isBase = true) (there : d ∈ g.chars)
    (word : Property.letter.contains d = true ∨ Property.decimalDigit.contains d = true)
    (solid : (BreakClass.ofChar d).clings = false) : d = c := by
  by_contra other
  obtain ⟨cluster, mem, rfl⟩ := List.mem_map.mp cut
  rcases clings_or_isLineEnd mem here base there other with clings | rfl | rfl
  · rw [solid] at clings
    cases clings
  · revert word
    decide +kernel
  · revert word
    decide +kernel

/-- The base of a letter is a letter, unless the letter is one by its marks only. -/
theorem letter_of_isBase (cut : g ∈ graphemes text) (here : c ∈ g.chars)
    (base : (BreakClass.ofChar c).isBase = true) (letter : g.isLetter = true)
    (plain : ¬ g.IsLetterByMark) : Property.letter.contains c = true := by
  obtain ⟨l, there, isLetter, solid⟩ : ∃ l ∈ g.chars, Property.letter.contains l = true ∧
      (BreakClass.ofChar l).clings = false := by
    by_contra none
    apply plain
    apply And.intro letter
    intro l mem isLetter
    by_contra solid
    exact none ⟨l, mem, isLetter, Bool.eq_false_iff.mpr solid⟩
  obtain rfl := eq_base cut here base there (Or.inl isLetter) solid
  exact isLetter

/-- The base of a digit is a digit. -/
theorem decimalDigit_of_isBase (cut : g ∈ graphemes text) (here : c ∈ g.chars)
    (base : (BreakClass.ofChar c).isBase = true) (digit : g.isDigit = true) :
    Property.decimalDigit.contains c = true := by
  obtain ⟨d, there, isDigit⟩ := List.any_eq_true.mp digit
  have solid := BreakClass.clings_of_isBase (isBase_of_decimalDigit isDigit)
  obtain rfl := eq_base cut here base there (Or.inr isDigit) solid
  exact isDigit

/-- No character of markup but letters, digits and underscores is in a grapheme of a name, unless
the grapheme is a letter by its marks only. -/
theorem isAlphanum_of_isIdentifierPart (cut : g ∈ graphemes text)
    (part : g.isIdentifierPart = true) (plain : ¬ g.IsLetterByMark) (here : c ∈ g.chars)
    (ascii : c.toNat < 128) : c.isAlphanum = true ∨ c = '_' := by
  have base := isBase_of_ascii ascii
  rw [isIdentifierPart, isIdentifierStart, Bool.or_eq_true, Bool.or_eq_true,
    decide_eq_true_eq] at part
  rcases part with (letter | rfl) | digit
  · have isLetter := letter_of_isBase cut here base letter plain
    exact Or.inl (isAlphanum_of_ascii ascii (Or.inl isLetter))
  · exact Or.inr (List.mem_singleton.mp here)
  · have isDigit := decimalDigit_of_isBase cut here base digit
    exact Or.inl (isAlphanum_of_ascii ascii (Or.inr isDigit))

/-- No decimal digit is in a grapheme that starts a name, unless the grapheme is a letter by its
marks only. -/
theorem decimalDigit_notMem_of_isIdentifierStart (cut : g ∈ graphemes text)
    (starts : g.isIdentifierStart = true) (plain : ¬ g.IsLetterByMark) (here : c ∈ g.chars) :
    Property.decimalDigit.contains c = false := by
  rw [Bool.eq_false_iff]
  intro digit
  rw [isIdentifierStart, Bool.or_eq_true, decide_eq_true_eq] at starts
  rcases starts with letter | rfl
  · have isLetter := letter_of_isBase cut here (isBase_of_decimalDigit digit) letter plain
    rw [Property.contains_eq_false_of_decimalDigit digit List.mem_cons_self] at isLetter
    cases isLetter
  · obtain rfl := List.mem_singleton.mp here
    revert digit
    decide +kernel

end Base

end Grapheme

end HtmlTemplate.Text
