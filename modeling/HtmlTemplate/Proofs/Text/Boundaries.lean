/-
# Where a text is cut

The rules of segmentation say where a text is not cut, and they look at everything before the
place in question: how many regional indicators stand there in a row, whether a pictograph and
a joiner do, whether two consonants are linked. While a text is cut, only a small context of
this is kept, and it starts afresh with every cluster.

Here the rules are written down for the whole text before a place. The context says as much of
that text as the rules ask for, whether or not there were cuts in it: what starts afresh after
a cut would have been the same without it. So the cuts are those of the rules. For the same
reason a cluster that is taken out of its text is not cut anywhere, whatever stood around it.
-/

import HtmlTemplate.Proofs.Text.Attachment
import Mathlib.Data.List.DropRight
import Mathlib.Algebra.Ring.Parity

namespace HtmlTemplate.Text

/-! ## The rules -/

namespace BreakClass

/-- Whether there is a cut on both sides of the class, but for a line feed behind its carriage
return. -/
def standsApart (k : BreakClass) : Bool := k = .control || k.isLineEnd

/-- Marks that may come between the consonants of a conjunct. -/
def isConjunctMark (k : BreakClass) : Bool := k = .extender || k = .linker || k = .joiner

/-- Whether two parts of a Hangul syllable may follow one another. -/
def continuesSyllable : BreakClass → BreakClass → Bool
  | .leadingJamo, next =>
      next = .leadingJamo || next = .vowelJamo || next = .openSyllable || next = .closedSyllable
  | .openSyllable, next | .vowelJamo, next => next = .vowelJamo || next = .trailingJamo
  | .closedSyllable, next | .trailingJamo, next => next = .trailingJamo
  | _, _ => false

end BreakClass

/-- The text ends in a beginning of some kind, a character of class `k`, and marks behind it. -/
def EndsIn (begins : List BreakClass → Prop) (k : BreakClass) (isMark : BreakClass → Bool)
    (before : List BreakClass) : Prop :=
  ∃ front marks, before = front ++ k :: marks ∧ begins front ∧ ∀ mark ∈ marks, isMark mark = true

/-- The text ends in a consonant and marks behind it. -/
def EndsInConsonant : List BreakClass → Prop :=
  EndsIn (fun _ => True) .consonant BreakClass.isConjunctMark

/-- The text ends in a consonant and marks behind it, one of which is a linker. -/
def EndsInLinkedConsonant : List BreakClass → Prop :=
  EndsIn EndsInConsonant .linker BreakClass.isConjunctMark

/-- The text ends in a pictograph, perhaps with extenders behind it. -/
def EndsInPictograph : List BreakClass → Prop :=
  EndsIn (fun _ => True) .pictographic BreakClass.isExtender

/-- The text ends in a pictograph, perhaps with extenders, and a joiner. -/
def EndsInJoinedPictograph : List BreakClass → Prop :=
  EndsIn EndsInPictograph .joiner fun _ => false

/-- The regional indicators that the text ends in are odd in number. -/
def EndsInUnpairedIndicator (before : List BreakClass) : Prop :=
  Odd (before.rtakeWhile fun k => k = .regionalIndicator).length

/-- Why a character of the given class belongs to the text before it. -/
inductive Attaches (before : List BreakClass) : BreakClass → Prop where
  | syllable {last next : BreakClass} (ends : before.getLast? = some last)
      (continues : last.continuesSyllable next = true) : Attaches before next
  | mark {next : BreakClass} (follows : next.follows = true) : Attaches before next
  | prepended {next : BreakClass} (ends : before.getLast? = some .prependedMark) :
      Attaches before next
  | conjunct (ends : EndsInLinkedConsonant before) : Attaches before .consonant
  | emoji (ends : EndsInJoinedPictograph before) : Attaches before .pictographic
  | flag (ends : EndsInUnpairedIndicator before) : Attaches before .regionalIndicator

/-- The rules put no cut between the text and a character of the given class. -/
inductive Unbroken (before : List BreakClass) : BreakClass → Prop where
  | lineEnd (ends : before.getLast? = some .carriageReturn) : Unbroken before .lineFeed
  | attached {last next : BreakClass} (ends : before.getLast? = some last)
      (solid : last.standsApart = false) (nextSolid : next.standsApart = false)
      (attaches : Attaches before next) : Unbroken before next

/-! ## What the context says of the text before -/

section Ends

variable {before : List BreakClass} {k : BreakClass}

/-- One more character is the one in question, or a mark behind it. -/
theorem endsIn_concat {begins : List BreakClass → Prop} {base : BreakClass}
    {isMark : BreakClass → Bool} :
    EndsIn begins base isMark (before ++ [k]) ↔
      k = base ∧ begins before ∨ isMark k = true ∧ EndsIn begins base isMark before := by
  constructor
  · rintro ⟨front, marks, same, holds, all⟩
    rcases List.eq_nil_or_concat marks with rfl | ⟨marks, mark, rfl⟩
    · obtain ⟨rfl, last⟩ := List.append_inj' same rfl
      exact Or.inl ⟨List.singleton_inj.mp last, holds⟩
    · rw [List.concat_eq_append] at same all
      rw [← List.cons_append, ← List.append_assoc] at same
      obtain ⟨rfl, last⟩ := List.append_inj' same rfl
      obtain rfl := List.singleton_inj.mp last
      have earlier (mark : BreakClass) (mem : mark ∈ marks) : isMark mark = true :=
        all mark (List.mem_append_left _ mem)
      exact Or.inr ⟨all k (by simp), front, marks, rfl, holds, earlier⟩
  · rintro (⟨rfl, holds⟩ | ⟨here, front, marks, rfl, holds, all⟩)
    · exact ⟨before, [], rfl, holds, nofun⟩
    · refine ⟨front, marks ++ [k], by simp, holds, ?_⟩
      exact List.forall_mem_append.mpr ⟨all, by simpa using here⟩

/-- One more regional indicator makes an odd number even and an even number odd. -/
theorem endsInUnpairedIndicator_concat :
    EndsInUnpairedIndicator (before ++ [k]) ↔
      k = .regionalIndicator ∧ ¬ EndsInUnpairedIndicator before := by
  unfold EndsInUnpairedIndicator
  by_cases indicator : k = .regionalIndicator
  · rw [List.rtakeWhile_concat_pos _ _ _ (by simpa using indicator), List.length_append,
      List.length_singleton, Nat.odd_add_one]
    exact (and_iff_right indicator).symm
  · rw [List.rtakeWhile_concat_neg _ _ _ (by simpa using indicator)]
    exact iff_of_false (by decide) fun both => indicator both.1

end Ends

/-- The context says of the text before a place what the rules ask. -/
structure ClusterContext.Summarizes (context : ClusterContext) (before : List BreakClass) :
    Prop where
  last : before.getLast? = some context.last
  unpaired : context.unpairedIndicator = true ↔ EndsInUnpairedIndicator before
  pictograph : context.emoji = .pictograph ↔ EndsInPictograph before
  joined : context.emoji = .joined ↔ EndsInJoinedPictograph before
  consonant : context.conjunct ≠ .none ↔ EndsInConsonant before
  linked : context.conjunct = .linked ↔ EndsInLinkedConsonant before

namespace ClusterContext

variable {context : ClusterContext} {before : List BreakClass} {k : BreakClass}

/-- What the context says of a text that goes on. -/
theorem Summarizes.push (summarizes : context.Summarizes before) (k : BreakClass) :
    (context.push k).Summarizes (before ++ [k]) := by
  obtain ⟨-, unpaired, pictograph, joined, consonant, linked⟩ := summarizes
  constructor
  case last => exact List.getLast?_concat
  case unpaired =>
    rw [endsInUnpairedIndicator_concat, ← unpaired]
    simp [ClusterContext.push]
  case pictograph =>
    rw [EndsInPictograph, endsIn_concat, ← EndsInPictograph, ← pictograph]
    cases k <;> grind [ClusterContext.push, BreakClass.isExtender]
  case joined =>
    rw [EndsInJoinedPictograph, endsIn_concat, ← pictograph]
    cases k <;> grind [ClusterContext.push, BreakClass.isExtender]
  case consonant =>
    rw [EndsInConsonant, endsIn_concat, ← EndsInConsonant, ← consonant]
    cases k <;> grind [ClusterContext.push, BreakClass.isConjunctMark]
  case linked =>
    rw [EndsInLinkedConsonant, endsIn_concat, ← EndsInLinkedConsonant, ← consonant, ← linked]
    cases k <;> grind [ClusterContext.push, BreakClass.isConjunctMark]

/-- What the context says of one character. -/
theorem summarizes_start (k : BreakClass) : (start k).Summarizes [k] := by
  have nothing {begins : List BreakClass → Prop} {base : BreakClass}
      {isMark : BreakClass → Bool} : ¬ EndsIn begins base isMark [] := by
    rintro ⟨front, marks, same, -⟩
    simp at same
  have even : ¬ EndsInUnpairedIndicator [] := by
    simp [EndsInUnpairedIndicator]
  rw [← List.nil_append [k]]
  constructor
  case last => exact List.getLast?_concat
  case unpaired =>
    rw [endsInUnpairedIndicator_concat]
    simp [start, even]
  case pictograph =>
    rw [EndsInPictograph, endsIn_concat]
    cases k <;> simp [start, nothing]
  case joined =>
    rw [EndsInJoinedPictograph, endsIn_concat, EndsInPictograph]
    cases k <;> simp [start, nothing]
  case consonant =>
    rw [EndsInConsonant, endsIn_concat]
    cases k <;> simp [start, nothing]
  case linked =>
    rw [EndsInLinkedConsonant, endsIn_concat, EndsInConsonant]
    cases k <;> simp [start, nothing]

/-- Whether a character joins, rule by rule. -/
theorem joins_iff :
    context.joins k = true ↔
      context.last = .carriageReturn ∧ k = .lineFeed ∨
        context.last.standsApart = false ∧ k.standsApart = false ∧
          (context.last.continuesSyllable k = true ∨ k.follows = true ∨
            context.last = .prependedMark ∨
            k = .consonant ∧ context.conjunct = .linked ∨
            k = .pictographic ∧ context.emoji = .joined ∨
            k = .regionalIndicator ∧ context.last = .regionalIndicator ∧
              context.unpairedIndicator = true) := by
  obtain ⟨last, unpaired, emoji, conjunct⟩ := context
  cases last <;> cases k <;> simp [joins, BreakClass.standsApart, BreakClass.isLineEnd,
    BreakClass.continuesSyllable, BreakClass.follows, BreakClass.isExtender]

/-- What can still be joined is named by the last character or by marks behind it. -/
theorem Summarizes.pending (summarizes : context.Summarizes before) :
    (context.unpairedIndicator = true → context.last = .regionalIndicator) ∧
      (context.emoji ≠ .none → context.last = .pictographic ∨ context.last.follows = true) ∧
        (context.conjunct ≠ .none → context.last = .consonant ∨ context.last.follows = true) := by
  obtain ⟨last, unpaired, pictograph, joined, consonant, -⟩ := summarizes
  obtain ⟨front, rfl⟩ : ∃ front, before = front ++ [context.last] :=
    List.getLast?_eq_some_iff.mp last
  rw [endsInUnpairedIndicator_concat] at unpaired
  rw [EndsInPictograph, endsIn_concat] at pictograph
  rw [EndsInJoinedPictograph, endsIn_concat] at joined
  rw [EndsInConsonant, endsIn_concat] at consonant
  refine ⟨fun odd => (unpaired.mp odd).1, ?_, ?_⟩
  · intro started
    cases emoji : context.emoji with
    | none => exact absurd emoji started
    | pictograph =>
        rcases pictograph.mp emoji with ⟨base, -⟩ | ⟨extender, -⟩
        · exact Or.inl base
        · exact Or.inr (by rw [BreakClass.follows, extender]; rfl)
    | joined =>
        rcases joined.mp emoji with ⟨joiner, -⟩ | ⟨none, -⟩
        · exact Or.inr (by rw [joiner]; rfl)
        · cases none
  · intro started
    rcases consonant.mp started with ⟨base, -⟩ | ⟨mark, -⟩
    · exact Or.inl base
    · apply Or.inr
      simp only [BreakClass.isConjunctMark, Bool.or_eq_true, decide_eq_true_eq] at mark
      rcases mark with (mark | mark) | mark <;> rw [mark] <;> rfl

/-- The context that starts afresh behind a cut is what it would have been without the cut. A mark
is cut off only from a control or a line end, where nothing is pending. -/
theorem Summarizes.start_eq_push (summarizes : context.Summarizes before)
    (cut : context.joins k = false) : start k = context.push k := by
  obtain ⟨indicator, emoji, conjunct⟩ := summarizes.pending
  rw [← Bool.not_eq_true, joins_iff] at cut
  have unpaired : k = .regionalIndicator → context.unpairedIndicator = false := by
    rintro rfl
    by_contra odd
    have odd : context.unpairedIndicator = true := by simpa using odd
    have last := indicator odd
    exact cut (by simp [last, odd, BreakClass.standsApart, BreakClass.isLineEnd])
  have still : k.follows = true → context.emoji = .none ∧ context.conjunct = .none := by
    intro follows
    by_contra some
    have solid : context.last.standsApart = false := by
      grind [BreakClass.standsApart, BreakClass.isLineEnd, BreakClass.follows,
        BreakClass.isExtender]
    have markSolid : k.standsApart = false := by
      cases k <;> first | rfl | cases follows
    exact cut (Or.inr ⟨solid, markSolid, Or.inr (Or.inl follows)⟩)
  cases k <;> simp_all [ClusterContext.start, ClusterContext.push, BreakClass.isExtender,
    BreakClass.follows]

/-- So it summarizes the whole text before, and not only the open cluster. -/
theorem Summarizes.afresh (summarizes : context.Summarizes before)
    (cut : context.joins k = false) : (start k).Summarizes (before ++ [k]) := by
  rw [summarizes.start_eq_push cut]
  exact summarizes.push k

/-- A character joins the open cluster exactly where the rules put no cut before it. -/
theorem Summarizes.joins_iff_unbroken (summarizes : context.Summarizes before) :
    context.joins k = true ↔ Unbroken before k := by
  have odd : context.last = .regionalIndicator ∧ context.unpairedIndicator = true ↔
      EndsInUnpairedIndicator before := by
    rw [← summarizes.unpaired]
    exact and_iff_right_of_imp summarizes.pending.1
  rw [joins_iff, summarizes.linked, summarizes.joined, odd]
  constructor
  · rintro (⟨ends, rfl⟩ | ⟨solid, nextSolid, attaches⟩)
    · exact .lineEnd (by rw [summarizes.last, ends])
    · apply Unbroken.attached summarizes.last solid nextSolid
      rcases attaches with continues | follows | prepended | ⟨rfl, ends⟩ | ⟨rfl, ends⟩ | ⟨rfl, ends⟩
      · exact .syllable summarizes.last continues
      · exact .mark follows
      · exact .prepended (by rw [summarizes.last, prepended])
      · exact .conjunct ends
      · exact .emoji ends
      · exact .flag ends
  · intro unbroken
    cases unbroken with
    | lineEnd ends => exact Or.inl ⟨Option.some.inj (summarizes.last.symm.trans ends), rfl⟩
    | attached ends solid nextSolid attaches =>
        obtain rfl := Option.some.inj (summarizes.last.symm.trans ends)
        refine Or.inr ⟨solid, nextSolid, ?_⟩
        cases attaches with
        | syllable ends continues =>
            obtain rfl := Option.some.inj (summarizes.last.symm.trans ends)
            exact Or.inl continues
        | mark follows => exact Or.inr (Or.inl follows)
        | prepended ends =>
            exact Or.inr (Or.inr (Or.inl (Option.some.inj (summarizes.last.symm.trans ends))))
        | conjunct ends => exact Or.inr (Or.inr (Or.inr (Or.inl ⟨rfl, ends⟩)))
        | emoji ends => exact Or.inr (Or.inr (Or.inr (Or.inr (Or.inl ⟨rfl, ends⟩))))
        | flag ends => exact Or.inr (Or.inr (Or.inr (Or.inr (Or.inr ⟨rfl, ends⟩))))

end ClusterContext

/-! ## The cuts -/

open ClusterContext

/-- A list of pieces may be cut so that the first ones make up the beginning. -/
def IsCutBehind (left : List Char) (pieces : List (List Char)) : Prop :=
  ∃ first others, pieces = first ++ others ∧ first.flatten = left

/-- Behind the first piece there is a cut, and further cuts are those of the other pieces. -/
theorem isCutBehind_cons {piece left : List Char} {pieces : List (List Char)}
    (filled : piece ≠ []) :
    IsCutBehind (piece ++ left) (piece :: pieces) ↔ IsCutBehind left pieces := by
  constructor
  · rintro ⟨first, others, same, whole⟩
    cases first with
    | nil => simp [filled] at whole
    | cons head later =>
        obtain ⟨rfl, rfl⟩ := List.cons.inj same
        exact ⟨later, others, rfl, by simpa using whole⟩
  · rintro ⟨first, others, rfl, rfl⟩
    exact ⟨piece :: first, others, rfl, rfl⟩

/-- There is no cut inside the first piece. -/
theorem not_isCutBehind_of_longer {left more : List Char} {pieces : List (List Char)}
    (filled : left ≠ []) (longer : more ≠ []) : ¬ IsCutBehind left ((left ++ more) :: pieces) := by
  rintro ⟨first, others, same, whole⟩
  cases first with
  | nil => exact filled whole.symm
  | cons head later =>
      obtain ⟨rfl, rfl⟩ := List.cons.inj same
      simp [longer] at whole

/-- Where cuts are put behind an open cluster, they are put by the rules. -/
theorem isCutBehind_clustersFrom_iff {context : ClusterContext} {before : List BreakClass}
    {openCluster left right : List Char} {c : Char} (summarizes : context.Summarizes before)
    (filled : openCluster ≠ []) :
    IsCutBehind (openCluster.reverse ++ left)
        (clustersFrom context openCluster (left ++ c :: right)) ↔
      ¬ Unbroken (before ++ left.map BreakClass.ofChar) (.ofChar c) := by
  have filledToo : openCluster.reverse ≠ [] := by simpa using filled
  induction left generalizing context before openCluster with
  | nil =>
      rw [List.nil_append, List.map_nil, List.append_nil, List.append_nil,
        ← summarizes.joins_iff_unbroken, clustersFrom]
      split
      · rename_i joins
        obtain ⟨joined, others, begins⟩ := exists_clustersFrom_eq_cons
          (context.push (.ofChar c)) (c :: openCluster) right
        rw [begins, List.reverse_cons, List.append_assoc]
        exact iff_of_false (not_isCutBehind_of_longer filledToo (by simp)) (not_not_intro joins)
      · rename_i apart
        exact iff_of_true ⟨[openCluster.reverse], _, rfl, by simp⟩ apart
  | cons d left ih =>
      have next : before ++ (d :: left).map BreakClass.ofChar =
          (before ++ [.ofChar d]) ++ left.map BreakClass.ofChar := by simp
      rw [List.cons_append, clustersFrom, next]
      split
      · have grown : openCluster.reverse ++ d :: left = (d :: openCluster).reverse ++ left := by
          simp
        rw [grown]
        exact ih (summarizes.push _) (by simp) (by simp)
      · rename_i apart
        rw [isCutBehind_cons filledToo]
        exact ih (summarizes.afresh (by simpa using apart)) (by simp) (by simp)

/-- The clusters of a text are cut where the rules put a cut, and nowhere else. -/
theorem isCutBehind_clusters_iff {left right : List Char} {c : Char} (filled : left ≠ []) :
    IsCutBehind left (clusters (left ++ c :: right)) ↔
      ¬ Unbroken (left.map BreakClass.ofChar) (.ofChar c) := by
  cases left with
  | nil => exact absurd rfl filled
  | cons first left =>
      exact isCutBehind_clustersFrom_iff (summarizes_start (.ofChar first))
        (List.cons_ne_nil first [])

/-! ## Graphemes on their own -/

namespace Grapheme

/-- A grapheme of a text, taken out of it, is one grapheme. -/
theorem graphemes_text {text : String} {g : Grapheme} (cut : g ∈ graphemes text) :
    graphemes g.text = [g] := by
  obtain ⟨before, behind, split⟩ := List.append_of_mem cut
  have among : graphemes text = before ++ ([g] ++ behind) := split
  have alone := graphemes_of_append among
  rwa [List.flatMap_singleton] at alone

/-- What is not one grapheme is refused with the number of its graphemes. -/
theorem ofText_eq_error {text : String} (several : (graphemes text).length ≠ 1) :
    ofText text = .error ⟨text, (graphemes text).length⟩ := by
  unfold ofText
  split
  · rename_i g single
    simp [single] at several
  · rfl

end Grapheme

/-- The graphemes of a text are the pieces that the rules cut it into: none is empty, and in order
they are the text. Each of them on its own is accepted as one grapheme, whatever stood before or
behind it. A text that is not one piece is refused, and the report counts its pieces. -/
theorem graphemes_standAlone (text : String) :
    (∀ left c right, left ≠ [] → text.toList = left ++ c :: right →
      (IsCutBehind left ((graphemes text).map Grapheme.chars) ↔
        ¬ Unbroken (left.map BreakClass.ofChar) (.ofChar c))) ∧
    String.join ((graphemes text).map Grapheme.text) = text ∧
    (∀ g ∈ graphemes text,
      g.text ≠ "" ∧ isSingleGrapheme g.text = true ∧ Grapheme.ofText g.text = .ok g) ∧
    (isSingleGrapheme text = false →
      Grapheme.ofText text = .error ⟨text, (graphemes text).length⟩) := by
  refine ⟨?_, ?_, ?_, ?_⟩
  · intro left c right filled whole
    have pieces : (graphemes text).map Grapheme.chars = clusters (left ++ c :: right) := by
      rw [graphemes, List.map_map, whole]
      exact List.map_id _
    rw [pieces, isCutBehind_clusters_iff filled]
  · apply String.toList_inj.mp
    rw [String.toList_join, List.flatMap_map]
    simpa only [Grapheme.text, String.toList_ofList] using flatMap_chars_graphemes text
  · intro g cut
    have alone := Grapheme.graphemes_text cut
    refine ⟨?_, ?_, ?_⟩
    · intro empty
      rw [empty] at alone
      cases alone
    · rw [isSingleGrapheme, alone]
      rfl
    · rw [Grapheme.ofText, alone]
  · intro several
    exact Grapheme.ofText_eq_error (of_decide_eq_false several)

/-- A conjunct of two consonants is not cut between them, and it is a grapheme of its own; with
one more consonant there are two. -/
theorem graphemes_standAlone_conjunct :
    let text := "\u0915\u094d\u0937\u0915"
    let conjunct : Grapheme := ⟨['\u0915', '\u094d', '\u0937']⟩
    (text.toList = ['\u0915', '\u094d'] ++ '\u0937' :: ['\u0915'] ∧
      Unbroken [.consonant, .linker] .consonant ∧
      ¬ IsCutBehind ['\u0915', '\u094d'] ((graphemes text).map Grapheme.chars)) ∧
    (conjunct ∈ graphemes text ∧ Grapheme.ofText conjunct.text = .ok conjunct) ∧
    isSingleGrapheme text = false ∧ Grapheme.ofText text = .error ⟨text, 2⟩ := by
  intro text conjunct
  obtain ⟨cuts, -, alone, counted⟩ := graphemes_standAlone text
  have whole : text.toList = ['\u0915', '\u094d'] ++ '\u0937' :: ['\u0915'] := by decide +kernel
  have classes : ['\u0915', '\u094d'].map BreakClass.ofChar = [.consonant, .linker] ∧
      BreakClass.ofChar '\u0937' = .consonant := by
    decide +kernel
  have linked : EndsInLinkedConsonant [.consonant, .linker] :=
    ⟨[.consonant], [], rfl, ⟨[], [], rfl, trivial, nofun⟩, nofun⟩
  have unbroken : Unbroken [.consonant, .linker] .consonant :=
    .attached rfl rfl rfl (.conjunct linked)
  have cut := cuts _ _ _ (List.cons_ne_nil _ _) whole
  rw [classes.1, classes.2] at cut
  have mem : conjunct ∈ graphemes text := by decide +kernel
  have several : isSingleGrapheme text = false := by decide +kernel
  have two : (graphemes text).length = 2 := by decide +kernel
  have refused := counted several
  rw [two] at refused
  exact ⟨⟨whole, unbroken, fun here => cut.mp here unbroken⟩, ⟨mem, (alone _ mem).2.2⟩,
    several, refused⟩

end HtmlTemplate.Text
