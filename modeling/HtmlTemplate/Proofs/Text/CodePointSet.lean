/-
# Sets of code points as ranges

The binary search counts the changes of membership at or below a code point, so a code point
is in a set exactly when one of the ranges between a change and the next holds it. Two sets
whose ranges lie apart have no character in common; that is decided once for the tables, and
it is how decimal digits are told from letters and from everything that attaches to others.
-/

import HtmlTemplate.Text.Grapheme
import Mathlib.Data.List.Chain

namespace HtmlTemplate.Text

namespace CodePointSet

/-- Whether the changes increase, and come in pairs: the set begins and ends. -/
def IsRegular (set : CodePointSet) : Prop :=
  set.changes.toList.IsChain (· < ·) ∧ set.changes.size % 2 = 0

instance (set : CodePointSet) : Decidable set.IsRegular :=
  inferInstanceAs (Decidable (_ ∧ _))

/-- The ranges that begin at one change and stop short of the next. -/
def rangesFrom : List Nat → List (Nat × Nat)
  | first :: behind :: rest => (first, behind) :: rangesFrom rest
  | _ => []

/-- The ranges that make up a set. -/
def ranges (set : CodePointSet) : List (Nat × Nat) := rangesFrom set.changes.toList

/-- Two neighbouring changes, the first at an even place, bound a range. -/
theorem mem_rangesFrom {changes : List Nat} {place first behind : Nat}
    (opened : changes[2 * place]? = some first)
    (closed : changes[2 * place + 1]? = some behind) :
    (first, behind) ∈ rangesFrom changes := by
  induction changes using rangesFrom.induct generalizing place with
  | case1 a b rest ih =>
      cases place with
      | zero =>
          cases opened
          cases closed
          exact List.mem_cons_self
      | succ place =>
          have begins : rest[2 * place]? = some first := by simpa [Nat.mul_succ] using opened
          have ends : rest[2 * place + 1]? = some behind := by simpa [Nat.mul_succ] using closed
          exact List.mem_cons_of_mem _ (ih begins ends)
  | case2 changes short =>
      match changes, short with
      | [], _ => cases closed
      | [_], _ => cases closed
      | _ :: _ :: _, short => exact absurd rfl (short _ _ _)

/-- A place among the changes that has those up to a code point before it, and the others
behind it. -/
structure Divides (changes : Array Nat) (code place : Nat) : Prop where
  upTo : ∀ i < place, ∃ change, changes[i]? = some change ∧ change ≤ code
  above : ∀ i change, place ≤ i → changes[i]? = some change → code < change

/-- Increasing changes stand in the order of their places. -/
theorem lt_of_increasing {changes : Array Nat} (increasing : changes.toList.IsChain (· < ·))
    {i j first second : Nat} (here : changes[i]? = some first) (there : changes[j]? = some second)
    (before : i < j) : first < second := by
  rw [← Array.getElem?_toList, List.getElem?_eq_some_iff] at here there
  obtain ⟨within, rfl⟩ := here
  obtain ⟨inside, rfl⟩ := there
  exact List.pairwise_iff_getElem.mp (List.isChain_iff_pairwise.mp increasing) i j within inside
    before

/-- The search ends where the changes are divided. If the middle one is at or below the code point,
so are all before it, and otherwise all behind it are above. -/
theorem divides_narrow {changes : Array Nat} (increasing : changes.toList.IsChain (· < ·))
    {code steps low high : Nat}
    (upTo : ∀ i < low, ∃ change, changes[i]? = some change ∧ change ≤ code)
    (above : ∀ i change, high ≤ i → changes[i]? = some change → code < change)
    (ordered : low ≤ high) (bounded : high ≤ changes.size) (enough : high - low ≤ steps) :
    Divides changes code (narrow changes code steps low high) := by
  induction steps generalizing low high with
  | zero =>
      obtain rfl : low = high := by omega
      exact ⟨upTo, above⟩
  | succ steps ih =>
      rw [narrow]
      split
      · have inside : (low + high) / 2 < changes.size := by omega
        obtain ⟨middle, found⟩ : ∃ middle, changes[(low + high) / 2]? = some middle :=
          ⟨_, Array.getElem?_eq_getElem inside⟩
        have read : changes.getD ((low + high) / 2) 0 = middle := by
          rw [Array.getD_eq_getD_getElem?, found, Option.getD_some]
        simp only [read]
        split
        · rename_i below
          apply ih _ above (by omega) bounded (by omega)
          intro i before
          obtain ⟨change, here⟩ : ∃ change, changes[i]? = some change :=
            ⟨_, Array.getElem?_eq_getElem (by omega)⟩
          apply Exists.intro change
          apply And.intro here
          rcases Nat.lt_or_eq_of_le (Nat.le_of_lt_succ before) with earlier | rfl
          · exact (lt_of_increasing increasing here found earlier).le.trans below
          · rw [here] at found
            cases found
            exact below
        · rename_i beyond
          apply ih upTo _ (by omega) (by omega) (by omega)
          intro i change behind here
          rcases Nat.lt_or_eq_of_le behind with later | rfl
          · exact (Nat.not_le.mp beyond).trans (lt_of_increasing increasing found here later)
          · rw [here] at found
            cases found
            exact Nat.not_le.mp beyond
      · obtain rfl : low = high := by omega
        exact ⟨upTo, above⟩

/-- The changes up to a code point are those before the place that is found. -/
theorem divides_changesUpTo {set : CodePointSet} (regular : set.IsRegular) (code : Nat) :
    Divides set.changes code (set.changesUpTo code) := by
  apply divides_narrow regular.1
  · intro i before
    exact absurd before (Nat.not_lt_zero i)
  · intro i change behind here
    have absent : set.changes[i]? = none := Array.getElem?_eq_none behind
    rw [absent] at here
    cases here
  · exact Nat.zero_le _
  · exact Nat.le_refl _
  · exact Nat.le_refl _

/-- A character of a regular set lies in one of its ranges, which all are closed as the number of
changes is even. -/
theorem exists_range_of_contains {set : CodePointSet} (regular : set.IsRegular) {c : Char}
    (mem : set.contains c = true) :
    ∃ range ∈ set.ranges, range.1 ≤ c.toNat ∧ c.toNat < range.2 := by
  have divided := divides_changesUpTo regular c.toNat
  have odd : set.changesUpTo c.toNat % 2 = 1 := by simpa [contains] using mem
  obtain ⟨place, count⟩ : ∃ place, set.changesUpTo c.toNat = 2 * place + 1 :=
    ⟨set.changesUpTo c.toNat / 2, by omega⟩
  rw [count] at divided
  obtain ⟨first, opened, upTo⟩ := divided.upTo (2 * place) (Nat.lt_succ_self _)
  have inside : 2 * place + 1 < set.changes.size := by
    have within := (Array.getElem?_eq_some_iff.mp opened).1
    have even := regular.2
    omega
  have closed := Array.getElem?_eq_getElem inside
  have above := divided.above _ _ (Nat.le_refl _) closed
  rw [← Array.getElem?_toList] at opened closed
  exact ⟨_, mem_rangesFrom opened closed, upTo, above⟩

/-- The ranges of increasing changes begin at changes, one behind the other. -/
theorem sorted_rangesFrom {changes : List Nat} (increasing : changes.Pairwise (· < ·)) :
    (rangesFrom changes).Pairwise (·.1 ≤ ·.1) ∧
      ∀ range ∈ rangesFrom changes, range.1 ∈ changes := by
  induction changes using rangesFrom.induct with
  | case1 first behind rest ih =>
      obtain ⟨above, within⟩ := List.pairwise_cons.mp increasing
      obtain ⟨sorted, listed⟩ := ih (List.pairwise_cons.mp within).2
      constructor
      · apply List.Pairwise.cons _ sorted
        intro range later
        exact (above _ (List.mem_cons_of_mem _ (listed range later))).le
      · intro range mem
        rcases List.mem_cons.mp mem with rfl | later
        · exact List.mem_cons_self
        · exact List.mem_cons_of_mem _ (List.mem_cons_of_mem _ (listed range later))
  | case2 changes short =>
      rw [rangesFrom.eq_2 changes short]
      exact ⟨List.Pairwise.nil, fun range mem => absurd mem List.not_mem_nil⟩

/-- The ranges of a regular set are in order. -/
theorem sorted_ranges {set : CodePointSet} (regular : set.IsRegular) :
    set.ranges.Pairwise (·.1 ≤ ·.1) :=
  (sorted_rangesFrom (List.isChain_iff_pairwise.mp regular.1)).1

/-- Whether no range of the one list meets a range of the other. Both lists are gone through at
once: a range that ends before one of the other list begins is done with. -/
def apart (first : List (Nat × Nat)) : List (Nat × Nat) → Bool
  | [] => true
  | b :: rest =>
      let later := first.dropWhile fun a => a.2 ≤ b.1
      (later.head?.all fun a => b.2 ≤ a.1) && apart later rest

/-- Of two lists in order that lie apart, each range is wholly before or behind each other. -/
theorem before_or_behind_of_apart {first second : List (Nat × Nat)}
    (sorted : first.Pairwise (·.1 ≤ ·.1)) (ordered : second.Pairwise (·.1 ≤ ·.1))
    (distinct : apart first second = true) {a b : Nat × Nat} (left : a ∈ first)
    (right : b ∈ second) : a.2 ≤ b.1 ∨ b.2 ≤ a.1 := by
  induction second generalizing first with
  | nil => cases right
  | cons head rest ih =>
      obtain ⟨above, within⟩ := List.pairwise_cons.mp ordered
      rw [apart, Bool.and_eq_true] at distinct
      obtain ⟨beyond, others⟩ := distinct
      rw [← List.takeWhile_append_dropWhile (p := fun a : Nat × Nat => a.2 ≤ head.1) (l := first),
        List.mem_append] at left
      rcases left with done | kept
      · have ended : a.2 ≤ head.1 := by simpa using List.all_eq_true.mp List.all_takeWhile a done
        rcases List.mem_cons.mp right with rfl | later
        · exact Or.inl ended
        · exact Or.inl (ended.trans (above b later))
      · have remaining := sorted.sublist (List.dropWhile_sublist (fun a => a.2 ≤ head.1))
        rcases List.mem_cons.mp right with rfl | later
        · apply Or.inr
          cases remain : first.dropWhile fun a => a.2 ≤ b.1 with
          | nil =>
              rw [remain] at kept
              cases kept
          | cons next more =>
              rw [remain] at kept remaining beyond
              have begins : b.2 ≤ next.1 := by simpa using beyond
              rcases List.mem_cons.mp kept with rfl | behind
              · exact begins
              · exact begins.trans ((List.pairwise_cons.mp remaining).1 a behind)
        · exact ih remaining within others kept later

/-- A character of one set is not in another one that lies apart from it. -/
theorem contains_eq_false_of_apart {first second : CodePointSet} (regular : first.IsRegular)
    (other : second.IsRegular) (distinct : apart first.ranges second.ranges = true) {c : Char}
    (mem : first.contains c = true) : second.contains c = false := by
  rw [Bool.eq_false_iff]
  intro also
  obtain ⟨a, left, here⟩ := exists_range_of_contains regular mem
  obtain ⟨b, right, there⟩ := exists_range_of_contains other also
  have separate := before_or_behind_of_apart (sorted_ranges regular) (sorted_ranges other) distinct
    left right
  omega

end CodePointSet

namespace Property

/-- The sets that decide how a character attaches to others. -/
def attachments : List CodePointSet :=
  [control, conjunctLinker, graphemeExtend, spacingMark, prependedMark, pictographic,
    conjunctConsonant]

/-- The ranges of code points whose class is told without a set. -/
def namedRanges : List (Nat × Nat) :=
  [(0xA, 0xE), (0x1100, 0x1200), (0x200C, 0x200E), (0xA960, 0xA97D), (0xAC00, 0xD7FC),
    (0x16D63, 0x16D6B), (0x1F1E6, 0x1F200), (0x1F3FB, 0x1F400)]

/-- The table of decimal digits is in order. -/
theorem isRegular_decimalDigit : decimalDigit.IsRegular := by decide +kernel

/-- The other tables that are consulted are in order, and hold no decimal digit. -/
theorem apart_decimalDigit : ∀ set ∈ letter :: attachments,
    set.IsRegular ∧ CodePointSet.apart decimalDigit.ranges set.ranges = true := by
  decide +kernel

/-- No decimal digit is a letter, or attaches to others. -/
theorem contains_eq_false_of_decimalDigit {c : Char} (digit : decimalDigit.contains c = true)
    {set : CodePointSet} (listed : set ∈ letter :: attachments) : set.contains c = false := by
  obtain ⟨regular, distinct⟩ := apart_decimalDigit set listed
  exact CodePointSet.contains_eq_false_of_apart isRegular_decimalDigit regular distinct digit

/-- No decimal digit is in a range that is told without a set. -/
theorem outside_namedRanges {c : Char} (digit : decimalDigit.contains c = true)
    {range : Nat × Nat} (named : range ∈ namedRanges) :
    ¬ (range.1 ≤ c.toNat ∧ c.toNat < range.2) := by
  have distinct : CodePointSet.apart decimalDigit.ranges namedRanges = true := by decide +kernel
  obtain ⟨a, listed, here⟩ := CodePointSet.exists_range_of_contains isRegular_decimalDigit digit
  have separate := CodePointSet.before_or_behind_of_apart
    (CodePointSet.sorted_ranges isRegular_decimalDigit) (by decide) distinct listed named
  omega

end Property

end HtmlTemplate.Text
