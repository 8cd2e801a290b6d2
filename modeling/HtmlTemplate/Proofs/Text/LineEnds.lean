/-
# Line ends among clusters

A line end is never part of anything else. A cluster with a line feed in it is the line feed
alone, or the line feed behind the carriage return that belongs to it; so what consists of
clusters with letters and digits in them is on one line.

While a text is cut, the context knows the class of the last character only. It is enough to
tell whether the open cluster is a line end as a whole, or has no line feed in it.
-/

import HtmlTemplate.Proofs.Text.Clusters

namespace HtmlTemplate.Text

namespace BreakClass

/-- Whether the class is that of a line end. -/
def isLineEnd (k : BreakClass) : Bool := k = .carriageReturn || k = .lineFeed

/-- Hangul characters are no line ends. -/
theorem isLineEnd_of_ofHangul? {code : Nat} {k : BreakClass} (hangul : ofHangul? code = some k) :
    k.isLineEnd = false := by
  unfold ofHangul? at hangul
  split at hangul
  · cases hangul
    rfl
  · split at hangul
    · cases hangul
      rfl
    · split at hangul
      · cases hangul
        rfl
      · split at hangul
        · obtain rfl := Option.some.inj hangul
          split <;> rfl
        · cases hangul

/-- A choice between classes that are no line ends gives none. -/
theorem isLineEnd_ite {p : Prop} [Decidable p] {here there : BreakClass}
    (first : here.isLineEnd = false) (second : there.isLineEnd = false) :
    (if p then here else there).isLineEnd = false := by
  split
  · exact first
  · exact second

/-- Only the two line ends are of these classes. -/
theorem isLineEnd_ofChar {c : Char} (noReturn : c ≠ '\r') (noFeed : c ≠ '\n') :
    (ofChar c).isLineEnd = false := by
  rw [ofChar, if_neg noReturn, if_neg noFeed]
  apply isLineEnd_ite rfl
  apply isLineEnd_ite rfl
  cases hangul : ofHangul? c.toNat with
  | some k => exact isLineEnd_of_ofHangul? hangul
  | none =>
      repeat apply isLineEnd_ite rfl
      rfl

/-- The line feed is the only character of its class. -/
theorem eq_of_ofChar_eq_lineFeed {c : Char} (feeds : ofChar c = .lineFeed) : c = '\n' := by
  by_cases isFeed : c = '\n'
  · exact isFeed
  · by_cases isReturn : c = '\r'
    · subst isReturn
      cases feeds
    · have none := isLineEnd_ofChar isReturn isFeed
      rw [feeds] at none
      cases none

/-- Line ends are of one of two classes. -/
theorem eq_of_isLineEnd {k : BreakClass} (lineEnd : k.isLineEnd = true) :
    k = .carriageReturn ∨ k = .lineFeed := by
  simpa [isLineEnd] using lineEnd

end BreakClass

/-- No cluster goes on across a line end, except from a carriage return to a line feed. -/
theorem eq_of_joins {context : ClusterContext} {k : BreakClass} (joins : context.joins k = true)
    (lineEnd : context.last.isLineEnd = true ∨ k.isLineEnd = true) :
    context.last = .carriageReturn ∧ k = .lineFeed := by
  unfold ClusterContext.joins at joins
  rcases lineEnd with before | next
  · rcases BreakClass.eq_of_isLineEnd before with last | last
    · rw [last] at joins ⊢
      cases k with
      | lineFeed => exact ⟨rfl, rfl⟩
      | _ => cases joins
    · rw [last] at joins
      cases k <;> cases joins
  · rcases BreakClass.eq_of_isLineEnd next with rfl | rfl
    · cases last : context.last <;> rw [last] at joins <;> cases joins
    · cases last : context.last with
      | carriageReturn => exact ⟨rfl, rfl⟩
      | _ =>
          rw [last] at joins
          cases joins

/-- What the context tells of the open cluster, which is given in reverse: it is a line end as a
whole, or there is no line feed in it. -/
inductive LineState (context : ClusterContext) (openCluster : List Char) : Prop where
  | within (last : context.last.isLineEnd = false) (free : '\n' ∉ openCluster)
  | returned (last : context.last = .carriageReturn) (whole : openCluster = ['\r'])
  | fed (last : context.last = .lineFeed)
      (whole : openCluster = ['\n'] ∨ openCluster = ['\n', '\r'])

/-- The context tells this of a cluster that has just been opened. -/
theorem lineState_start (c : Char) : LineState (.start (.ofChar c)) [c] := by
  by_cases isReturn : c = '\r'
  · subst isReturn
    exact .returned rfl rfl
  · by_cases isFeed : c = '\n'
    · subst isFeed
      exact .fed rfl (Or.inl rfl)
    · apply LineState.within
      · exact BreakClass.isLineEnd_ofChar isReturn isFeed
      · simpa using Ne.symm isFeed

/-- It goes on to do so with each character that joins the cluster. That is no line end, unless it
is a line feed behind a carriage return. -/
theorem LineState.push {context : ClusterContext} {openCluster : List Char}
    (state : LineState context openCluster) {c : Char}
    (joins : context.joins (.ofChar c) = true) :
    LineState (context.push (.ofChar c)) (c :: openCluster) := by
  have pushed : (context.push (.ofChar c)).last = .ofChar c := rfl
  cases state with
  | within last free =>
      have inside : (BreakClass.ofChar c).isLineEnd = false := by
        cases ends : (BreakClass.ofChar c).isLineEnd with
        | false => rfl
        | true =>
            rw [(eq_of_joins joins (Or.inr ends)).1] at last
            cases last
      apply LineState.within
      · rwa [pushed]
      · have other : c ≠ '\n' := by
          rintro rfl
          cases inside
        simp [free, Ne.symm other]
  | returned last whole =>
      have feeds := (eq_of_joins joins (Or.inl (by rw [last]; rfl))).2
      obtain rfl := BreakClass.eq_of_ofChar_eq_lineFeed feeds
      exact .fed rfl (Or.inr (by rw [whole]))
  | fed last whole =>
      have only := (eq_of_joins joins (Or.inl (by rw [last]; rfl))).1
      rw [last] at only
      cases only

/-- A cluster that is cut off is a line end as a whole, or has no line feed in it. -/
theorem LineState.eq_of_mem {context : ClusterContext} {openCluster : List Char}
    (state : LineState context openCluster) (feeds : '\n' ∈ openCluster.reverse) :
    openCluster.reverse = ['\n'] ∨ openCluster.reverse = ['\r', '\n'] := by
  cases state with
  | within last free => exact absurd (List.mem_reverse.mp feeds) free
  | returned last whole =>
      rw [whole] at feeds
      exact absurd feeds (by decide)
  | fed last whole =>
      rcases whole with rfl | rfl
      · exact Or.inl rfl
      · exact Or.inr rfl

/-- A cluster of a text that has a line feed in it is a line end. -/
theorem eq_of_lineFeed_mem_clusters {cs cluster : List Char} (cut : cluster ∈ clusters cs)
    (feeds : '\n' ∈ cluster) : cluster = ['\n'] ∨ cluster = ['\r', '\n'] := by
  obtain ⟨context, state⟩ := exists_state_of_mem_clusters (fun c => lineState_start c)
    (fun state joins => LineState.push state joins) cut
  rw [← cluster.reverse_reverse] at feeds ⊢
  exact state.eq_of_mem feeds

/-- No name holds a line feed. -/
theorem lineFeed_notMem_of_isIdentifierPart {text : String} {g : Grapheme}
    (cut : g ∈ graphemes text) (part : g.isIdentifierPart = true) : '\n' ∉ g.chars := by
  intro feeds
  obtain ⟨cluster, mem, rfl⟩ := List.mem_map.mp cut
  have alone : Grapheme.isIdentifierPart ⟨['\n']⟩ = false := by decide +kernel
  have behindReturn : Grapheme.isIdentifierPart ⟨['\r', '\n']⟩ = false := by decide +kernel
  rcases eq_of_lineFeed_mem_clusters mem feeds with rfl | rfl
  · rw [alone] at part
    cases part
  · rw [behindReturn] at part
    cases part

end HtmlTemplate.Text
