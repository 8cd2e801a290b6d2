/-
# Doubling the signs of a text

A text is written down character by character, and it is cut into clusters afterwards. So
a sign that is doubled need not give two graphemes that are signs: a mark may attach to the
second one, and a sign that is put before letters may take the first one in. Where every
sign is a grapheme of its own this cannot happen, and doubling a sign doubles its grapheme.
-/

import HtmlTemplate.Proofs.Text.Clusters

namespace HtmlTemplate.Text

/-- The characters of a text with every sign doubled. -/
def doubleSigns (cs : List Char) : List Char :=
  cs.flatMap fun c => if c = '@' then ['@', '@'] else [c]

@[simp] theorem doubleSigns_nil : doubleSigns [] = [] := rfl

@[simp] theorem doubleSigns_sign (rest : List Char) :
    doubleSigns ('@' :: rest) = '@' :: '@' :: doubleSigns rest := rfl

@[simp] theorem doubleSigns_cons {c : Char} (other : c ≠ '@') (rest : List Char) :
    doubleSigns (c :: rest) = c :: doubleSigns rest := by
  simp [doubleSigns, other]

/-- Doubling does not change how a text begins. -/
theorem exists_doubleSigns_eq_cons (c : Char) (rest : List Char) :
    ∃ more, doubleSigns (c :: rest) = c :: more := by
  by_cases sign : c = '@'
  · subst sign
    exact ⟨_, rfl⟩
  · exact ⟨_, doubleSigns_cons sign rest⟩

/-- There are twice as many signs. -/
theorem count_doubleSigns (cs : List Char) : (doubleSigns cs).count '@' = 2 * cs.count '@' := by
  induction cs with
  | nil => rfl
  | cons c rest ih =>
      by_cases sign : c = '@'
      · subst sign
        simp [ih, Nat.mul_succ]
      · simp [sign, ih]

/-- No sign shares its cluster with another character. -/
def SignsApart (cut : List (List Char)) : Prop :=
  ∀ cluster ∈ cut, '@' ∈ cluster → cluster = ['@']

theorem signsApart_cons_iff {cluster : List Char} {others : List (List Char)} :
    SignsApart (cluster :: others) ↔
      ('@' ∈ cluster → cluster = ['@']) ∧ SignsApart others :=
  List.forall_mem_cons

/-- The clusters with every sign doubled that is one. -/
def doubleClusters (cut : List (List Char)) : List (List Char) :=
  cut.flatMap fun cluster => if cluster = ['@'] then [['@'], ['@']] else [cluster]

@[simp] theorem doubleClusters_cons (cluster : List Char) (others : List (List Char)) :
    doubleClusters (cluster :: others) =
      (if cluster = ['@'] then [['@'], ['@']] else [cluster]) ++ doubleClusters others :=
  List.flatMap_cons

/-- The clusters behind the first one with their signs doubled. -/
def doubleBehind : List (List Char) → List (List Char)
  | [] => []
  | first :: others => first :: doubleClusters others

/-- A cluster that begins with a sign does not take in another one. -/
theorem clusters_sign_sign (rest : List Char) :
    clusters ('@' :: '@' :: rest) = ['@'] :: clusters ('@' :: rest) := by
  have other : BreakClass.ofChar '@' = .other := by decide +kernel
  simp [clusters, clustersFrom, other, ClusterContext.joins, ClusterContext.start]

/-- A sign that joins an open cluster is not apart. -/
theorem not_signsApart_of_joined {context : ClusterContext} {openCluster rest : List Char}
    (filled : openCluster ≠ []) :
    ¬ SignsApart (clustersFrom context ('@' :: openCluster) rest) := by
  obtain ⟨joined, others, first⟩ := exists_clustersFrom_eq_cons context ('@' :: openCluster) rest
  rw [first, signsApart_cons_iff]
  rintro ⟨alone, -⟩
  have length := congrArg List.length (alone (by simp))
  have positive := List.length_pos_iff.mpr filled
  simp only [List.length_append, List.length_reverse, List.length_cons, List.length_nil] at length
  omega

/-- How the clusters of a text with doubled signs relate to those of the text: its signs are
doubled where they are apart, and apart only where they were. -/
structure Doubles (double : List (List Char) → List (List Char))
    (cut doubled : List (List Char)) : Prop where
  eq_of_apart : SignsApart cut → doubled = double cut
  apart_of_apart : SignsApart doubled → SignsApart cut

/-- A finished cluster before the clusters of a text is left as it is. -/
theorem Doubles.behind {cut doubled : List (List Char)}
    (doubles : Doubles doubleClusters cut doubled) (finished : List Char) :
    Doubles doubleBehind (finished :: cut) (finished :: doubled) where
  eq_of_apart apart := by
    rw [doubles.eq_of_apart (signsApart_cons_iff.mp apart).2, doubleBehind]
  apart_of_apart apart := by
    obtain ⟨first, later⟩ := signsApart_cons_iff.mp apart
    exact signsApart_cons_iff.mpr ⟨first, doubles.apart_of_apart later⟩

/-- A text is doubled if what follows its first character is. -/
theorem doubles_clusters_cons {c : Char} {rest : List Char}
    (behind : Doubles doubleBehind (clusters (c :: rest)) (clusters (c :: doubleSigns rest))) :
    Doubles doubleClusters (clusters (c :: rest)) (clusters (doubleSigns (c :: rest))) := by
  obtain ⟨joined, others, first⟩ :=
    exists_clustersFrom_eq_cons (.start (.ofChar c)) [c] rest
  have cut : clusters (c :: rest) = (c :: joined) :: others := first
  rw [cut] at behind ⊢
  by_cases sign : c = '@'
  · subst sign
    rw [doubleSigns_sign, clusters_sign_sign]
    refine ⟨fun apart => ?_, fun apart => ?_⟩
    · have alone := (signsApart_cons_iff.mp apart).1 List.mem_cons_self
      rw [behind.eq_of_apart apart, doubleClusters_cons, if_pos alone, alone]
      rfl
    · exact behind.apart_of_apart (signsApart_cons_iff.mp apart).2
  · rw [doubleSigns_cons sign]
    refine ⟨fun apart => ?_, behind.apart_of_apart⟩
    rw [behind.eq_of_apart apart, doubleClusters_cons, if_neg (by simp [sign])]
    rfl

/-- Behind every open cluster, doubling the signs of a text doubles those that are apart. Whether
the cluster is continued is decided by the first character, which doubling does not change. -/
theorem doubles_clustersFrom {context : ClusterContext} {openCluster : List Char}
    (filled : openCluster ≠ []) (rest : List Char) :
    Doubles doubleBehind (clustersFrom context openCluster rest)
      (clustersFrom context openCluster (doubleSigns rest)) := by
  induction rest generalizing context openCluster with
  | nil => exact ⟨fun _ => rfl, id⟩
  | cons c rest ih =>
      obtain ⟨more, begins⟩ := exists_doubleSigns_eq_cons c rest
      rw [begins, clustersFrom_cons, clustersFrom_cons]
      by_cases joins : context.joins (.ofChar c) = true
      · rw [if_pos joins, if_pos joins]
        by_cases sign : c = '@'
        · subst sign
          exact ⟨fun apart => absurd apart (not_signsApart_of_joined filled),
            fun apart => absurd apart (not_signsApart_of_joined filled)⟩
        · rw [doubleSigns_cons sign] at begins
          rw [← (List.cons.inj begins).2]
          exact ih (List.cons_ne_nil c openCluster)
      · rw [if_neg joins, if_neg joins, ← begins]
        exact (doubles_clusters_cons (ih (List.cons_ne_nil c []))).behind openCluster.reverse

/-- Doubling the signs of a text doubles those that are clusters of their own, if all of them
are; and it makes none of them one that was not. -/
theorem doubles_clusters (cs : List Char) :
    Doubles doubleClusters (clusters cs) (clusters (doubleSigns cs)) := by
  cases cs with
  | nil => exact ⟨fun _ => rfl, id⟩
  | cons c rest =>
      exact doubles_clusters_cons (doubles_clustersFrom (List.cons_ne_nil c []) rest)

end HtmlTemplate.Text
