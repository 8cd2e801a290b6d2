/-
# Cutting a text into clusters

Segmentation only puts cuts into a text. The clusters are its characters in order, none of
them is empty, and what is known of the open cluster is the beginning of the first one that
is cut off.
-/

import HtmlTemplate.Text.Grapheme

namespace HtmlTemplate.Text

/-- A character continues the open cluster, or it begins the clusters of the rest. -/
theorem clustersFrom_cons (context : ClusterContext) (openCluster : List Char) (c : Char)
    (rest : List Char) :
    clustersFrom context openCluster (c :: rest) =
      if context.joins (.ofChar c) then
        clustersFrom (context.push (.ofChar c)) (c :: openCluster) rest
      else openCluster.reverse :: clusters (c :: rest) := by
  rw [clustersFrom]
  rfl

/-- The open cluster is the beginning of the first cluster. -/
theorem exists_clustersFrom_eq_cons (context : ClusterContext) (openCluster rest : List Char) :
    ∃ joined others,
      clustersFrom context openCluster rest = (openCluster.reverse ++ joined) :: others := by
  induction rest generalizing context openCluster with
  | nil => exact ⟨[], [], by simp [clustersFrom]⟩
  | cons c rest ih =>
      rw [clustersFrom]
      split
      · obtain ⟨joined, others, first⟩ := ih (context.push (.ofChar c)) (c :: openCluster)
        exact ⟨c :: joined, others, by simp [first]⟩
      · exact ⟨[], _, by rw [List.append_nil]⟩

/-- Cutting what follows an open cluster keeps every character in its place. -/
theorem flatten_clustersFrom (context : ClusterContext) (openCluster rest : List Char) :
    (clustersFrom context openCluster rest).flatten = openCluster.reverse ++ rest := by
  induction rest generalizing context openCluster with
  | nil => simp [clustersFrom]
  | cons c rest ih =>
      rw [clustersFrom]
      split
      · simp [ih]
      · simp [ih]

/-- The clusters of a text are its characters in order. -/
theorem flatten_clusters (cs : List Char) : (clusters cs).flatten = cs := by
  cases cs with
  | nil => rfl
  | cons c rest => simp [clusters, flatten_clustersFrom]

section State

variable {State : ClusterContext → List Char → Prop}
  (opens : ∀ c, State (.start (.ofChar c)) [c])
  (grows : ∀ {context openCluster c}, State context openCluster →
    context.joins (.ofChar c) = true → State (context.push (.ofChar c)) (c :: openCluster))

include opens grows

/-- What holds of a cluster that is opened, and goes on to hold with each character that joins
it, holds of every cluster that is cut off. -/
theorem exists_state_of_mem_clustersFrom {context : ClusterContext}
    {openCluster rest cluster : List Char} (state : State context openCluster)
    (cut : cluster ∈ clustersFrom context openCluster rest) :
    ∃ context, State context cluster.reverse := by
  induction rest generalizing context openCluster with
  | nil =>
      obtain rfl := List.mem_singleton.mp cut
      exact ⟨context, by rwa [List.reverse_reverse]⟩
  | cons c rest ih =>
      rw [clustersFrom] at cut
      split at cut
      · rename_i joins
        exact ih (grows state joins) cut
      · rcases List.mem_cons.mp cut with rfl | later
        · exact ⟨context, by rwa [List.reverse_reverse]⟩
        · exact ih (opens c) later

/-- So it holds of every cluster of a text. -/
theorem exists_state_of_mem_clusters {cs cluster : List Char} (cut : cluster ∈ clusters cs) :
    ∃ context, State context cluster.reverse := by
  cases cs with
  | nil => cases cut
  | cons c rest => exact exists_state_of_mem_clustersFrom opens grows (opens c) cut

end State

/-- Clusters that are cut off after a non-empty one are not empty either. -/
theorem ne_nil_of_mem_clustersFrom {context : ClusterContext} {openCluster rest cluster : List Char}
    (filled : openCluster ≠ []) (cut : cluster ∈ clustersFrom context openCluster rest) :
    cluster ≠ [] := by
  induction rest generalizing context openCluster with
  | nil =>
      have whole : cluster = openCluster.reverse := by simpa [clustersFrom] using cut
      simpa [whole] using filled
  | cons c rest ih =>
      rw [clustersFrom] at cut
      split at cut
      · exact ih (List.cons_ne_nil c openCluster) cut
      · rcases List.mem_cons.mp cut with rfl | later
        · simpa using filled
        · exact ih (List.cons_ne_nil c []) later

/-- No cluster of a text is empty. -/
theorem ne_nil_of_mem_clusters {cs cluster : List Char} (cut : cluster ∈ clusters cs) :
    cluster ≠ [] := by
  cases cs with
  | nil => cases cut
  | cons c rest => exact ne_nil_of_mem_clustersFrom (List.cons_ne_nil c []) cut

/-! ## Cutting again what was cut off -/

/-- Clusters of which none is empty consist of nothing only if there are none. -/
theorem eq_nil_of_flatten_eq_nil {cut : List (List Char)} (solid : ∀ cluster ∈ cut, cluster ≠ [])
    (nothing : cut.flatten = []) : cut = [] := by
  apply List.eq_nil_iff_forall_not_mem.mpr
  intro cluster mem
  exact solid cluster mem (List.flatten_eq_nil_iff.mp nothing cluster mem)

/-- What lies behind a cut does not matter to the clusters before it. -/
theorem clustersFrom_eq_of_append {context : ClusterContext} {openCluster joined rest : List Char}
    {first others : List (List Char)} (filled : openCluster ≠ [])
    (cut : clustersFrom context openCluster (joined ++ rest) = first ++ others)
    (whole : first.flatten = openCluster.reverse ++ joined) :
    clustersFrom context openCluster joined = first := by
  induction joined generalizing context openCluster first with
  | nil =>
      obtain ⟨more, behind, begins⟩ := exists_clustersFrom_eq_cons context openCluster rest
      have solid : ∀ cluster ∈ first, cluster ≠ [] := fun cluster mem =>
        ne_nil_of_mem_clustersFrom filled (cut ▸ List.mem_append_left others mem)
      rw [List.nil_append, begins] at cut
      cases first with
      | nil => simp [filled] at whole
      | cons cluster later =>
          obtain ⟨rfl, -⟩ := List.cons.inj cut
          have nothing : more = [] ∧ later.flatten = [] := by simpa using whole
          have alone : later = [] :=
            eq_nil_of_flatten_eq_nil (List.forall_mem_cons.mp solid).2 nothing.2
          rw [clustersFrom, nothing.1, alone, List.append_nil]
  | cons c joined ih =>
      rw [List.cons_append, clustersFrom] at cut
      rw [clustersFrom]
      split at cut
      · rename_i joins
        rw [if_pos joins]
        exact ih (List.cons_ne_nil c openCluster) cut (by simpa using whole)
      · rename_i apart
        rw [if_neg apart]
        cases first with
        | nil => simp at whole
        | cons cluster later =>
            obtain ⟨rfl, behind⟩ := List.cons.inj cut
            rw [ih (List.cons_ne_nil c []) behind (by simpa using whole)]

/-- What lies before a cut does not matter to the clusters behind it. -/
theorem clusters_flatten_of_clustersFrom_eq_cons {context : ClusterContext}
    {openCluster rest cluster : List Char} {others : List (List Char)}
    (cut : clustersFrom context openCluster rest = cluster :: others) :
    clusters others.flatten = others := by
  induction rest generalizing context openCluster with
  | nil =>
      obtain ⟨-, rfl⟩ := List.cons.inj cut
      rfl
  | cons c rest ih =>
      rw [clustersFrom_cons] at cut
      split at cut
      · exact ih cut
      · obtain ⟨-, rfl⟩ := List.cons.inj cut
        rw [flatten_clusters]

/-- Clusters that follow one another in a text are the clusters of what they consist of. -/
theorem clusters_flatten_of_append {cs : List Char} {before within behind : List (List Char)}
    (cut : clusters cs = before ++ (within ++ behind)) : clusters within.flatten = within := by
  induction before generalizing cs with
  | nil =>
      have same : cs = within.flatten ++ behind.flatten := by
        rw [← flatten_clusters cs, cut, List.nil_append, List.flatten_append]
      cases inside : within.flatten with
      | nil =>
          have solid : ∀ cluster ∈ within, cluster ≠ [] := fun cluster mem =>
            ne_nil_of_mem_clusters (cut ▸ List.mem_append_left behind mem)
          rw [eq_nil_of_flatten_eq_nil solid inside]
          rfl
      | cons c rest =>
          rw [same, inside] at cut
          exact clustersFrom_eq_of_append (List.cons_ne_nil c []) cut (by rw [inside]; rfl)
  | cons cluster before ih =>
      cases cs with
      | nil => cases cut
      | cons c rest =>
          have again := clusters_flatten_of_clustersFrom_eq_cons cut
          exact ih again

/-- Graphemes that follow one another in a text are the graphemes of what they consist of. -/
theorem graphemes_of_append {text : String} {before within behind : List Grapheme}
    (cut : graphemes text = before ++ (within ++ behind)) :
    graphemes (String.ofList (within.flatMap Grapheme.chars)) = within := by
  have chars := congrArg (List.map Grapheme.chars) cut
  rw [graphemes, List.map_map, List.map_append, List.map_append] at chars
  have again := clusters_flatten_of_append (by simpa [Function.comp_def] using chars)
  rw [graphemes, String.toList_ofList, List.flatMap, again, List.map_map]
  simp [Function.comp_def]

/-- The graphemes of a text are its characters in order. -/
theorem flatMap_chars_graphemes (text : String) :
    (graphemes text).flatMap Grapheme.chars = text.toList := by
  rw [graphemes, List.flatMap_map, List.flatMap_id', flatten_clusters]

/-- No grapheme of a text is empty. -/
theorem chars_ne_nil_of_mem_graphemes {text : String} {g : Grapheme} (cut : g ∈ graphemes text) :
    g.chars ≠ [] := by
  obtain ⟨cluster, mem, rfl⟩ := List.mem_map.mp cut
  exact ne_nil_of_mem_clusters mem

end HtmlTemplate.Text
