import Rollout.Proofs.Store.Rows

/-! Which of two rows is the older: by creation, and of one time by the place in the table. -/

namespace Rollout

variable {α : Type} {createdAt : α → Instant} {row a b : α} {rows : List α} {p : α → Bool}

/-- `a` was created before `b`, or at the same time and stands before it. -/
def Precedes (createdAt : α → Instant) (rows : List α) (a b : α) : Prop :=
  createdAt a ≤ createdAt b ∧ (createdAt a = createdAt b → [a, b].Sublist rows)

lemma Precedes.of_filter (h : Precedes createdAt (rows.filter p) a b) :
    Precedes createdAt rows a b :=
  ⟨h.1, fun he => (h.2 he).trans List.filter_sublist⟩

lemma sortByCreation_precedes (rows : List α) :
    (sortByCreation createdAt rows).Pairwise (Precedes createdAt rows) :=
  sortByCreation_stable (List.pairwise_iff_forall_sublist.mpr id)

/-- The first row of a listing that `p` holds of is the oldest one. -/
lemma find?_sortByCreation (h : (sortByCreation createdAt rows).find? p = some a) :
    a ∈ rows ∧ p a = true ∧ ∀ b ∈ rows, p b = true → b ≠ a → Precedes createdAt rows a b := by
  refine ⟨mem_sortByCreation.mp (List.mem_of_find?_eq_some h), List.find?_some h, ?_⟩
  intro b hb hp hne
  obtain ⟨-, before, after, hsplit, hbefore⟩ := List.find?_eq_some_iff_append.mp h
  have horder : (before ++ a :: after).Pairwise (Precedes createdAt rows) :=
    hsplit ▸ sortByCreation_precedes rows
  have hmem : b ∈ before ++ a :: after := hsplit ▸ mem_sortByCreation.mpr hb
  rcases List.mem_append.mp hmem with hb | hb
  · have hnot := hbefore b hb
    rw [hp] at hnot
    cases hnot
  · have hafter : b ∈ after := (List.mem_cons.mp hb).resolve_left hne
    exact (List.pairwise_cons.mp (List.pairwise_append.mp horder).2.1).1 b hafter

lemma placeByCreation_of_le (h : ∀ r ∈ rows, createdAt row ≤ createdAt r) :
    placeByCreation createdAt row rows = row :: rows := by
  cases rows with
  | nil => rfl
  | cons r rows => rw [placeByCreation, if_pos (h r List.mem_cons_self)]

lemma placeByCreation_filter
    (h : rows.Pairwise fun a b => createdAt a ≤ createdAt b) :
    (placeByCreation createdAt row rows).filter p =
      if p row then placeByCreation createdAt row (rows.filter p) else rows.filter p := by
  induction rows with
  | nil => exact List.filter_cons
  | cons r rows ih =>
    obtain ⟨hr, hrest⟩ := List.pairwise_cons.mp h
    by_cases hle : createdAt row ≤ createdAt r
    · -- What stays of the rows is no older than `row` either.
      have hall : ∀ s ∈ (r :: rows).filter p, createdAt row ≤ createdAt s := by
        intro s hs
        rcases List.mem_cons.mp (List.mem_of_mem_filter hs) with rfl | hs
        · exact hle
        · exact Instant.le_trans hle (hr s hs)
      rw [placeByCreation_of_le hall, placeByCreation, if_pos hle, List.filter_cons]
    · rw [placeByCreation, if_neg hle, List.filter_cons, List.filter_cons, ih hrest]
      cases p r with
      | false => rfl
      | true =>
        cases p row with
        | false => rfl
        | true => exact (if_neg hle).symm

lemma sortByCreation_filter (rows : List α) :
    (sortByCreation createdAt rows).filter p = sortByCreation createdAt (rows.filter p) := by
  induction rows with
  | nil => rfl
  | cons r rows ih =>
    have hsorted : (sortByCreation createdAt rows).Pairwise fun a b => createdAt a ≤ createdAt b :=
      (sortByCreation_precedes rows).imp fun h => h.1
    rw [sortByCreation, placeByCreation_filter hsorted, ih, List.filter_cons]
    cases p r <;> rfl

end Rollout
