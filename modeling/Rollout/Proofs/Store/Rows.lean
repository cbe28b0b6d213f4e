import Mathlib.Data.List.Nodup
import Mathlib.Data.List.Perm.Basic
import Rollout.Store.Listing

/-! Rows of a table that are told apart by a key, and listings of them. -/

namespace Rollout

section Keys

variable {α β κ : Type} {key : α → κ} {rows : List α} {row : α} {k : κ}

lemma nodup_append_key (h : (rows.map key).Nodup) (hn : key row ∉ rows.map key) :
    ((rows ++ [row]).map key).Nodup := by
  rw [List.map_append, List.nodup_append]
  refine ⟨h, by simp, ?_⟩
  intro a ha b hb he
  rw [List.map_singleton, List.mem_singleton] at hb
  exact hn (hb ▸ he ▸ ha)

lemma nodup_filter_key {p : α → Bool} (h : (rows.map key).Nodup) :
    ((rows.filter p).map key).Nodup :=
  h.sublist (List.filter_sublist.map key)

lemma of_mem_filter_key {p : α → Bool} (h : k ∈ (rows.filter p).map key) : k ∈ rows.map key :=
  (List.filter_sublist.map key).subset h

lemma filter_filter_of_imp {p q : α → Bool} (h : ∀ r ∈ rows, p r = true → q r = true) :
    (rows.filter q).filter p = rows.filter p := by
  rw [List.filter_filter]
  apply List.filter_congr
  intro r hr
  cases hp : p r with
  | true => rw [h r hr hp, Bool.and_self]
  | false => rw [Bool.false_and]

variable [DecidableEq κ]

lemma mem_filter_key {j : κ} :
    j ∈ (rows.filter fun r => key r ≠ k).map key ↔ j ∈ rows.map key ∧ j ≠ k := by
  simp only [List.mem_map, List.mem_filter, decide_eq_true_eq]
  constructor
  · rintro ⟨r, ⟨hr, hne⟩, rfl⟩
    exact ⟨⟨r, hr, rfl⟩, hne⟩
  · rintro ⟨⟨r, hr, rfl⟩, hne⟩
    exact ⟨r, ⟨hr, hne⟩, rfl⟩

lemma filter_key_eq_nil (h : k ∉ rows.map key) : rows.filter (fun r => key r = k) = [] := by
  rw [List.filter_eq_nil_iff]
  intro r hr he
  exact h (List.mem_map.mpr ⟨r, hr, of_decide_eq_true he⟩)

lemma filter_filter_key {j : κ} :
    (rows.filter fun r => key r ≠ k).filter (fun r => key r = j) =
      if j = k then [] else rows.filter fun r => key r = j := by
  split
  · next h => exact filter_key_eq_nil fun hm => (mem_filter_key.mp hm).2 h
  · next h =>
    exact filter_filter_of_imp fun r _ hr => decide_eq_true (of_decide_eq_true hr ▸ h)

lemma of_find_key (h : rows.find? (fun r => key r = k) = some row) : row ∈ rows ∧ key row = k :=
  ⟨List.mem_of_find?_eq_some h, by simpa using List.find?_some h⟩

lemma find_key_of_mem (h : (rows.map key).Nodup) (hr : row ∈ rows) (hk : key row = k) :
    rows.find? (fun r => key r = k) = some row := by
  induction rows with
  | nil => cases hr
  | cons r rows ih =>
    rw [List.map_cons, List.nodup_cons] at h
    rcases List.mem_cons.mp hr with rfl | hr
    · exact List.find?_cons_of_pos (decide_eq_true hk)
    · have hne : key r ≠ k := fun he => h.1 (he.trans hk.symm ▸ List.mem_map_of_mem hr)
      rw [List.find?_cons_of_neg (by simpa using hne)]
      exact ih h.2 hr

lemma any_key_iff : rows.any (fun r => key r = k) = true ↔ k ∈ rows.map key := by
  simp only [List.any_eq_true, decide_eq_true_eq, List.mem_map]

lemma mem_replaceFirst {p : α → Bool} {r : α} (h : r ∈ replaceFirst p row rows) :
    r = row ∨ r ∈ rows := by
  induction rows with
  | nil => cases h
  | cons s rows ih =>
    rw [replaceFirst] at h
    split at h
    · exact (List.mem_cons.mp h).imp_right (List.mem_cons_of_mem s)
    · rcases List.mem_cons.mp h with rfl | h
      · exact .inr List.mem_cons_self
      · exact (ih h).imp_right (List.mem_cons_of_mem s)

lemma map_replaceFirst {f : α → β} {p : α → Bool} (h : ∀ r ∈ rows, p r = true → f r = f row) :
    (replaceFirst p row rows).map f = rows.map f := by
  induction rows with
  | nil => rfl
  | cons r rows ih =>
    rw [replaceFirst]
    split
    · next hp => simp [h r (by simp) hp]
    · simp [ih fun s hs => h s (by simp [hs])]

lemma filter_replaceFirst {p : α → Bool} (h : p row = true) :
    (replaceFirst p row rows).filter p = replaceFirst p row (rows.filter p) := by
  induction rows with
  | nil => rfl
  | cons r rows ih =>
    by_cases hr : p r = true
    · simp [replaceFirst, hr, h]
    · simp [replaceFirst, hr, ih]

lemma filter_replaceFirst_of_not {p q : α → Bool} (h : q row = false)
    (hpq : ∀ r ∈ rows, p r = true → q r = false) :
    (replaceFirst p row rows).filter q = rows.filter q := by
  induction rows with
  | nil => rfl
  | cons r rows ih =>
    have hrest := ih fun s hs => hpq s (List.mem_cons_of_mem r hs)
    by_cases hr : p r = true
    · simp [replaceFirst, hr, h, hpq r List.mem_cons_self hr]
    · simp [replaceFirst, hr, hrest, List.filter_cons]

lemma filter_key_not_mem_take (h : (rows.map key).Nodup) (n : Nat) :
    rows.filter (fun r => key r ∉ (rows.take n).map key) = rows.drop n := by
  conv_lhs => rw [← List.take_append_drop n rows, List.filter_append]
  rw [← List.take_append_drop n rows, List.map_append, List.nodup_append] at h
  have htaken : (rows.take n).filter (fun r => key r ∉ (rows.take n).map key) = [] :=
    List.filter_eq_nil_iff.mpr fun r hr hn => of_decide_eq_true hn (List.mem_map_of_mem hr)
  have hleft : (rows.drop n).filter (fun r => key r ∉ (rows.take n).map key) = rows.drop n :=
    List.filter_eq_self.mpr fun r hr =>
      decide_eq_true fun hk => h.2.2 _ hk _ (List.mem_map_of_mem hr) rfl
  rw [List.take_append_drop, htaken, hleft, List.nil_append]

/-- Where keys are distinct, the first row of a key is the only one. -/
lemma replaceFirst_eq_map (h : (rows.map key).Nodup) :
    replaceFirst (fun r => key r = k) row rows =
      rows.map fun r => if key r = k then row else r := by
  induction rows with
  | nil => rfl
  | cons r rows ih =>
    rw [List.map_cons, List.nodup_cons] at h
    rw [replaceFirst, List.map_cons]
    by_cases hk : key r = k
    · have hrest : rows.map (fun s => if key s = k then row else s) = rows := by
        conv_rhs => rw [← List.map_id rows]
        apply List.map_congr_left
        intro s hs
        have hne : key s ≠ k := fun he => h.1 (List.mem_map.mpr ⟨s, hs, he.trans hk.symm⟩)
        rw [if_neg hne, id]
      simp only [hk, decide_true, if_true, hrest]
    · simp only [hk, decide_false, if_false, ih h.2, Bool.false_eq_true]

lemma map_foldl_replaceFirst {f : α → α} (hf : ∀ r, key (f r) = key r) {changed : List α} :
    (changed.foldl (fun rs c => replaceFirst (fun r => key r = key c) (f c) rs) rows).map key =
      rows.map key := by
  induction changed generalizing rows with
  | nil => rfl
  | cons c changed ih =>
    rw [List.foldl_cons, ih]
    exact map_replaceFirst fun r _ hr => (of_decide_eq_true hr).trans (hf c).symm

lemma foldl_replaceFirst [DecidableEq α] {f : α → α} (hf : ∀ r, key (f r) = key r)
    (h : (rows.map key).Nodup) {changed : List α} (hc : (changed.map key).Nodup)
    (hs : ∀ r ∈ changed, r ∈ rows) :
    changed.foldl (fun rs c => replaceFirst (fun r => key r = key c) (f c) rs) rows =
      rows.map fun r => if r ∈ changed then f r else r := by
  -- Once the first has been replaced, the others still stand among the rows, by other keys.
  induction changed generalizing rows with
  | nil => simp
  | cons c changed ih =>
    obtain ⟨hnot, hc⟩ := List.nodup_cons.mp hc
    have hkeys : (replaceFirst (fun r => key r = key c) (f c) rows).map key = rows.map key :=
      map_replaceFirst fun r _ hr => (of_decide_eq_true hr).trans (hf c).symm
    have hrest : ∀ r ∈ changed, key r ≠ key c := fun r hr he => hnot (he ▸ List.mem_map_of_mem hr)
    have hmem : ∀ r ∈ changed, r ∈ replaceFirst (fun r => key r = key c) (f c) rows := by
      intro r hr
      rw [replaceFirst_eq_map h]
      exact List.mem_map.mpr ⟨r, hs r (List.mem_cons_of_mem c hr), if_neg (hrest r hr)⟩
    rw [List.foldl_cons, ih (hkeys ▸ h) hc hmem, replaceFirst_eq_map h, List.map_map]
    apply List.map_congr_left
    intro r hr
    by_cases hk : key r = key c
    · obtain rfl := List.inj_on_of_nodup_map h hr (hs c List.mem_cons_self) hk
      have hnew : f r ∉ changed := fun hm => hrest _ hm (hf r)
      simp [hnew]
    · have hne : r ≠ c := fun he => hk (he ▸ rfl)
      simp [hk, hne]

end Keys

section Listings

variable {α : Type} {createdAt : α → Instant}

lemma placeByCreation_perm (row : α) (rows : List α) :
    (placeByCreation createdAt row rows).Perm (row :: rows) := by
  induction rows with
  | nil => exact .refl _
  | cons r rows ih =>
    rw [placeByCreation]
    split
    · exact .refl _
    · exact (ih.cons r).trans (.swap row r rows)

lemma sortByCreation_perm (rows : List α) : (sortByCreation createdAt rows).Perm rows := by
  induction rows with
  | nil => exact .refl _
  | cons r rows ih => exact (placeByCreation_perm r _).trans (ih.cons r)

@[simp] lemma mem_sortByCreation {row : α} {rows : List α} :
    row ∈ sortByCreation createdAt rows ↔ row ∈ rows :=
  (sortByCreation_perm rows).mem_iff

lemma placeByCreation_stable {R : α → α → Prop} {row : α} {rows : List α}
    (hrow : ∀ r ∈ rows, R row r)
    (h : rows.Pairwise fun a b => createdAt a ≤ createdAt b ∧ (createdAt a = createdAt b → R a b)) :
    (placeByCreation createdAt row rows).Pairwise fun a b =>
      createdAt a ≤ createdAt b ∧ (createdAt a = createdAt b → R a b) := by
  induction rows with
  | nil => exact List.pairwise_singleton _ _
  | cons s rows ih =>
    obtain ⟨hs, hrest⟩ := List.pairwise_cons.mp h
    rw [placeByCreation]
    split
    · next hle =>
      refine List.pairwise_cons.mpr ⟨fun r hr => ⟨?_, fun _ => hrow r hr⟩, h⟩
      rcases List.mem_cons.mp hr with rfl | hr
      · exact hle
      · exact Instant.le_trans hle (hs r hr).1
    · next hle =>
      have hbefore : createdAt s ≤ createdAt row :=
        (Instant.le_total (createdAt row) (createdAt s)).resolve_left hle
      refine List.pairwise_cons.mpr ⟨?_, ih (fun r hr => hrow r (List.mem_cons_of_mem s hr)) hrest⟩
      intro r hr
      rcases List.mem_cons.mp ((placeByCreation_perm row rows).mem_iff.mp hr) with rfl | hr
      · exact ⟨hbefore, fun he => (hle (he ▸ Instant.le_refl _)).elim⟩
      · exact hs r hr

/-- Rows are listed by creation, and those created at one time in the order they stood in. -/
lemma sortByCreation_stable {R : α → α → Prop} {rows : List α} (h : rows.Pairwise R) :
    (sortByCreation createdAt rows).Pairwise fun a b =>
      createdAt a ≤ createdAt b ∧ (createdAt a = createdAt b → R a b) := by
  induction rows with
  | nil => exact .nil
  | cons r rows ih =>
    obtain ⟨hr, hrest⟩ := List.pairwise_cons.mp h
    exact placeByCreation_stable (fun s hs => hr s (mem_sortByCreation.mp hs)) (ih hrest)

lemma placeByCreation_map {β : Type} (f : β → α) (row : β) (rows : List β) :
    placeByCreation createdAt (f row) (rows.map f) =
      (placeByCreation (fun b => createdAt (f b)) row rows).map f := by
  induction rows with
  | nil => rfl
  | cons r rows ih =>
    rw [List.map_cons, placeByCreation, placeByCreation, ih]
    split <;> rfl

lemma sortByCreation_map {β : Type} (f : β → α) (rows : List β) :
    sortByCreation createdAt (rows.map f) =
      (sortByCreation (fun b => createdAt (f b)) rows).map f := by
  induction rows with
  | nil => rfl
  | cons r rows ih => rw [List.map_cons, sortByCreation, ih, placeByCreation_map, sortByCreation]

lemma nodup_sortByCreation {κ : Type} {key : α → κ} {rows : List α} (h : (rows.map key).Nodup) :
    ((sortByCreation createdAt rows).map key).Nodup :=
  ((sortByCreation_perm rows).map key).nodup_iff.mpr h

end Listings

end Rollout
