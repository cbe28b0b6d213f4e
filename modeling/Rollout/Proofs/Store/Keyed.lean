import Mathlib.Data.List.Sort
import Rollout.Guid
import Rollout.Proofs.Store.Rows

/-! Tables as finite maps from guids to rows, which are numbered as they are inserted. -/

namespace Rollout

structure Numbered (α : Type) where
  number : Nat
  row : α

/-- The rows by their guids; no row has got the number `next` yet. -/
structure Keyed (kind : RecordKind) (α : Type) where
  rows : Std.TreeMap (Guid kind) (Numbered α) (compareOn Guid.text)
  next : Nat

variable {kind : RecordKind} {α : Type}

instance : Std.LawfulEqCmp (compareOn (@Guid.text kind)) where
  eq_of_compare h := Guid.text_injective (Std.LawfulEqOrd.eq_of_compare h)

namespace Numbered

def earlier (a b : Numbered α) : Bool := a.number ≤ b.number

/-- By the time of creation, and for one time by the number of insertion. -/
def older (createdAt : α → Instant) (a b : Numbered α) : Bool :=
  if createdAt a.row = createdAt b.row then a.earlier b else createdAt a.row ≤ createdAt b.row

variable {createdAt : α → Instant} {a b c : Numbered α}

lemma older_iff : a.older createdAt b = true ↔
    createdAt a.row ≤ createdAt b.row ∧
      (createdAt a.row = createdAt b.row → a.number ≤ b.number) := by
  unfold older earlier
  split
  · next he => simp [he, Instant.le_refl]
  · next he => simp [he]

lemma earlier_trans (a b c : Numbered α) (h : a.earlier b = true) (h' : b.earlier c = true) :
    a.earlier c = true := by
  simp only [earlier, decide_eq_true_eq] at *
  omega

lemma earlier_total (a b : Numbered α) : (a.earlier b || b.earlier a) = true := by
  simp only [earlier, Bool.or_eq_true, decide_eq_true_eq]
  omega

lemma earlier_number (h : a.earlier b = true) (h' : b.earlier a = true) : a.number = b.number := by
  simp only [earlier, decide_eq_true_eq] at *
  omega

lemma older_trans (a b c : Numbered α) (h : a.older createdAt b = true)
    (h' : b.older createdAt c = true) : a.older createdAt c = true := by
  rw [older_iff] at *
  refine ⟨Instant.le_trans h.1 h'.1, fun he => ?_⟩
  -- Between two equal times there is only that time.
  have hab : createdAt a.row = createdAt b.row :=
    Instant.le_antisymm h.1 (he ▸ h'.1)
  exact Nat.le_trans (h.2 hab) (h'.2 (hab.symm.trans he))

lemma older_total (a b : Numbered α) : (a.older createdAt b || b.older createdAt a) = true := by
  rw [Bool.or_eq_true, older_iff, older_iff]
  by_cases he : createdAt a.row = createdAt b.row
  · simp only [he, Instant.le_refl, true_and, forall_const]
    exact Nat.le_total a.number b.number
  · simp only [he, Ne.symm he, false_imp_iff, and_true]
    exact Instant.le_total _ _

def replaced (key : α → Guid kind) (row : α) (e : Numbered α) : Numbered α :=
  if key e.row = key row then { e with row } else e

lemma older_number (h : a.older createdAt b = true) (h' : b.older createdAt a = true) :
    a.number = b.number := by
  rw [older_iff] at *
  have he := Instant.le_antisymm h.1 h'.1
  exact Nat.le_antisymm (h.2 he) (h'.2 he.symm)

lemma replaced_number (key : α → Guid kind) (row : α) (e : Numbered α) :
    (e.replaced key row).number = e.number := by
  unfold replaced
  split <;> rfl

lemma replaced_key (key : α → Guid kind) (row : α) (e : Numbered α) :
    key (e.replaced key row).row = key e.row := by
  unfold replaced
  split
  · next h => exact h.symm
  · rfl

end Numbered

namespace Keyed

def empty : Keyed kind α := ⟨∅, 0⟩

def find? (m : Keyed kind α) (guid : Guid kind) : Option α := m.rows[guid]?.map (·.row)

def entries (m : Keyed kind α) : List (Numbered α) := m.rows.toList.map (·.2)

def any (m : Keyed kind α) (p : α → Bool) : Bool := m.entries.any fun e => p e.row

def ordered (m : Keyed kind α) (le : Numbered α → Numbered α → Bool) (p : α → Bool) : List α :=
  ((m.entries.filter fun e => p e.row).mergeSort le).map (·.row)

def insert (m : Keyed kind α) (guid : Guid kind) (row : α) : Keyed kind α :=
  ⟨m.rows.insert guid ⟨m.next, row⟩, m.next + 1⟩

/-- The new row has the number of the old one. -/
def update (m : Keyed kind α) (guid : Guid kind) (row : α) : Keyed kind α :=
  { m with rows := m.rows.modify guid fun e => { e with row } }

def delete (m : Keyed kind α) (guid : Guid kind) : Keyed kind α :=
  { m with rows := m.rows.erase guid }

/-- The map has these entries, in the order of their numbers. -/
structure Entered (m : Keyed kind α) (key : α → Guid kind) (es : List (Numbered α)) : Prop where
  order : es.Pairwise (·.number < ·.number)
  below : ∀ e ∈ es, e.number < m.next
  lookup : ∀ {guid e}, m.rows[guid]? = some e ↔ e ∈ es ∧ key e.row = guid

/-- The map has the rows of a list, numbered in the order of the list. -/
def Holds (m : Keyed kind α) (key : α → Guid kind) (rows : List α) : Prop :=
  ∃ es, m.Entered key es ∧ es.map (·.row) = rows

variable {m : Keyed kind α} {key : α → Guid kind} {es : List (Numbered α)} {rows : List α}
variable {guid g : Guid kind} {row : α}

lemma insert_rows : (m.insert guid row).rows[g]? =
    if guid = g then some ⟨m.next, row⟩ else m.rows[g]? := by
  simp only [insert, Std.TreeMap.getElem?_insert, Std.LawfulEqCmp.compare_eq_iff_eq]

lemma update_rows : (m.update guid row).rows[g]? =
    if guid = g then m.rows[g]?.map (fun e => { e with row }) else m.rows[g]? := by
  simp only [update, Std.TreeMap.getElem?_modify, Std.LawfulEqCmp.compare_eq_iff_eq]
  split
  · next h => rw [h]
  · rfl

lemma delete_rows : (m.delete guid).rows[g]? = if guid = g then none else m.rows[g]? := by
  simp only [delete, Std.TreeMap.getElem?_erase, Std.LawfulEqCmp.compare_eq_iff_eq]

lemma Entered.numbers (h : m.Entered key es) : (es.map (·.number)).Nodup :=
  List.pairwise_map.mpr (h.order.imp Nat.ne_of_lt)

lemma Entered.keys (h : m.Entered key es) : (es.map fun e => key e.row).Nodup := by
  refine List.Nodup.map_on ?_ h.numbers.of_map
  intro e he f hf hk
  exact Option.some.inj ((h.lookup.mpr ⟨he, hk⟩).symm.trans (h.lookup.mpr ⟨hf, rfl⟩))

lemma Entered.perm (h : m.Entered key es) : m.entries.Perm es := by
  have hmem : ∀ {g e}, (g, e) ∈ m.rows.toList ↔ e ∈ es ∧ key e.row = g := by
    intro g e
    rw [Std.TreeMap.mem_toList_iff_getElem?_eq_some, h.lookup]
  have hentries : m.entries.Nodup := by
    refine List.Nodup.map_on ?_ (Std.TreeMap.distinct_keys_toList.imp fun hne he => ?_)
    · rintro ⟨g, e⟩ he ⟨g', e'⟩ he' rfl
      rw [← (hmem.mp he).2, ← (hmem.mp he').2]
    · exact hne (he ▸ Std.ReflCmp.compare_self)
  refine (List.perm_ext_iff_of_nodup hentries h.numbers.of_map).mpr fun e => ?_
  simp only [entries, List.mem_map, Prod.exists, hmem]
  constructor
  · rintro ⟨_, _, ⟨he, _⟩, rfl⟩
    exact he
  · intro he
    exact ⟨key e.row, e, ⟨he, rfl⟩, rfl⟩

/-- Since no two entries have the same number, there is one way only to order them. -/
lemma Entered.ordered (h : m.Entered key es) {le : Numbered α → Numbered α → Bool}
    (htrans : ∀ a b c, le a b = true → le b c = true → le a c = true)
    (htotal : ∀ a b, (le a b || le b a) = true)
    (hnumber : ∀ {a b}, le a b = true → le b a = true → a.number = b.number)
    {p : α → Bool} {sorted : List (Numbered α)}
    (hperm : sorted.Perm (es.filter fun e => p e.row)) (hsorted : sorted.Pairwise (le · ·)) :
    m.ordered le p = sorted.map (·.row) := by
  have hentries : ((m.entries.filter fun e => p e.row).mergeSort le).Perm sorted :=
    (List.mergeSort_perm _ _).trans ((h.perm.filter _).trans hperm.symm)
  have hstored : ∀ {e}, e ∈ sorted → e ∈ es :=
    fun he => List.mem_of_mem_filter (hperm.mem_iff.mp he)
  refine congrArg (List.map (·.row)) (hentries.eq_of_pairwise ?_
    (List.pairwise_mergeSort htrans htotal _) hsorted)
  intro a b ha hb hab hba
  exact List.inj_on_of_nodup_map h.numbers (hstored (hentries.mem_iff.mp ha)) (hstored hb)
    (hnumber hab hba)

lemma holds_empty : (empty : Keyed kind α).Holds key [] := by
  refine ⟨[], ⟨.nil, by simp, ?_⟩, rfl⟩
  intro g e
  simp [empty]

lemma Holds.find? (h : m.Holds key rows) (guid : Guid kind) :
    m.find? guid = rows.find? fun r => key r = guid := by
  obtain ⟨es, he, rfl⟩ := h
  rw [List.find?_map, Keyed.find?]
  congr 1
  cases hg : m.rows[guid]? with
  | some e =>
    obtain ⟨hm, hk⟩ := he.lookup.mp hg
    have hfound : es.find? (fun e => key e.row = guid) = some e := find_key_of_mem he.keys hm hk
    exact hfound.symm
  | none =>
    symm
    rw [List.find?_eq_none]
    intro e hm hk
    have hsome := he.lookup.mpr ⟨hm, of_decide_eq_true hk⟩
    rw [hg] at hsome
    cases hsome

lemma Holds.isSome_find? (h : m.Holds key rows) (guid : Guid kind) :
    (m.find? guid).isSome = rows.any fun r => key r = guid := by
  rw [h.find?, List.isSome_find?]

lemma Holds.any (h : m.Holds key rows) (p : α → Bool) : m.any p = rows.any p := by
  obtain ⟨es, he, rfl⟩ := h
  rw [List.any_map, Keyed.any]
  exact he.perm.any_eq

lemma Holds.inOrder (h : m.Holds key rows) : m.ordered Numbered.earlier (fun _ => true) = rows := by
  obtain ⟨es, he, rfl⟩ := h
  refine he.ordered Numbered.earlier_trans Numbered.earlier_total Numbered.earlier_number ?_ ?_
  · rw [List.filter_true]
  · exact he.order.imp fun hlt => decide_eq_true (Nat.le_of_lt hlt)

lemma Holds.listing (h : m.Holds key rows) (createdAt : α → Instant) (p : α → Bool) :
    m.ordered (Numbered.older createdAt) p = sortByCreation createdAt (rows.filter p) := by
  obtain ⟨es, he, rfl⟩ := h
  have horder : (es.filter fun e => p e.row).Pairwise (·.number < ·.number) := he.order.filter _
  rw [List.filter_map, sortByCreation_map]
  refine he.ordered Numbered.older_trans Numbered.older_total Numbered.older_number
    (sortByCreation_perm _) ?_
  refine (sortByCreation_stable horder).imp fun hs => ?_
  exact Numbered.older_iff.mpr ⟨hs.1, fun hc => Nat.le_of_lt (hs.2 hc)⟩

lemma Holds.insert (h : m.Holds key rows) (hnew : key row ∉ rows.map key) :
    (m.insert (key row) row).Holds key (rows ++ [row]) := by
  obtain ⟨es, he, rfl⟩ := h
  refine ⟨es ++ [⟨m.next, row⟩], ⟨?_, ?_, ?_⟩, by simp⟩
  · refine List.pairwise_append.mpr ⟨he.order, List.pairwise_singleton _ _, ?_⟩
    intro e hm f hf
    rw [List.mem_singleton.mp hf]
    exact he.below e hm
  · intro e hm
    rcases List.mem_append.mp hm with hm | hm
    · exact Nat.lt_succ_of_lt (he.below e hm)
    · rw [List.mem_singleton.mp hm]
      exact Nat.lt_succ_self m.next
  · intro g e
    rw [insert_rows, List.mem_append, List.mem_singleton]
    split
    · next hg =>
      subst hg
      constructor
      · rintro ⟨⟩
        exact ⟨.inr rfl, rfl⟩
      · rintro ⟨hm | rfl, hk⟩
        · exact (hnew (List.mem_map.mpr ⟨e.row, List.mem_map_of_mem hm, hk⟩)).elim
        · rfl
    · next hg =>
      rw [he.lookup]
      constructor
      · rintro ⟨hm, hk⟩
        exact ⟨.inl hm, hk⟩
      · rintro ⟨hm | rfl, hk⟩
        · exact ⟨hm, hk⟩
        · exact (hg hk).elim

lemma Holds.update (h : m.Holds key rows) (row : α) :
    (m.update (key row) row).Holds key (replaceFirst (fun r => key r = key row) row rows) := by
  obtain ⟨es, he, rfl⟩ := h
  refine ⟨es.map (Numbered.replaced key row), ⟨?_, ?_, ?_⟩, ?_⟩
  · simpa only [List.pairwise_map, Numbered.replaced_number] using he.order
  · simpa only [List.forall_mem_map, Numbered.replaced_number] using! he.below
  · intro g e
    rw [update_rows, List.mem_map]
    split
    · next hg =>
      subst hg
      simp only [Option.map_eq_some_iff, he.lookup]
      constructor
      · rintro ⟨f, ⟨hm, hk⟩, rfl⟩
        exact ⟨⟨f, hm, if_pos hk⟩, rfl⟩
      · rintro ⟨⟨f, hm, rfl⟩, hk⟩
        rw [Numbered.replaced_key key] at hk
        exact ⟨f, ⟨hm, hk⟩, (if_pos hk).symm⟩
    · next hg =>
      rw [he.lookup]
      constructor
      · rintro ⟨hm, rfl⟩
        exact ⟨⟨e, hm, if_neg (Ne.symm hg)⟩, rfl⟩
      · rintro ⟨⟨f, hm, rfl⟩, hk⟩
        rw [Numbered.replaced_key key] at hk
        rw [Numbered.replaced, if_neg fun hc => hg (hc.symm.trans hk)]
        exact ⟨hm, hk⟩
  · have hkeys : ((es.map (·.row)).map key).Nodup := by
      rw [List.map_map]
      exact he.keys
    rw [replaceFirst_eq_map hkeys, List.map_map, List.map_map]
    apply List.map_congr_left
    intro e _
    simp only [Function.comp_apply, Numbered.replaced]
    split <;> rfl

lemma Holds.delete (h : m.Holds key rows) (guid : Guid kind) :
    (m.delete guid).Holds key (rows.filter fun r => key r ≠ guid) := by
  obtain ⟨es, he, rfl⟩ := h
  refine ⟨es.filter fun e => key e.row ≠ guid, ⟨he.order.filter _, ?_, ?_⟩, ?_⟩
  · intro e hm
    exact he.below e (List.mem_of_mem_filter hm)
  · intro g e
    rw [delete_rows, List.mem_filter, decide_eq_true_eq]
    split
    · next hg =>
      constructor
      · rintro ⟨⟩
      · rintro ⟨⟨_, hne⟩, hk⟩
        exact (hne (hk.trans hg.symm)).elim
    · next hg =>
      rw [he.lookup]
      constructor
      · rintro ⟨hm, hk⟩
        exact ⟨⟨hm, fun hc => hg (hc.symm.trans hk)⟩, hk⟩
      · rintro ⟨⟨hm, _⟩, hk⟩
        exact ⟨hm, hk⟩
  · rw [List.filter_map]
    rfl

end Keyed

end Rollout
