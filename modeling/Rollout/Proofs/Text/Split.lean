import Mathlib.Data.List.Basic
import Mathlib.Data.List.TakeDrop
import Mathlib.Data.List.TakeWhile
import Mathlib.Tactic.Lemma
import Rollout.Text.Blank
import Rollout.Text.Split

/-! Where a text is cut, which texts include a part, and which have nothing to trim. -/

namespace Rollout.Text

variable {c : Char} {s before after part rest : List Char} {p : Char → Bool}

lemma cut?_eq_some :
    cut? c s = some (before, after) ↔ c ∉ before ∧ s = before ++ c :: after := by
  rw [cut?, List.span_eq_takeWhile_dropWhile]
  constructor
  · intro h
    cases hd : s.dropWhile (· != c) with
    | nil => simp [hd] at h
    | cons d rest =>
      simp only [hd, Option.some.injEq, Prod.mk.injEq] at h
      obtain ⟨rfl, rfl⟩ := h
      obtain rfl : d = c := by simpa [hd] using List.head?_dropWhile_not (· != c) s
      refine ⟨fun hc => by simpa using List.mem_takeWhile_imp hc, ?_⟩
      rw [← hd, List.takeWhile_append_dropWhile]
  · rintro ⟨hc, rfl⟩
    have hp : ∀ d ∈ before, (d != c) = true := fun d hd => bne_iff_ne.mpr fun e => hc (e ▸ hd)
    rw [List.takeWhile_append_of_pos hp, List.dropWhile_append_of_pos hp]
    simp

lemma cut?_eq_none : cut? c s = none ↔ c ∉ s := by
  constructor
  · intro h hc
    obtain ⟨before, after, rfl, hbefore⟩ := List.eq_append_cons_of_mem hc
    rw [cut?_eq_some.mpr ⟨hbefore, rfl⟩] at h
    cases h
  · intro hc
    cases h : cut? c s with
    | none => rfl
    | some cut =>
      obtain ⟨-, rfl⟩ := cut?_eq_some.mp h
      exact (hc (List.mem_append_right _ List.mem_cons_self)).elim

/-- The first `c` divides a text in one way. -/
lemma append_cons_inj {before' after' : List Char} (h : c ∉ before) (h' : c ∉ before') :
    before ++ c :: after = before' ++ c :: after' ↔ before = before' ∧ after = after' := by
  constructor
  · intro he
    have hcut : cut? c (before ++ c :: after) = some (before, after) := cut?_eq_some.mpr ⟨h, rfl⟩
    rw [cut?_eq_some.mpr ⟨h', he⟩] at hcut
    obtain ⟨rfl, rfl⟩ := Prod.mk.inj (Option.some.inj hcut)
    exact ⟨rfl, rfl⟩
  · rintro ⟨rfl, rfl⟩
    rfl

lemma cutLast?_eq_some :
    cutLast? c s = some (before, after) ↔ c ∉ after ∧ s = before ++ c :: after := by
  rw [cutLast?, Option.map_eq_some_iff]
  constructor
  · rintro ⟨⟨x, y⟩, hcut, he⟩
    obtain ⟨rfl, rfl⟩ := Prod.mk.inj he
    obtain ⟨hx, hs⟩ := cut?_eq_some.mp hcut
    refine ⟨fun h => hx (List.mem_reverse.mp h), ?_⟩
    rw [List.reverse_eq_iff.mp hs]
    simp
  · rintro ⟨hc, rfl⟩
    refine ⟨(after.reverse, before.reverse), cut?_eq_some.mpr ⟨?_, by simp⟩, by simp⟩
    exact fun h => hc (List.mem_reverse.mp h)

lemma cutLast?_eq_none : cutLast? c s = none ↔ c ∉ s := by
  rw [cutLast?, Option.map_eq_none_iff, cut?_eq_none, List.mem_reverse]

lemma includes_iff : includes part s = true ↔ part <:+: s := by
  induction s with
  | nil => rw [includes, List.isEmpty_iff, List.infix_nil]
  | cons c s ih =>
    rw [includes, Bool.or_eq_true, List.isPrefixOf_iff_prefix, ih, List.infix_cons_iff]

/-- A part does not reach into a text that its last character does not occur in. -/
lemma infix_of_append (hlast : part.getLast? = some c) (hc : c ∉ rest) (h : part <:+: s ++ rest) :
    part <:+: s := by
  rcases List.infix_append_iff.mp h with hs | hrest | ⟨front, back, rfl, hfront, hback⟩
  · exact hs
  · exact (hc (hrest.subset (List.mem_of_getLast? hlast))).elim
  · cases back with
    | nil =>
      rw [List.append_nil]
      exact hfront.isInfix
    | cons d back =>
      rw [List.getLast?_append_of_ne_nil _ (List.cons_ne_nil d back)] at hlast
      exact (hc (hback.subset (List.mem_of_getLast? hlast))).elim

lemma dropWhile_eq_self (h : ∀ c ∈ s, p c = false) : s.dropWhile p = s := by
  cases s with
  | nil => rfl
  | cons c s => simp [h c List.mem_cons_self]

lemma trimWhile_eq_self (h : ∀ c ∈ s, p c = false) : trimWhile p s = s := by
  have hreverse : ∀ c ∈ s.reverse, p c = false := fun c hc => h c (List.mem_reverse.mp hc)
  rw [trimWhile, dropWhile_eq_self h, dropEndWhile, dropWhile_eq_self hreverse,
    List.reverse_reverse]

end Rollout.Text
