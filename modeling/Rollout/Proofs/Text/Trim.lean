import Mathlib.Data.List.TakeWhile
import Mathlib.Tactic.Lemma
import Rollout.Text.Blank

/-! What is left of a text without the characters at its ends that a predicate holds of. -/

namespace Rollout.Text

variable {p : Char → Bool} {s t lead : List Char}

def Stripped (p : Char → Bool) (s t : List Char) : Prop :=
  ∃ lead, s = lead ++ t ∧ (∀ c ∈ lead, p c = true) ∧ ∀ c ∈ t.head?, p c = false

def StrippedEnd (p : Char → Bool) (s t : List Char) : Prop :=
  ∃ trail, s = t ++ trail ∧ (∀ c ∈ trail, p c = true) ∧ ∀ c ∈ t.getLast?, p c = false

def Trimmed (p : Char → Bool) (s t : List Char) : Prop :=
  ∃ rest, Stripped p s rest ∧ StrippedEnd p rest t

lemma dropWhile_append_of_stops (hlead : ∀ c ∈ lead, p c = true) (h : ∀ c ∈ t.head?, p c = false) :
    (lead ++ t).dropWhile p = t := by
  rw [List.dropWhile_append_of_pos hlead]
  cases t with
  | nil => rfl
  | cons c t => rw [List.dropWhile_cons_of_neg (Bool.eq_false_iff.mp (h c rfl))]

lemma head?_dropWhile {c : Char} (hc : c ∈ (s.dropWhile p).head?) : p c = false := by
  have hstops := List.head?_dropWhile_not p s
  rw [Option.mem_def.mp hc] at hstops
  exact hstops

lemma stripped_iff : Stripped p s t ↔ s.dropWhile p = t := by
  constructor
  · rintro ⟨lead, rfl, hlead, hhead⟩
    exact dropWhile_append_of_stops hlead hhead
  · rintro rfl
    exact ⟨s.takeWhile p, List.takeWhile_append_dropWhile.symm,
      fun c => List.mem_takeWhile_imp, fun c => head?_dropWhile⟩

lemma strippedEnd_iff_reverse : StrippedEnd p s t ↔ Stripped p s.reverse t.reverse := by
  simp only [Stripped, StrippedEnd, List.head?_reverse]
  constructor
  · rintro ⟨trail, rfl, htrail, hlast⟩
    exact ⟨trail.reverse, List.reverse_append, fun c hc => htrail c (List.mem_reverse.mp hc), hlast⟩
  · rintro ⟨lead, hs, hlead, hlast⟩
    refine ⟨lead.reverse, ?_, fun c hc => hlead c (List.mem_reverse.mp hc), hlast⟩
    rw [← List.reverse_inj, hs, List.reverse_append, List.reverse_reverse]

lemma strippedEnd_iff : StrippedEnd p s t ↔ dropEndWhile p s = t := by
  rw [strippedEnd_iff_reverse, stripped_iff, dropEndWhile, List.reverse_eq_iff]

lemma trimmed_iff : Trimmed p s t ↔ trimWhile p s = t := by
  simp only [Trimmed, stripped_iff, strippedEnd_iff, trimWhile, exists_eq_left']

lemma isBlank_of_visible {c : Char} (hlow : 0x20 < c.toNat) (hhigh : c.toNat < 0x7F) :
    isBlank c = false := by
  simp only [isBlank, Bool.or_eq_false_iff, Bool.and_eq_false_iff, decide_eq_false_iff_not,
    beq_eq_false_iff_ne]
  omega

lemma isBlank_of_isDigit {c : Char} (h : c.isDigit = true) : isBlank c = false := by
  obtain ⟨hlow, hhigh⟩ : 48 ≤ c.toNat ∧ c.toNat ≤ 57 := Char.isDigit_iff_toNat.mp h
  exact isBlank_of_visible (by omega) (by omega)

end Rollout.Text
