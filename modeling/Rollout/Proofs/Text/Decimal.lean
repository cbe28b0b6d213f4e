import Mathlib.Algebra.Order.Ring.Nat
import Mathlib.Data.List.Induction
import Rollout.Text.Decimal

/-! Numbers read back from their decimal digits. -/

namespace Rollout.Text

lemma ofDigits_eq (digits : List Char) : ofDigits digits = Nat.ofDigitChars 10 digits 0 :=
  Nat.ofDigitChars_eq_foldl.symm

@[simp] lemma ofDigits_toDigits (n : Nat) : ofDigits (Nat.toDigits 10 n) = n := by
  rw [ofDigits_eq, Nat.ofDigitChars_ten_toDigits]

lemma isDigit_of_mem_toDigits {n : Nat} {c : Char} (h : c ∈ Nat.toDigits 10 n) :
    c.isDigit = true :=
  Nat.isDigit_of_mem_toDigits (by decide) (by decide) h

lemma digitValue_lt {c : Char} (h : c.isDigit = true) : digitValue c < 10 := by
  simp only [Char.isDigit, Bool.and_eq_true, decide_eq_true_eq, UInt32.le_iff_toNat_le] at h
  have htop : c.toNat ≤ 57 := h.2
  change c.toNat - 48 < 10
  omega

lemma ofDigits_lt {digits : List Char} (h : ∀ c ∈ digits, c.isDigit = true) :
    ofDigits digits < 10 ^ digits.length := by
  induction digits using List.reverseRecOn with
  | nil => simp [ofDigits]
  | append_singleton digits c ih =>
    have hdigits := ih fun d hd => h d (List.mem_append_left _ hd)
    have hc := digitValue_lt (h c (by simp))
    simp only [ofDigits, List.foldl_append, List.foldl_cons, List.foldl_nil, List.length_append,
      List.length_singleton, pow_succ] at hdigits ⊢
    omega

lemma readNat?_toString (n : Nat) : readNat? (toString n).toList = some n := by
  have hall : ∀ c ∈ Nat.toDigits 10 n, c.isDigit = true := fun _ => isDigit_of_mem_toDigits
  rw [Nat.toString_eq_ofList_toDigits, String.toList_ofList, readNat?,
    if_pos ⟨Nat.toDigits_ne_nil, List.all_eq_true.mpr hall⟩, ofDigits_toDigits]

section Padded

variable {width n : Nat}

lemma toList_padded : (padded width n).toList =
    List.replicate (width - (Nat.toDigits 10 n).length) '0' ++ Nat.toDigits 10 n := by
  rw [padded, Nat.toString_eq_ofList_toDigits]
  simp

@[simp] lemma ofDigits_padded : ofDigits (padded width n).toList = n := by
  rw [toList_padded, ofDigits_eq, Nat.ofDigitChars_append, Nat.ofDigitChars_replicate_zero,
    Nat.mul_zero, Nat.ofDigitChars_ten_toDigits]

lemma isDigit_of_mem_padded {c : Char} (h : c ∈ (padded width n).toList) : c.isDigit = true := by
  rw [toList_padded, List.mem_append] at h
  rcases h with h | h
  · rw [List.eq_of_mem_replicate h]
    rfl
  · exact isDigit_of_mem_toDigits h

lemma length_padded (hwidth : 0 < width) (h : n < 10 ^ width) :
    (padded width n).toList.length = width := by
  have hlength : (Nat.toDigits 10 n).length ≤ width :=
    (Nat.length_toDigits_le_iff (by decide) hwidth).mpr h
  simp [toList_padded, hlength]

lemma padded_ne_nil : (padded width n).toList ≠ [] := by
  rw [toList_padded]
  exact List.append_ne_nil_of_right_ne_nil _ Nat.toDigits_ne_nil

end Padded

variable {limit : Nat} {digits rest s : List Char}

/-- Digits are taken up to the limit or to the first other character, whichever comes first. -/
lemma takeDigits_append (hdigits : ∀ c ∈ digits, c.isDigit = true) (hlimit : digits.length ≤ limit)
    (hrest : digits.length = limit ∨ ∀ c ∈ rest.head?, c.isDigit = false) :
    takeDigits limit (digits ++ rest) = (digits, rest) := by
  induction digits generalizing limit with
  | nil =>
    cases limit with
    | zero => cases rest <;> rfl
    | succ limit =>
      cases rest with
      | nil => rfl
      | cons c rest =>
        have hc : c.isDigit = false := (hrest.resolve_left (by simp)) c rfl
        simp [takeDigits, hc]
  | cons c digits ih =>
    cases limit with
    | zero => simp at hlimit
    | succ limit =>
      have hc : c.isDigit = true := hdigits c List.mem_cons_self
      have htail := ih (fun d hd => hdigits d (List.mem_cons_of_mem c hd))
        (Nat.le_of_succ_le_succ hlimit) (hrest.imp_left Nat.succ.inj)
      simp [takeDigits, hc, htail]

lemma takeDigits_spec (limit : Nat) (s : List Char) :
    (∀ c ∈ (takeDigits limit s).1, c.isDigit = true) ∧ (takeDigits limit s).1.length ≤ limit := by
  induction s generalizing limit with
  | nil => cases limit <;> simp [takeDigits]
  | cons c s ih =>
    cases limit with
    | zero => simp [takeDigits]
    | succ limit =>
      by_cases hc : c.isDigit = true
      · simpa [takeDigits, hc] using ih limit
      · simp [takeDigits, hc]

end Rollout.Text
