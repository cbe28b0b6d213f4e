import Rollout.Proofs.Text.Decimal

/-! Which texts a natural number may be written as. -/

namespace Rollout.Text

variable {s : List Char} {n m : Nat} {c : Char}

def Spells (s : List Char) (n : Nat) : Prop :=
  ∃ (plus : Bool) (zeros : Nat),
    s = (if plus then ['+'] else []) ++ (List.replicate zeros '0' ++ Nat.toDigits 10 n)

lemma digitChar_digitValue (h : c.isDigit = true) : Nat.digitChar (digitValue c) = c := by
  have hlow : 48 ≤ c.toNat := (Char.isDigit_iff_toNat.mp h).1
  apply Char.toNat_inj.mp
  rw [Nat.toNat_digitChar_of_lt_ten (digitValue_lt h)]
  change 48 + (c.toNat - 48) = c.toNat
  omega

lemma ofDigits_concat : ofDigits (s ++ [c]) = 10 * ofDigits s + digitValue c := by
  rw [ofDigits, ofDigits, List.foldl_append, List.foldl_cons, List.foldl_nil]

lemma exists_zeros (hne : s ≠ []) (h : ∀ c ∈ s, c.isDigit = true) :
    ∃ zeros, s = List.replicate zeros '0' ++ Nat.toDigits 10 (ofDigits s) := by
  induction s using List.reverseRecOn with
  | nil => exact (hne rfl).elim
  | append_singleton t c ih =>
    have hc : c.isDigit = true := h c (by simp)
    have hdigit : Nat.toDigits 10 (digitValue c) = [c] := by
      rw [Nat.toDigits_of_lt_base (digitValue_lt hc), digitChar_digitValue hc]
    rw [ofDigits_concat]
    by_cases ht : t = []
    · subst ht
      exact ⟨0, by simp [ofDigits, hdigit]⟩
    obtain ⟨zeros, hzeros⟩ := ih ht fun d hd => h d (List.mem_append_left _ hd)
    rcases Nat.eq_zero_or_pos (ofDigits t) with hzero | hpos
    · -- The last digit of nothing but zeros is one more zero in front.
      rw [hzero] at hzeros ⊢
      refine ⟨zeros + 1, ?_⟩
      rw [Nat.mul_zero, Nat.zero_add, hdigit, List.replicate_succ', hzeros]
      rfl
    · refine ⟨zeros, ?_⟩
      rw [← Nat.toDigits_append_toDigits (by decide) hpos (digitValue_lt hc), hdigit,
        ← List.append_assoc, ← hzeros]

lemma readNat?_iff : readNat? s = some n ↔
    ∃ zeros, s = List.replicate zeros '0' ++ Nat.toDigits 10 n := by
  constructor
  · intro h
    rw [readNat?] at h
    split at h
    · next hs =>
      obtain rfl := Option.some.inj h
      exact exists_zeros hs.1 (List.all_eq_true.mp hs.2)
    · cases h
  · rintro ⟨zeros, rfl⟩
    have hall : (List.replicate zeros '0' ++ Nat.toDigits 10 n).all Char.isDigit = true := by
      rw [List.all_append, List.all_replicate,
        List.all_eq_true.mpr fun _ => isDigit_of_mem_toDigits]
      simp
    rw [readNat?, if_pos ⟨List.append_ne_nil_of_right_ne_nil _ Nat.toDigits_ne_nil, hall⟩,
      ofDigits_eq, Nat.ofDigitChars_append, Nat.ofDigitChars_replicate_zero, Nat.mul_zero,
      Nat.ofDigitChars_ten_toDigits]

lemma not_plus_of_digit {zeros : Nat} (h : s = List.replicate zeros '0' ++ Nat.toDigits 10 n)
    {t : List Char} : s ≠ '+' :: t := by
  rintro rfl
  have hplus : '+' ∈ List.replicate zeros '0' ++ Nat.toDigits 10 n := h ▸ List.mem_cons_self
  rcases List.mem_append.mp hplus with hm | hm
  · exact absurd (List.eq_of_mem_replicate hm) (by decide)
  · exact absurd (isDigit_of_mem_toDigits hm) (by decide)

lemma readUnsigned?_iff : readUnsigned? s = some n ↔ Spells s n := by
  rw [Spells, Bool.exists_bool]
  simp only [Bool.false_eq_true, if_false, if_true, List.nil_append, List.singleton_append]
  rw [readUnsigned?.eq_def]
  split
  · next t =>
    rw [readNat?_iff]
    simp only [List.cons.injEq, true_and]
    refine ⟨.inr, ?_⟩
    rintro (⟨zeros, h⟩ | h)
    · exact (not_plus_of_digit h rfl).elim
    · exact h
  · next hplus =>
    rw [readNat?_iff]
    refine ⟨.inl, ?_⟩
    rintro (h | ⟨zeros, h⟩)
    · exact h
    · exact (hplus _ h).elim

lemma Spells.inj (h : Spells s n) (h' : Spells s m) : n = m :=
  Option.some.inj ((readUnsigned?_iff.mpr h).symm.trans (readUnsigned?_iff.mpr h'))

/-- No number has a zero in front that it could do without. -/
lemma length_of_zero_toDigits (h : (Nat.toDigits 10 n).head? = some '0') :
    (Nat.toDigits 10 n).length = 1 := by
  obtain ⟨rest, hrest⟩ := List.head?_eq_some_iff.mp h
  by_contra hlength
  have hne : rest ≠ [] := by
    rintro rfl
    exact hlength (by rw [hrest]; rfl)
  have hvalue : ofDigits rest = n := by
    rw [← ofDigits_toDigits n, hrest]
    rfl
  obtain ⟨zeros, hzeros⟩ := exists_zeros hne fun c hc =>
    isDigit_of_mem_toDigits (hrest ▸ List.mem_cons_of_mem _ hc)
  have hlonger := congrArg List.length hzeros
  rw [hvalue, List.length_append, hrest, List.length_cons] at hlonger
  omega

end Rollout.Text
