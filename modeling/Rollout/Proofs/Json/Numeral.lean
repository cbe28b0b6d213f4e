import Mathlib.Data.List.TakeDrop
import Rollout.Proofs.Json.Codec
import Rollout.Proofs.Json.Text
import Rollout.Proofs.Text.Trim
import Rollout.Proofs.Text.Unsigned

/-! Numbers by the parts that they are written in, and which of them are ports. -/

namespace Rollout.Json

structure Digits where
  text : List Char
  ne_nil : text ≠ []
  digits : ∀ c ∈ text, c.isDigit = true

structure Exponent where
  mark : Char
  marked : mark = 'e' ∨ mark = 'E'
  sign : Option Bool
  digits : Digits

/-- A number in JSON has no zero in front of its other digits. -/
structure Numeral where
  negative : Bool
  whole : Digits
  fraction : Option Digits
  exponent : Option Exponent
  minimal : whole.text.head? = some '0' → whole.text.length = 1

namespace Exponent

def signText : Option Bool → List Char
  | none => []
  | some false => ['+']
  | some true => ['-']

def text (e : Exponent) : List Char := e.mark :: (signText e.sign ++ e.digits.text)

def value (e : Exponent) : Int :=
  if e.sign = some true then -(Text.ofDigits e.digits.text : Int) else Text.ofDigits e.digits.text

end Exponent

namespace Numeral

def fractionText (t : Numeral) : List Char := t.fraction.elim [] ('.' :: ·.text)

def exponentText (t : Numeral) : List Char := t.exponent.elim [] (·.text)

def unsigned (t : Numeral) : List Char := t.whole.text ++ (t.fractionText ++ t.exponentText)

def text (t : Numeral) : String :=
  String.ofList ((if t.negative then ['-'] else []) ++ t.unsigned)

def value (t : Numeral) : Json :=
  Number.ofParts t.negative t.whole.text (t.fraction.elim [] (·.text)) (t.exponent.map (·.value))

def ofNat (n : Nat) : Numeral where
  negative := false
  whole := ⟨Nat.toDigits 10 n, Nat.toDigits_ne_nil, fun _ => Text.isDigit_of_mem_toDigits⟩
  fraction := none
  exponent := none
  minimal := Text.length_of_zero_toDigits

end Numeral

variable {t : Numeral} {s rest : List Char} {c : Char} {n fuel : Nat}

namespace Digits

variable (d : Digits)

lemma span (h : ∀ c ∈ rest.head?, c.isDigit = false) :
    (d.text ++ rest).span Char.isDigit = (d.text, rest) := by
  rw [List.span_eq_takeWhile_dropWhile, List.takeWhile_append_of_pos d.digits,
    Text.dropWhile_append_of_stops d.digits h]
  cases rest with
  | nil => simp
  | cons c rest => rw [List.takeWhile_cons_of_neg (Bool.eq_false_iff.mp (h c rfl)), List.append_nil]

lemma span_self : d.text.span Char.isDigit = (d.text, []) := by
  have h : (d.text ++ []).span Char.isDigit = (d.text, []) := d.span nofun
  rwa [List.append_nil] at h

lemma exists_cons : ∃ c rest, d.text = c :: rest ∧ c.isDigit = true := by
  obtain ⟨c, rest, h⟩ := List.exists_cons_of_ne_nil d.ne_nil
  exact ⟨c, rest, h, d.digits c (h ▸ List.mem_cons_self)⟩

end Digits

section Read

lemma readExponent_text (e : Exponent) : readExponent e.text = some (some e.value, []) := by
  obtain ⟨c, rest, htext, hc⟩ := e.digits.exists_cons
  have hspan := e.digits.span_self
  rw [Exponent.text, Exponent.value]
  rw [htext] at hspan ⊢
  rcases e.sign with _ | _ | _
  · rw [Exponent.signText, List.nil_append, readExponent, if_pos e.marked, hspan]
    · rfl
    all_goals
      rintro _ ⟨⟩
      exact absurd hc (by decide)
  all_goals
    rw [Exponent.signText, List.singleton_append, readExponent, if_pos e.marked, hspan]
    rfl

lemma head?_exponentText (h : c ∈ t.exponentText.head?) : c.isDigit = false ∧ c ≠ '.' := by
  rw [Numeral.exponentText] at h
  cases he : t.exponent with
  | none =>
    rw [he] at h
    cases h
  | some e =>
    rw [he] at h
    obtain rfl : e.mark = c := Option.some.inj h
    rcases e.marked with hmark | hmark <;> rw [hmark] <;> decide

lemma readExponent_exponentText :
    readExponent t.exponentText = some (t.exponent.map (·.value), []) := by
  rw [Numeral.exponentText]
  cases t.exponent with
  | none => rfl
  | some e => exact readExponent_text e

lemma readFraction_text : readFraction (t.fractionText ++ t.exponentText) =
    some (t.fraction.elim [] (·.text), t.exponentText) := by
  rw [Numeral.fractionText]
  cases t.fraction with
  | none =>
    simp only [Option.elim_none, List.nil_append]
    rw [readFraction.eq_def]
    split
    · next s hs =>
      have hhead : '.' ∈ t.exponentText.head? := hs ▸ rfl
      exact absurd rfl (head?_exponentText hhead).2
    · rfl
  | some d =>
    obtain ⟨c, rest, htext, -⟩ := d.exists_cons
    have hspan := d.span fun c hc => (head?_exponentText (t := t) hc).1
    simp only [Option.elim_some, List.cons_append]
    rw [htext] at hspan ⊢
    rw [readFraction, hspan]

lemma head?_fractionText (h : c ∈ (t.fractionText ++ t.exponentText).head?) :
    c.isDigit = false := by
  rw [Numeral.fractionText] at h
  cases hf : t.fraction with
  | none =>
    rw [hf] at h
    exact (head?_exponentText h).1
  | some d =>
    rw [hf] at h
    obtain rfl : '.' = c := Option.some.inj h
    decide

lemma readNumber_unsigned (negative : Bool) : readNumber negative t.unsigned =
    ⟨Number.ofParts negative t.whole.text (t.fraction.elim [] (·.text))
      (t.exponent.map (·.value)), some []⟩ := by
  have hspan := t.whole.span fun c hc => head?_fractionText (t := t) hc
  have hlegal : ¬ (t.whole.text = [] ∨
      (t.whole.text.head? = some '0' ∧ t.whole.text.length ≠ 1)) := by
    rintro (hnil | ⟨hzero, hlength⟩)
    · exact t.whole.ne_nil hnil
    · exact hlength (t.minimal hzero)
  rw [Numeral.unsigned, readNumber, hspan]
  simp only [if_neg hlegal, readFraction_text, readExponent_exponentText]

lemma isSpace_of_isDigit (hc : c.isDigit = true) : isSpace c = false := by
  rw [Bool.eq_false_iff]
  intro hspace
  simp only [isSpace, Bool.or_eq_true, beq_iff_eq] at hspace
  rcases hspace with ((rfl | rfl) | rfl) | rfl <;> cases hc

lemma readValue_digit (hc : c.isDigit = true) :
    readValue (fuel + 1) (c :: s) = readNumber false (c :: s) := by
  rw [readValue, skipSpace_stop (isSpace_of_isDigit hc)]
  split
  case h_8 => rfl
  all_goals
    rename_i hs
    cases hs
    cases hc

lemma readValue_minus : readValue (fuel + 1) ('-' :: s) = readNumber true s := by
  rw [readValue, skipSpace_stop rfl]
  rfl

lemma parse?_text (t : Numeral) : parse? t.text = some t.value := by
  have hread : ∀ fuel, readValue (fuel + 1) t.text.toList = ⟨t.value, some []⟩ := by
    intro fuel
    rw [Numeral.text, String.toList_ofList, Numeral.value, ← readNumber_unsigned t.negative]
    cases t.negative with
    | true => exact readValue_minus
    | false =>
      obtain ⟨c, rest, htext, hc⟩ := t.whole.exists_cons
      rw [Numeral.unsigned, htext]
      exact readValue_digit hc
  rw [parse?, read, hread]
  rfl

end Read

section Ports

lemma uint16?_eq_some {j : Json} {port : UInt16} :
    uint16? j = some port ↔ j = .number (.int port.toNat) := by
  constructor
  · intro h
    obtain ⟨n, hn, rfl⟩ := Option.map_eq_some_iff.mp h
    rw [natBelow?.eq_def] at hn
    split at hn
    · next k =>
      split at hn
      · next hk =>
        obtain rfl := Option.some.inj hn
        rw [UInt16.toNat_ofNat_of_lt' hk]
        rfl
      · cases hn
    · cases hn
  · rintro rfl
    exact uint16?_nat port

lemma decimal_cases (negative : Bool) (digits : Nat) (exponent : Int) :
    Number.ofParts.decimal negative digits exponent = .unreadable ∨
      Number.ofParts.decimal negative digits exponent =
        .number (.decimal negative digits exponent) := by
  rw [Number.ofParts.decimal]
  split
  · exact .inr rfl
  · exact .inl rfl

lemma decimal_ne_int {negative : Bool} {digits : Nat} {exponent z : Int} :
    Number.ofParts.decimal negative digits exponent ≠ .number (.int z) := by
  rcases decimal_cases negative digits exponent with h | h <;> rw [h] <;> nofun

lemma value_cases (t : Numeral) : t.value = .unreadable ∨ ∃ n, t.value = .number n := by
  rw [Numeral.value, Number.ofParts]
  split_ifs
  · exact .inr ⟨_, rfl⟩
  · exact (decimal_cases _ _ _).imp_right fun h => ⟨_, h⟩
  · exact .inr ⟨_, rfl⟩
  · exact (decimal_cases _ _ _).imp_right fun h => ⟨_, h⟩
  · exact (decimal_cases _ _ _).imp_right fun h => ⟨_, h⟩

lemma value_eq_int : t.value = .number (.int n) ↔
    t.negative = false ∧ t.fraction = none ∧ t.exponent = none ∧
      Text.ofDigits t.whole.text = n ∧ n < UInt64.size := by
  obtain ⟨negative, whole, fraction, exponent, _⟩ := t
  rw [Numeral.value, Number.ofParts]
  cases fraction with
  | some d => simp [d.ne_nil, decimal_ne_int]
  | none =>
    cases exponent with
    | some e => simp [decimal_ne_int]
    | none =>
      cases negative with
      | true =>
        simp only [Option.elim_none, Option.map_none, and_self, if_true, Bool.true_eq_false,
          false_and, iff_false, List.append_nil]
        by_cases hpos : 0 < Text.ofDigits whole.text ∧ Text.ofDigits whole.text ≤ UInt64.size / 2
        · rw [if_pos hpos, Json.number.injEq, Number.int.injEq]
          omega
        · rw [if_neg hpos]
          exact decimal_ne_int
      | false =>
        simp only [Option.elim_none, Option.map_none, and_self, if_true, Bool.false_eq_true,
          if_false, List.append_nil, true_and]
        split
        · next hsmall =>
          rw [Json.number.injEq, Number.int.injEq, Int.natCast_inj]
          exact ⟨fun h => ⟨h, h ▸ hsmall⟩, And.left⟩
        · next hlarge =>
          refine ⟨fun h => (decimal_ne_int h).elim, ?_⟩
          rintro ⟨rfl, hsmall⟩
          exact (hlarge hsmall).elim

end Ports

end Rollout.Json
