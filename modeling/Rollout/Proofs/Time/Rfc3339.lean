import Rollout.Proofs.Text.Decimal
import Rollout.Proofs.Text.Trim
import Rollout.Proofs.Time.Calendar
import Rollout.Time.Document

/-! Instants read back from their text, and all that is read is an instant that can be written. -/

namespace Rollout.Instant

open Text (isBlank isBlank_of_isDigit takeDigits ofDigits padded)

/-- Instants of the years that a date can have; a second is doubled only at the end of a minute. -/
def InRange (t : Instant) : Prop :=
  Date.YearInRange (Date.ofDays (t.seconds / 86400)).year ∧
    (t.nanos < 1000000000 ∨ (t.nanos < 2000000000 ∧ t.seconds % 60 = 59))

instance (t : Instant) : Decidable t.InRange := inferInstanceAs (Decidable (_ ∧ _))

variable {digits rest : List Char} {most n : Nat}

lemma dropWhile_digits (hdigits : ∀ c ∈ digits, c.isDigit = true) (hne : digits ≠ []) :
    (digits ++ rest).dropWhile isBlank = digits ++ rest := by
  obtain ⟨c, tail, rfl⟩ := List.exists_cons_of_ne_nil hne
  simp [isBlank_of_isDigit (hdigits c List.mem_cons_self)]

lemma readPart_digits (hdigits : ∀ c ∈ digits, c.isDigit = true) (hne : digits ≠ [])
    (hlength : digits.length = most) :
    readPart most (digits ++ rest) = some (ofDigits digits, rest) := by
  rw [readPart, dropWhile_digits hdigits hne,
    Text.takeDigits_append hdigits hlength.le (.inl hlength)]
  split
  · next h =>
    obtain ⟨rfl, -⟩ := Prod.mk.inj h
    exact (hne rfl).elim
  · next h =>
    obtain ⟨rfl, rfl⟩ := Prod.mk.inj h
    rfl

lemma readPart_padded (hmost : 0 < most) (hn : n < 10 ^ most) :
    readPart most ((padded most n).toList ++ rest) = some (n, rest) := by
  rw [readPart_digits (fun _ => Text.isDigit_of_mem_padded) Text.padded_ne_nil
    (Text.length_padded hmost hn), Text.ofDigits_padded]

lemma readMark_cons {mark : Char} (h : isBlank mark = false) :
    readMark mark (mark :: rest) = some rest := by
  simp [readMark, h]

lemma readYear_signed {sign : Int → Int} (hrest : ∀ c ∈ rest.head?, c.isDigit = false) :
    readYear.signed ((padded 4 n).toList ++ rest) sign = some (sign n, rest) := by
  have htake : takeDigits ((padded 4 n).toList ++ rest).length ((padded 4 n).toList ++ rest) =
      ((padded 4 n).toList, rest) :=
    Text.takeDigits_append (fun _ => Text.isDigit_of_mem_padded) (by simp) (.inr hrest)
  rw [readYear.signed, htake]
  split
  · next h => exact (Text.padded_ne_nil (Prod.mk.inj h).1).elim
  · next h =>
    obtain ⟨rfl, rfl⟩ := Prod.mk.inj h
    rw [Text.ofDigits_padded]

lemma readYear_digit {c : Char} {s : List Char} (h : c.isDigit = true) :
    readYear (c :: s) = (readPart 4 (c :: s)).map fun (n, rest) => ((n : Int), rest) := by
  have hdrop : (c :: s).dropWhile isBlank = c :: s := by simp [isBlank_of_isDigit h]
  rw [readYear, hdrop]
  split
  · next he =>
    cases he
    cases h
  · next he =>
    cases he
    cases h
  · rfl

lemma readYear_text {year : Int} (hrest : ∀ c ∈ rest.head?, c.isDigit = false) :
    readYear ((yearText year).toList ++ rest) = some (year, rest) := by
  unfold yearText
  split
  · next h =>
    have hread : readPart 4 ((padded 4 year.toNat).toList ++ rest) = some (year.toNat, rest) :=
      readPart_padded (by decide) (by omega)
    have hdigit : ∀ c ∈ (padded 4 year.toNat).toList, c.isDigit = true :=
      fun _ => Text.isDigit_of_mem_padded
    have hne : (padded 4 year.toNat).toList ≠ [] := Text.padded_ne_nil
    obtain ⟨c, tail, htext⟩ := List.exists_cons_of_ne_nil hne
    rw [htext] at hread hdigit ⊢
    rw [List.cons_append, readYear_digit (hdigit c List.mem_cons_self), ← List.cons_append, hread]
    simp [h.1]
  · next h =>
    by_cases hneg : year < 0
    · simp [hneg, readYear, isBlank, readYear_signed hrest, abs_of_neg hneg]
    · simp [hneg, readYear, isBlank, readYear_signed hrest, abs_of_nonneg (Int.not_lt.mp hneg)]

lemma day_lt_of_valid {date : Date} (h : date.Valid) : date.day < 10 ^ 2 := by
  have hlength : Date.monthLength date.year date.month ≤ 31 := by
    unfold Date.monthLength
    split
    · split <;> decide
    all_goals decide
  exact (h.2.2.2.trans hlength).trans_lt (by decide)

lemma readDate_text {date : Date} (h : date.Valid) :
    readDate ((yearText date.year).toList ++ '-' :: ((padded 2 date.month).toList ++
      '-' :: ((padded 2 date.day).toList ++ rest))) = some (date, rest) := by
  have hmonth : date.month < 10 ^ 2 := h.2.1.2.trans_lt (by decide)
  have hyear : ∀ {s : List Char}, readYear ((yearText date.year).toList ++ '-' :: s) =
      some (date.year, '-' :: s) := readYear_text (by simp)
  have hdash : ∀ {s : List Char}, readMark '-' ('-' :: s) = some s := readMark_cons (by decide)
  simp only [readDate, hyear, hdash, readPart_padded (by decide) hmonth,
    readPart_padded (by decide) (day_lt_of_valid h), Option.bind_eq_bind, Option.bind_some]
  rw [if_pos h]

lemma readNanos_point {width n : Nat} (hpos : 0 < width) (hwidth : width ≤ 9) (hn : n < 10 ^ width)
    (hrest : ∀ c ∈ rest.head?, c.isDigit = false) :
    readNanos ('.' :: ((padded width n).toList ++ rest)) = some (n * 10 ^ (9 - width), rest) := by
  have hlength : (padded width n).toList.length = width := Text.length_padded hpos hn
  have htake : takeDigits 9 ((padded width n).toList ++ rest) = ((padded width n).toList, rest) :=
    Text.takeDigits_append (fun _ => Text.isDigit_of_mem_padded) (hlength.le.trans hwidth)
      (.inr hrest)
  have hdrop : rest.dropWhile Char.isDigit = rest := by
    cases rest with
    | nil => rfl
    | cons c rest => simp [hrest c rfl]
  simp only [readNanos, htake]
  split
  · next h => exact (Text.padded_ne_nil (Prod.mk.inj h).1).elim
  · next h =>
    obtain ⟨rfl, rfl⟩ := Prod.mk.inj h
    rw [Text.ofDigits_padded, hlength, hdrop]
    rfl

/-- Nanoseconds are written in three, six or nine digits, or not at all. -/
lemma readNanos_text {nanos : Nat} (h : nanos < 1000000000) :
    readNanos ((fractionText nanos).toList ++ ['Z']) = some (nanos, ['Z']) := by
  have hpoint : ∀ {width n}, 0 < width → width ≤ 9 → n < 10 ^ width → n * 10 ^ (9 - width) = nanos →
      readNanos (("." ++ padded width n).toList ++ ['Z']) = some (nanos, ['Z']) := by
    intro width n hpos hwidth hn hnanos
    have hread : readNanos ('.' :: ((padded width n).toList ++ ['Z'])) =
        some (n * 10 ^ (9 - width), ['Z']) := readNanos_point hpos hwidth hn (by simp)
    rw [hnanos] at hread
    simpa using hread
  unfold fractionText
  split
  · next hzero => rw [hzero]; rfl
  split
  · exact hpoint (by decide) (by decide) (by omega) (by omega)
  split
  · exact hpoint (by decide) (by decide) (by omega) (by omega)
  · exact hpoint (by decide) (by decide) (by omega) (by omega)

section Clock

variable {seconds nanos : Nat}

/-- A doubled second is written as second 60 of its minute. -/
lemma readClock_text (hseconds : seconds < 86400)
    (hnanos : nanos < 1000000000 ∨ (nanos < 2000000000 ∧ seconds % 60 = 59)) :
    readClock ((padded 2 (seconds / 3600)).toList ++ ':' ::
      ((padded 2 (seconds / 60 % 60)).toList ++ ':' ::
        ((padded 2 (seconds % 60 + nanos / 1000000000)).toList ++
          ((fractionText (nanos % 1000000000)).toList ++ ['Z'])))) =
      some ((seconds, nanos), ['Z']) := by
  have hcolon : ∀ {s : List Char}, readMark ':' (':' :: s) = some s := readMark_cons (by decide)
  have hfraction := readNanos_text (Nat.mod_lt nanos (by decide : 0 < 1000000000))
  have hhour : seconds / 3600 < 10 ^ 2 := by omega
  have hminute : seconds / 60 % 60 < 10 ^ 2 := by omega
  have hsecond : seconds % 60 + nanos / 1000000000 < 10 ^ 2 := by omega
  simp only [readClock, hcolon, hfraction, readPart_padded (by decide) hhour,
    readPart_padded (by decide) hminute, readPart_padded (by decide) hsecond,
    Option.bind_eq_bind, Option.bind_some]
  rcases hnanos with hsmall | ⟨hsmall, hlast⟩
  · rw [if_pos (by omega), Nat.div_eq_of_lt hsmall, Nat.mod_eq_of_lt hsmall]
    congr 3
    omega
  · by_cases hleap : nanos < 1000000000
    · rw [if_pos (by omega), Nat.div_eq_of_lt hleap, Nat.mod_eq_of_lt hleap]
      congr 3
      omega
    · rw [if_neg (by omega), if_pos (by omega)]
      congr 3 <;> omega

end Clock

variable {t : Instant}

lemma text_toList (t : Instant) : t.text.toList =
    (yearText (Date.ofDays (t.seconds / 86400)).year).toList ++
      '-' :: ((padded 2 (Date.ofDays (t.seconds / 86400)).month).toList ++
        '-' :: ((padded 2 (Date.ofDays (t.seconds / 86400)).day).toList ++ 'T' ::
          ((padded 2 ((t.seconds % 86400).toNat / 3600)).toList ++ ':' ::
            ((padded 2 ((t.seconds % 86400).toNat / 60 % 60)).toList ++ ':' ::
              ((padded 2 ((t.seconds % 86400).toNat % 60 + t.nanos / 1000000000)).toList ++
                ((fractionText (t.nanos % 1000000000)).toList ++ ['Z'])))))) := by
  simp [text]

theorem parse?_text (h : t.InRange) : parse? t.text = some t := by
  obtain ⟨hyear, hnanos⟩ := h
  have hday := Date.toDays_ofDays (t.seconds / 86400)
  have hseconds : (t.seconds % 86400).toNat < 86400 := by omega
  have hclock := readClock_text hseconds (hnanos.imp_right fun hleap => ⟨hleap.1, by omega⟩)
  have hoffset : readOffset (['Z'].dropWhile isBlank) = some (0, []) := by decide
  have htotal : t.seconds / 86400 * 86400 + ((t.seconds % 86400).toNat : Int) - 0 = t.seconds := by
    omega
  rw [parse?, text_toList]
  simp only [readDate_text (Date.valid_ofDays hyear), hclock, hoffset, hday, Option.bind_eq_bind,
    Option.bind_some]
  rw [htotal, if_pos ⟨rfl, hyear⟩]

section Readable

variable {s rest : List Char}

lemma readNanos_lt {nanos : Nat} (h : readNanos s = some (nanos, rest)) : nanos < 1000000000 := by
  unfold readNanos at h
  split at h
  · next s =>
    have hspec := Text.takeDigits_spec 9 s
    split at h
    · cases h
    · next digits after hne htake =>
      rw [htake] at hspec
      have hdigits : ofDigits digits < 10 ^ digits.length := Text.ofDigits_lt hspec.1
      simp only [Option.some.injEq, Prod.mk.injEq] at h
      calc nanos = ofDigits digits * 10 ^ (9 - digits.length) := h.1.symm
        _ < 10 ^ digits.length * 10 ^ (9 - digits.length) :=
          Nat.mul_lt_mul_of_pos_right hdigits (by positivity)
        _ = 10 ^ 9 := by rw [← pow_add, Nat.add_sub_cancel' hspec.2]
        _ = 1000000000 := by norm_num
  · cases h
    decide

lemma readClock_inRange {seconds nanos : Nat} (h : readClock s = some ((seconds, nanos), rest)) :
    nanos < 1000000000 ∨ (nanos < 2000000000 ∧ seconds % 60 = 59) := by
  simp only [readClock, Option.bind_eq_bind, Option.bind_eq_some_iff] at h
  obtain ⟨⟨hour, _⟩, -, _, -, ⟨minute, _⟩, -, _, -, ⟨second, _⟩, -, ⟨fraction, _⟩, hfraction, h⟩ := h
  have hlt := readNanos_lt hfraction
  dsimp only at h
  split at h
  · cases h
    exact .inl hlt
  · split at h
    · cases h
      exact .inr (by omega)
    · cases h

lemma readOffset_minutes {offset : Int} (h : readOffset s = some (offset, rest)) :
    offset % 60 = 0 := by
  have hours_minutes : ∀ {s : List Char} {sign : Int → Int}, (∀ n, n % 60 = 0 → sign n % 60 = 0) →
      readOffset.hours s sign = some (offset, rest) → offset % 60 = 0 := by
    intro s sign hsign h
    unfold readOffset.hours at h
    split at h
    · split at h
      · dsimp only at h
        split at h
        · cases h
          exact hsign _ (by omega)
        · cases h
      · cases h
    · cases h
  unfold readOffset at h
  split at h
  · cases h
    rfl
  · cases h
    rfl
  · exact hours_minutes (fun n hn => hn) h
  · exact hours_minutes (fun n hn => by omega) h
  · exact hours_minutes (fun n hn => by omega) h
  · split at h
    · cases h
      rfl
    · cases h
  · cases h

lemma inRange_of_clock {days : Int}
    (h : ((readClock s).bind fun clock => (readOffset (clock.2.dropWhile isBlank)).bind fun offset =>
      if offset.2.all isBlank = true ∧
          Date.YearInRange (Date.ofDays ((days * 86400 + clock.1.1 - offset.1) / 86400)).year then
        some ⟨days * 86400 + clock.1.1 - offset.1, clock.1.2⟩
      else none) = some t) : t.InRange := by
  simp only [Option.bind_eq_some_iff] at h
  obtain ⟨⟨⟨seconds, nanos⟩, _⟩, hclock, ⟨offset, _⟩, hoffset, h⟩ := h
  have hnanos := readClock_inRange hclock
  have hminutes := readOffset_minutes hoffset
  split at h
  · next hyear =>
    cases h
    exact ⟨hyear.2, hnanos.imp_right fun hleap => ⟨hleap.1, by dsimp only; omega⟩⟩
  · cases h

lemma inRange_of_parse? {text : String} (h : parse? text = some t) : t.InRange := by
  simp only [parse?, Option.bind_eq_bind, Option.bind_eq_some_iff] at h
  obtain ⟨⟨date, after⟩, -, h⟩ := h
  dsimp only at h
  split at h
  · exact inRange_of_clock h
  · exact inRange_of_clock h
  · exact inRange_of_clock h
  · cases h

end Readable

/-- The text tells which instant it is. -/
def Legible (t : Instant) : Prop := parse? t.text = some t

theorem legible_iff_inRange : t.Legible ↔ t.InRange := ⟨inRange_of_parse?, parse?_text⟩

instance (t : Instant) : Decidable t.Legible := decidable_of_iff _ legible_iff_inRange.symm

lemma ofJson?_toJson (h : t.Legible) : ofJson? t.toJson = some t := by
  rw [ofJson?, toJson, Json.text?, Option.bind_some]
  exact h

lemma legible_of_ofJson? {j : Json} (h : ofJson? j = some t) : t.Legible := by
  obtain ⟨text, -, htext⟩ := Option.bind_eq_some_iff.mp h
  exact parse?_text (inRange_of_parse? htext)

end Rollout.Instant
