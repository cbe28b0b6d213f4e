import Mathlib.Tactic.IntervalCases
import Rollout.Time.Calendar

/-! Every day has a valid date, and the date tells the day. -/

namespace Rollout.Date

/-- The year of its era that a day falls in. Years begin in March, an era has 400 of them. -/
def yearOfEra (day : Int) : Int := (day - day / 1460 + day / 36524 - day / 146096) / 365

def yearStart (year : Int) : Int := 365 * year + year / 4 - year / 100

section Era

variable {day : Int}

lemma yearOfEra_bounds (hday : 0 ≤ day ∧ day < 146097) :
    0 ≤ yearOfEra day ∧ yearOfEra day < 400 := by
  unfold yearOfEra
  omega

lemma century_cases (hday : 0 ≤ day ∧ day < 146097) :
    day / 36524 = 0 ∨ day / 36524 = 1 ∨ day / 36524 = 2 ∨ day / 36524 = 3 ∨ day / 36524 = 4 := by
  omega

/-- Only the last day of an era lies beyond four centuries of 36524 days. -/
lemma century_of_yearOfEra (hday : 0 ≤ day ∧ day < 146097) :
    yearOfEra day / 100 = day / 36524 ∨ (day = 146096 ∧ yearOfEra day = 399) := by
  unfold yearOfEra
  rcases century_cases hday with hc | hc | hc | hc | hc <;> omega

lemma yearStart_of_yearOfEra (hday : 0 ≤ day ∧ day < 146097) :
    yearStart (yearOfEra day) ≤ day ∧ day ≤ yearStart (yearOfEra day) + 365 := by
  have hcentury := century_of_yearOfEra hday
  have hphase : yearOfEra day % 4 = 0 ∨ yearOfEra day % 4 = 1 ∨ yearOfEra day % 4 = 2 ∨
      yearOfEra day % 4 = 3 := by omega
  unfold yearStart
  unfold yearOfEra at hcentury hphase ⊢
  rcases century_cases hday with hc | hc | hc | hc | hc <;>
    rcases hphase with hp | hp | hp | hp <;> omega

/-- Where a year has 366 days, the January after its March belongs to a leap year. -/
lemma leap_of_last (hday : 0 ≤ day ∧ day < 146097)
    (hlast : day = yearStart (yearOfEra day) + 365) :
    (yearOfEra day + 1) % 4 = 0 ∧
      ((yearOfEra day + 1) % 100 ≠ 0 ∨ (yearOfEra day + 1) % 400 = 0) := by
  by_cases hend : day = 146096
  · subst hend
    decide
  have hcentury := century_of_yearOfEra hday
  have hphase : yearOfEra day % 4 = 0 ∨ yearOfEra day % 4 = 1 ∨ yearOfEra day % 4 = 2 ∨
      yearOfEra day % 4 = 3 := by omega
  have hera : day / 146096 = 0 := by omega
  unfold yearStart at hlast
  unfold yearOfEra at hcentury hphase hlast ⊢
  rcases century_cases hday with hc | hc | hc | hc | hc <;>
    rcases hphase with hp | hp | hp | hp <;> omega

end Era

/-- A day by its era, the year in it, the month from March on, and the day of that month. -/
structure Placed (days era year month day : Int) : Prop where
  days_eq : days + 719468 = era * 146097 + yearStart year + (153 * month + 2) / 5 + day - 1
  year_bounds : 0 ≤ year ∧ year < 400
  month_bounds : 0 ≤ month ∧ month < 12
  day_bounds : 1 ≤ day ∧ (153 * month + 2) / 5 + day ≤ (153 * (month + 1) + 2) / 5
  leap : month = 11 → 29 ≤ day →
    day = 29 ∧ (year + 1) % 4 = 0 ∧ ((year + 1) % 100 ≠ 0 ∨ (year + 1) % 400 = 0)

/-- The date of a placed day, whose year is that of the January behind its March from then on. -/
def ofPlace (era year month : Int) (day : Nat) : Date :=
  let month := if month < 10 then month.toNat + 3 else month.toNat - 9
  ⟨year + era * 400 + (if month ≤ 2 then 1 else 0), month, day⟩

lemma ofDays_placed (days : Int) :
    ∃ era year month : Int, ∃ day : Nat,
      Placed days era year month day ∧ ofDays days = ofPlace era year month day := by
  have hdoe : 0 ≤ (days + 719468) % 146097 ∧ (days + 719468) % 146097 < 146097 := by omega
  have hstart := yearStart_of_yearOfEra hdoe
  have hleap := leap_of_last hdoe
  have hyear := yearOfEra_bounds hdoe
  generalize hd : (days + 719468) % 146097 = doe at *
  generalize hy : yearOfEra doe = yoe at *
  obtain ⟨doy, hdoy⟩ : ∃ doy, doe = yearStart yoe + doy := ⟨doe - yearStart yoe, by omega⟩
  refine ⟨(days + 719468) / 146097, yoe, (5 * doy + 2) / 153,
    (doy - (153 * ((5 * doy + 2) / 153) + 2) / 5 + 1).toNat, ⟨?_, hyear, ?_, ?_, ?_⟩, ?_⟩
  · omega
  · omega
  · omega
  · intro hm hday
    have hlast : doy = 365 := by omega
    exact ⟨by omega, hleap (by omega)⟩
  · have hrest : doe - (365 * yoe + yoe / 4 - yoe / 100) = doy := by
      rw [hdoy, yearStart]
      omega
    unfold yearOfEra at hy
    simp only [ofDays, ofPlace, hd, hy, hrest]

variable {days era year month : Int} {day : Nat}

lemma toDays_ofPlace (h : Placed days era year month day) :
    (ofPlace era year month day).toDays = days := by
  obtain ⟨hdays, hyear, hmonth, hday, -⟩ := h
  obtain ⟨m, rfl⟩ := Int.eq_ofNat_of_zero_le hmonth.1
  have hm : m < 12 := by omega
  unfold yearStart at hdays
  simp only [ofPlace, toDays]
  interval_cases m <;> simp at hdays ⊢ <;> omega

lemma valid_ofPlace (h : Placed days era year month day)
    (hrange : YearInRange (ofPlace era year month day).year) :
    (ofPlace era year month day).Valid := by
  obtain ⟨-, hyear, hmonth, hday, hleap⟩ := h
  obtain ⟨m, rfl⟩ := Int.eq_ofNat_of_zero_le hmonth.1
  have hm : m < 12 := by omega
  refine ⟨hrange, ?_, ?_⟩
  · simp only [ofPlace]
    split <;> omega
  · simp only [ofPlace, monthLength, isLeap]
    by_cases hfebruary : m = 11
    · subst hfebruary
      simp at hday hleap ⊢
      split <;> omega
    · have hm : m < 11 := by omega
      interval_cases m <;> simp at hday ⊢ <;> omega

lemma toDays_ofDays (days : Int) : (ofDays days).toDays = days := by
  obtain ⟨era, year, month, day, hplaced, hdate⟩ := ofDays_placed days
  rw [hdate, toDays_ofPlace hplaced]

lemma valid_ofDays {days : Int} (h : YearInRange (ofDays days).year) : (ofDays days).Valid := by
  obtain ⟨era, year, month, day, hplaced, hdate⟩ := ofDays_placed days
  rw [hdate] at h ⊢
  exact valid_ofPlace hplaced h

end Rollout.Date
