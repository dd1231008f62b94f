import Subledger.Time.Instant

/-! # The civil calendar

`civilFromDays` turns a day number into a date by counting in eras of 400 years. Within an era
it finds the year from the day (`yearOfEra`) and the day within that year (`dayOfYear`), years
counted from March so that a leap day ends its year. What is proved here: every date it gives is
a real one (the month has that day, the 29th of February only in a leap year), and
`daysFromCivil` takes it back to the day number it came from.

The year within the era rests on a split of the era into centuries of 36524 days (the last one
a day longer) and four-year cycles of 1461 days (the last of a century a day shorter, but for the
last century): with that split every division in the formula has a known quotient.
-/

namespace Subledger

/-- The year within its era of a day of the era, years counted from the 1st of March. -/
def yearOfEra (doe : Int) : Int := (doe - doe / 1460 + doe / 36524 - doe / 146096) / 365

/-- The day within its year (from the 1st of March) of a day of the era. -/
def dayOfYear (doe : Int) : Int :=
  doe - (365 * yearOfEra doe + yearOfEra doe / 4 - yearOfEra doe / 100)

private theorem ediv_eq_of_bounds {a b q : Int} (hb : 0 < b) (lo : b * q ≤ a)
    (hi : a < b * q + b) : a / b = q :=
  ((Int.ediv_emod_unique hb).mpr ⟨Int.sub_add_cancel a (b * q), by omega, by omega⟩).1

/-- A day of an era is a century, a four-year cycle within it and a day within the cycle; only
the very last day of the era falls past the 36523 days a century otherwise holds. -/
theorem era_split (doe : Int) (h0 : 0 ≤ doe) (h1 : doe ≤ 146096) :
    ∃ C Q t : Int, doe = 36524 * C + 1461 * Q + t ∧ 0 ≤ C ∧ C ≤ 3 ∧ 0 ≤ Q ∧ Q ≤ 24 ∧
      0 ≤ t ∧ t ≤ 1460 ∧ (1461 * Q + t ≤ 36523 ∨ C = 3 ∧ Q = 24 ∧ t = 1460) := by
  by_cases last : doe = 146096
  · exact ⟨3, 24, 1460, by omega⟩
  · exact ⟨doe / 36524, doe % 36524 / 1461, doe % 36524 % 1461, by omega⟩

/-- The year of an era is one of its 400, its day one of 366, and the 366th day only comes
in a year followed by a leap year. -/
theorem yearOfEra_spec (doe : Int) (h0 : 0 ≤ doe) (h1 : doe ≤ 146096) :
    0 ≤ yearOfEra doe ∧ yearOfEra doe ≤ 399 ∧ 0 ≤ dayOfYear doe ∧ dayOfYear doe ≤ 365 ∧
      (dayOfYear doe = 365 → (yearOfEra doe + 1) % 4 = 0 ∧
        ((yearOfEra doe + 1) % 100 ≠ 0 ∨ yearOfEra doe = 399)) := by
  obtain ⟨C, Q, t, split, hC0, hC1, hQ0, hQ1, ht0, ht1, inside⟩ := era_split doe h0 h1
  have centuries : doe / 36524 - doe / 146096 = C := by
    rcases inside with short | ⟨rfl, rfl, rfl⟩
    · rw [ediv_eq_of_bounds (q := C) (by decide) (by omega) (by omega),
        ediv_eq_of_bounds (q := 0) (by decide) (by omega) (by omega)]
      omega
    · rw [ediv_eq_of_bounds (q := 4) (by decide) (by omega) (by omega),
        ediv_eq_of_bounds (q := 1) (by decide) (by omega) (by omega)]
      omega
  -- the cycle count is one more once the day passes what the shorter cycles leave
  by_cases late : 1460 ≤ 24 * C + Q + t
  · have cycles : doe / 1460 = 25 * C + Q + 1 :=
      ediv_eq_of_bounds (by decide) (by omega) (by omega)
    have years : yearOfEra doe = 100 * C + 4 * Q + (t - 1) / 365 := by
      unfold yearOfEra
      apply ediv_eq_of_bounds (by decide) <;> omega
    have fours : yearOfEra doe / 4 = 25 * C + Q :=
      ediv_eq_of_bounds (by decide) (by omega) (by omega)
    have hundreds : yearOfEra doe / 100 = C :=
      ediv_eq_of_bounds (by decide) (by omega) (by omega)
    have day : dayOfYear doe = t - 365 * ((t - 1) / 365) := by
      unfold dayOfYear
      rw [fours, hundreds, years]
      omega
    rw [day, years]
    refine ⟨by omega, by omega, by omega, by omega, fun full => ?_⟩
    have whole : t = 1460 := by omega
    subst whole
    rcases inside with short | ⟨rfl, rfl, -⟩ <;> omega
  · have cycles : doe / 1460 = 25 * C + Q :=
      ediv_eq_of_bounds (by decide) (by omega) (by omega)
    have years : yearOfEra doe = 100 * C + 4 * Q + t / 365 := by
      unfold yearOfEra
      apply ediv_eq_of_bounds (by decide) <;> omega
    have fours : yearOfEra doe / 4 = 25 * C + Q :=
      ediv_eq_of_bounds (by decide) (by omega) (by omega)
    have hundreds : yearOfEra doe / 100 = C :=
      ediv_eq_of_bounds (by decide) (by omega) (by omega)
    have day : dayOfYear doe = t - 365 * (t / 365) := by
      unfold dayOfYear
      rw [fours, hundreds, years]
      omega
    rw [day, years]
    omega

theorem daysFromCivil_of_era (era yoe mp dd month : Int) (y0 : 0 ≤ yoe) (y1 : yoe ≤ 399)
    (m0 : 0 ≤ mp) (m1 : mp ≤ 11) (d0 : 1 ≤ dd) (hm : month = if mp < 10 then mp + 3 else mp - 9) :
    daysFromCivil (if month ≤ 2 then yoe + era * 400 + 1 else yoe + era * 400) month.toNat
        dd.toNat =
      era * 146097 + (yoe * 365 + yoe / 4 - yoe / 100 + ((153 * mp + 2) / 5 + dd - 1)) -
        719468 := by
  have eras : (yoe + era * 400) / 400 = era := ediv_eq_of_bounds (by decide) (by omega) (by omega)
  have within : yoe + era * 400 - era * 400 = yoe := by omega
  have day : ((dd.toNat : Nat) : Int) = dd := by omega
  simp only [daysFromCivil]
  by_cases early : mp < 10
  · rw [if_pos early] at hm
    have back : ((month.toNat : Nat) : Int) = mp + 3 := by omega
    have later : mp + 3 > 2 := by omega
    simp only [show ¬ (month.toNat ≤ 2) by omega, show ¬ (month ≤ 2) by omega, if_false, eras,
      back, within, later, if_true, Int.add_sub_cancel, day]
  · -- January and February belong to the year before
    rw [if_neg early] at hm
    have back : ((month.toNat : Nat) : Int) = mp - 9 := by omega
    have before : ¬ (mp - 9 > 2) := by omega
    simp only [show month.toNat ≤ 2 by omega, show month ≤ 2 by omega, if_true,
      Int.add_sub_cancel, eras, back, within, before, if_false, Int.sub_add_cancel, day]

theorem daysInMonth_le (year : Int) (month : Nat) : daysInMonth year month ≤ 31 := by
  unfold daysInMonth
  split <;> (try split) <;> omega

/-- Every date the calendar gives is a real one, and it names the day it came from. -/
theorem civilFromDays_valid (days : Int) {year : Int} {month day : Nat}
    (civil : civilFromDays days = (year, month, day)) :
    1 ≤ month ∧ month ≤ 12 ∧ 1 ≤ day ∧ day ≤ daysInMonth year month ∧
      daysFromCivil year month day = days := by
  simp only [civilFromDays] at civil
  generalize hz : days + 719468 = z at civil
  generalize hdoe : z - z / 146097 * 146097 = doe at civil
  generalize hyoe : (doe - doe / 1460 + doe / 36524 - doe / 146096) / 365 = yoe at civil
  generalize hdoy : doe - (365 * yoe + yoe / 4 - yoe / 100) = doy at civil
  generalize hmp : (5 * doy + 2) / 153 = mp at civil
  generalize hd : doy - (153 * mp + 2) / 5 + 1 = d at civil
  generalize hm : (if mp < 10 then mp + 3 else mp - 9) = m at civil
  simp only [Prod.mk.injEq] at civil
  obtain ⟨rfl, rfl, rfl⟩ := civil
  obtain ⟨y0, y1, d0, d1, leap⟩ := yearOfEra_spec doe (by omega) (by omega)
  simp only [dayOfYear, yearOfEra, hyoe, hdoy] at y0 y1 d0 d1 leap
  have mp0 : 0 ≤ mp := by omega
  have mp1 : mp ≤ 11 := by omega
  have start : (153 * mp + 2) / 5 ≤ doy := by omega
  have next : doy < (153 * (mp + 1) + 2) / 5 ∨ mp = 11 := by omega
  refine ⟨by split at hm <;> omega, by split at hm <;> omega, by omega, ?_, ?_⟩
  · -- each month from March on has the length the formula leaves it; February needs the leap
    have months : mp = 0 ∨ mp = 1 ∨ mp = 2 ∨ mp = 3 ∨ mp = 4 ∨ mp = 5 ∨ mp = 6 ∨ mp = 7 ∨
        mp = 8 ∨ mp = 9 ∨ mp = 10 ∨ mp = 11 := by omega
    rcases months with rfl | rfl | rfl | rfl | rfl | rfl | rfl | rfl | rfl | rfl | rfl | rfl <;>
      subst hm <;> simp [daysInMonth, isLeapYear] <;> (try split) <;> omega
  · rw [daysFromCivil_of_era (z / 146097) yoe mp d m y0 y1 mp0 mp1 (by omega) hm.symm]
    omega

end Subledger
