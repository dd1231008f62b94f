import Subledger.Proofs.Time.Calendar
import Subledger.Proofs.Text.Digits

/-! # Printed instants read back

`Instant.render` prints an instant in RFC 3339 form in UTC and `Instant.parse` reads that form.
For every instant the calendar can hold (`Instant.Valid`: a second of the day, nanoseconds that
pass a whole second only in a leap second, a year of the calendar) reading the print gives the
instant back, to the nanosecond and with its leap second.

The readers take the text field by field; each field printed to its width reads back as the
number it came from because it is digits followed by a character that is no digit.
-/

namespace Subledger

namespace Instant

theorem padded_toList (n width : Nat) :
    (padded n width).toList =
      List.replicate (width - (Nat.toDigits 10 n).length) '0' ++ Nat.toDigits 10 n := by
  simp [padded, ← String.length_toList]

theorem padded_length (n width : Nat) :
    (padded n width).toList.length = max width (Nat.toDigits 10 n).length := by
  rw [padded_toList]
  simp
  omega

theorem padded_length_pos (n width : Nat) : 0 < (padded n width).toList.length := by
  rw [padded_length]
  have := Nat.length_toDigits_pos (b := 10) (n := n)
  omega

theorem padded_length_of_lt {n w : Nat} (small : n < Nat.pow 10 w) (pos : 0 < w) :
    (padded n w).toList.length = w := by
  rw [padded_length]
  have := length_toDigits_le small pos
  omega

theorem padded_digits (n width : Nat) : ∀ c ∈ (padded n width).toList, c.isDigit = true := by
  intro c mem
  rw [padded_toList] at mem
  exact isDigit_of_mem_padded mem

theorem twoDigits_eq_padded {n : Nat} (h : n < 100) : twoDigits n = padded n 2 := by
  rw [← String.toList_inj, padded_toList]
  by_cases one : n < 10
  · have : (Nat.toDigits 10 n).length = 1 := by
      rw [Nat.toDigits_of_lt_base one]; rfl
    simp [twoDigits, one, this]
  · have : (Nat.toDigits 10 n).length = 2 := by
      have := length_toDigits_le (show n < 100 by omega) (by decide : 0 < 2)
      have : ¬ (Nat.toDigits 10 n).length ≤ 1 := fun short =>
        one (by simpa using (Nat.length_toDigits_le_iff (by decide) (by decide)).mp short)
      omega
    simp [twoDigits, one, this]

/-- The fraction is empty on a whole second, else a point and `w` digits that stand for the
nanoseconds within the second. -/
theorem fractionText_cases (nanos : Nat) :
    (fractionText nanos).toList = [] ∧ nanos % 1000000000 = 0 ∨
      ∃ k w, (fractionText nanos).toList = '.' :: (padded k w).toList ∧
        k * Nat.pow 10 (9 - w) = nanos % 1000000000 ∧ k < Nat.pow 10 w ∧ 0 < w ∧ w ≤ 9 := by
  simp only [fractionText]
  split
  · left
    simp_all
  · right
    split
    · exact ⟨nanos % 1000000000 / 1000000, 3, by simp, by simp; omega, by simp; omega, by decide,
        by decide⟩
    · split
      · exact ⟨nanos % 1000000000 / 1000, 6, by simp, by simp; omega, by simp; omega, by decide,
          by decide⟩
      · exact ⟨nanos % 1000000000, 9, by simp, by simp, by simp; omega, by decide, by decide⟩

end Instant

namespace TimeText

theorem trimStart_cons {c : Char} (h : Text.isBlank c = false) (cs : List Char) :
    trimStart (c :: cs) = c :: cs := by
  simp [trimStart, h]

theorem trimStart_digits {ds rest : List Char} (digits : ∀ c ∈ ds, c.isDigit = true)
    (nonempty : ds ≠ []) : trimStart (ds ++ rest) = ds ++ rest := by
  obtain ⟨d, ds, rfl⟩ := List.exists_cons_of_ne_nil nonempty
  have bounds : 48 ≤ d.toNat ∧ d.toNat ≤ 57 := by
    simpa using Char.isDigit_iff_toNat.mp (digits d (by simp))
  have notBlank : Text.isBlank d = false := by
    simp [Text.isBlank]
    omega
  exact trimStart_cons notBlank _

theorem literal_cons (c : Char) (cs : List Char) : literal c (c :: cs) = .ok ((), cs) := by
  simp [literal]

/-- Digits up to a character that is no digit, as many as the bounds allow, read as their
number. -/
theorem number_of_digits {lo hi : Nat} {ds rest : List Char}
    (digits : ∀ c ∈ ds, c.isDigit = true) (atLeast : lo ≤ ds.length) (nonempty : 0 < ds.length)
    (atMost : ds.length ≤ hi) (stop : ∀ c ∈ rest.head?, c.isDigit = false)
    (small : digitFold 0 ds ≤ i64Max) :
    number lo hi (ds ++ rest) = .ok (digitFold 0 ds, rest) := by
  have taken : ((ds ++ rest).take hi).takeWhile Char.isDigit = ds := by
    rw [List.take_append, List.take_of_length_le atMost]
    apply takeWhile_digits digits
    intro c mem
    cases rest with
    | nil => simp at mem
    | cons r rest =>
      cases h : hi - ds.length with
      | zero => simp [h] at mem
      | succ k => simp [h] at mem; subst mem; exact stop r rfl
  have notEmpty : (ds ++ rest).isEmpty = false := by
    cases ds with
    | nil => simp at nonempty
    | cons d ds => rfl
  simp only [number, notEmpty, Bool.false_and, Bool.false_eq_true, if_false, taken]
  simp only [show ¬ ds.length < lo by omega, if_false, digitFold]
  simp only [digitFold] at small
  simp [Nat.not_lt.mpr small]

theorem number_padded {lo hi n width : Nat} {rest : List Char}
    (atLeast : lo ≤ (Instant.padded n width).toList.length)
    (atMost : (Instant.padded n width).toList.length ≤ hi)
    (stop : ∀ c ∈ rest.head?, c.isDigit = false) (small : n ≤ i64Max) :
    number lo hi ((Instant.padded n width).toList ++ rest) = .ok (n, rest) := by
  have value : digitFold 0 (Instant.padded n width).toList = n := by
    rw [Instant.padded_toList, digitFold_padded]
  have read := number_of_digits (Instant.padded_digits n width) atLeast
    (Instant.padded_length_pos n width) atMost stop (by rw [value]; exact small)
  rwa [value] at read

theorem field_twoDigits {lo hi n : Nat} {c : Char} {rest : List Char} (small : n < 100)
    (low : lo ≤ n) (high : n ≤ hi) (stop : c.isDigit = false) :
    field 1 2 lo hi ((Instant.twoDigits n).toList ++ c :: rest) = .ok (n, c :: rest) := by
  have length := Instant.padded_length_of_lt (w := 2) small (by decide)
  rw [Instant.twoDigits_eq_padded small]
  simp only [field]
  rw [trimStart_digits (Instant.padded_digits n 2) (by rw [← List.length_pos_iff]; omega),
    number_padded (by omega) (by omega) (by simp [stop]) (by simp [i64Max]; omega)]
  simp [bind, Except.bind, low, high, pure, Except.pure]

theorem year_checked {y : Int} {rest : List Char} (low : minYear ≤ y) (high : y ≤ maxYear) :
    (if (decide (-2147483648 ≤ y) && decide (y ≤ 2147483647)) = true then
        (Except.ok (y, rest) : Except TimeError (Int × List Char))
      else .error .outOfRange) = .ok (y, rest) := by
  simp only [minYear, maxYear] at low high
  simp only [Bool.and_eq_true, decide_eq_true_eq]
  exact if_pos ⟨by omega, by omega⟩

/-- After a sign, the digits of a year are read up to its hyphen, however many there are. -/
theorem number_signed {n : Nat} (small : n ≤ 262143) (rest : List Char) :
    number 1 (((Instant.padded n 4).toList ++ '-' :: rest).length + 1)
        ((Instant.padded n 4).toList ++ '-' :: rest) = .ok (n, '-' :: rest) :=
  number_padded (Nat.succ_le_of_lt (Instant.padded_length_pos n 4)) (by simp; omega)
    (by simp) (by simp [i64Max]; omega)

theorem year_yearText {y : Int} {rest : List Char} (low : minYear ≤ y) (high : y ≤ maxYear) :
    year ((Instant.yearText y).toList ++ '-' :: rest) = .ok (y, '-' :: rest) := by
  have bounds : -262143 ≤ y ∧ y ≤ 262142 := ⟨low, high⟩
  by_cases plain : 0 ≤ y ∧ y ≤ 9999
  · have text : Instant.yearText y = Instant.padded y.toNat 4 := by
      simp [Instant.yearText, plain.1, plain.2]
    rw [text]
    obtain ⟨d, ds, split⟩ := List.exists_cons_of_ne_nil
      (List.ne_nil_of_length_pos (Instant.padded_length_pos y.toNat 4))
    have digit : d.isDigit = true := Instant.padded_digits y.toNat 4 d (by simp [split])
    have four := Instant.padded_length_of_lt (w := 4) (show y.toNat < 10000 by omega) (by decide)
    simp only [year]
    rw [trimStart_digits (Instant.padded_digits _ _)
      (List.ne_nil_of_length_pos (Instant.padded_length_pos _ _)), split]
    -- a digit is no sign, so the year is the plain digits
    split
    · rename_i same
      simp only [List.cons_append, List.cons.injEq] at same
      rw [same.1] at digit
      cases digit
    · rename_i same
      simp only [List.cons_append, List.cons.injEq] at same
      rw [same.1] at digit
      cases digit
    · rw [← split, number_padded (by omega) (by omega) (by simp) (by simp [i64Max]; omega)]
      simp only [bind, Except.bind, pure, Except.pure, Int.ofNat_toNat,
        show max y 0 = y by omega]
      exact year_checked low high
  · -- a signed year: the sign, then every digit up to the hyphen
    by_cases negative : y < 0
    · have text : (Instant.yearText y).toList = '-' :: (Instant.padded y.natAbs 4).toList := by
        simp [Instant.yearText, negative, show ¬ 0 ≤ y by omega]
      rw [text, List.cons_append]
      simp only [year, trimStart_cons (c := '-') rfl]
      rw [number_signed (by omega)]
      simp only [bind, Except.bind, pure, Except.pure, show -(y.natAbs : Int) = y by omega]
      exact year_checked low high
    · have text : (Instant.yearText y).toList = '+' :: (Instant.padded y.toNat 4).toList := by
        simp [Instant.yearText, show ¬ y < 0 by omega, show ¬ (0 ≤ y ∧ y ≤ 9999) from plain]
      rw [text, List.cons_append]
      simp only [year, trimStart_cons (c := '+') rfl]
      rw [number_signed (by omega)]
      simp only [bind, Except.bind, pure, Except.pure, Int.ofNat_toNat,
        show max y 0 = y by omega]
      exact year_checked low high

theorem fraction_padded {k w : Nat} (small : k < Nat.pow 10 w) (pos : 0 < w) (most : w ≤ 9) :
    fraction ((Instant.padded k w).toList ++ ['Z']) = .ok (k * Nat.pow 10 (9 - w), ['Z']) := by
  have length := Instant.padded_length_of_lt small pos
  simp only [fraction]
  rw [number_padded (by omega) (by omega) (by simp) (by
    have : Nat.pow 10 w ≤ 1000000000 := Nat.pow_le_pow_right (by decide) most
    simp [i64Max]; omega)]
  simp [bind, Except.bind, pure, Except.pure, length]

theorem zone_utc : zone (trimStart ['Z']) = .ok (0, []) := by
  simp [trimStart, zone, offset, Text.isBlank]

end TimeText

namespace Instant

theorem render_toList (t : Instant) :
    t.render.toList =
      (yearText (civilFromDays t.days).1).toList ++ '-' ::
        ((twoDigits (civilFromDays t.days).2.1).toList ++ '-' ::
        ((twoDigits (civilFromDays t.days).2.2).toList ++ 'T' ::
        ((twoDigits (t.seconds / 3600)).toList ++ ':' ::
        ((twoDigits (t.seconds / 60 % 60)).toList ++ ':' ::
        ((twoDigits (t.seconds % 60 + t.nanos / 1000000000)).toList ++
          ((fractionText t.nanos).toList ++ ['Z'])))))) := by
  simp [render, show ∀ s : String, toString s = s from fun _ => rfl]

/-- An instant as the calendar library holds one: a second of its day, nanoseconds that reach a
whole second only in a leap second (the last second of a minute), and a year of the calendar. -/
structure Valid (t : Instant) : Prop where
  seconds_lt : t.seconds < 86400
  nanos_lt : t.nanos < 2000000000
  leap : 1000000000 ≤ t.nanos → t.seconds % 60 = 59
  year_ge : minYear ≤ (civilFromDays t.days).1
  year_le : (civilFromDays t.days).1 ≤ maxYear

/-- A leap second reads as the 59th second with a whole second more of nanoseconds. -/
theorem leap_fold {t : Instant} (nanos_lt : t.nanos < 2000000000)
    (leap : 1000000000 ≤ t.nanos → t.seconds % 60 = 59) {nano : Nat}
    (fraction : nano = t.nanos % 1000000000) :
    (if t.seconds % 60 + t.nanos / 1000000000 = 60 then (59, nano + 1000000000)
      else (t.seconds % 60 + t.nanos / 1000000000, nano)) = (t.seconds % 60, t.nanos) := by
  subst fraction
  by_cases whole : 1000000000 ≤ t.nanos
  · have last := leap whole
    rw [if_pos (by omega), Prod.mk.injEq]
    omega
  · rw [if_neg (by omega), Prod.mk.injEq]
    omega

/-- A time of day added to the start of its day gives that day back, whatever the day's sign. -/
theorem day_of_clock (d : Int) {s : Nat} (h : s < 86400) :
    (if d * 86400 + (s : Int) ≥ 0 then (d * 86400 + s) / 86400
      else -((-(d * 86400 + s) + 86399) / 86400)) = d := by
  split <;> omega

open TimeText in
theorem parse_render (t : Instant) (valid : t.Valid) : parse t.render = .ok t := by
  obtain ⟨seconds_lt, nanos_lt, leap, year_ge, year_le⟩ := valid
  generalize civil : civilFromDays t.days = date at year_ge year_le
  obtain ⟨year, month, day⟩ := date
  obtain ⟨m1, m12, d1, dIn, back⟩ := civilFromDays_valid t.days civil
  have dMax := daysInMonth_le year month
  simp only [parse, render_toList, civil]
  rw [year_yearText year_ge year_le]
  simp only [bind, Except.bind, trimStart_cons (c := '-') rfl, literal_cons]
  rw [field_twoDigits (by omega) m1 m12 rfl]
  simp only [trimStart_cons (c := '-') rfl, literal_cons]
  rw [field_twoDigits (by omega) d1 (by omega) rfl]
  simp only [decide_true, Bool.true_or, if_true, pure, Except.pure]
  rw [field_twoDigits (by omega) (Nat.zero_le _) (by omega) rfl]
  simp only [trimStart_cons (c := ':') rfl, literal_cons]
  rw [field_twoDigits (by omega) (Nat.zero_le _) (by omega) rfl]
  simp only [trimStart_cons (c := ':') rfl, literal_cons]
  have secondMax : t.seconds % 60 + t.nanos / 1000000000 ≤ 60 := by omega
  -- both forms of the fraction leave the nanoseconds within the second before the zone
  rcases fractionText_cases t.nanos with ⟨empty, whole⟩ | ⟨k, w, text, value, small, pos, most⟩
  case' inl =>
    rw [empty, List.nil_append, field_twoDigits (by omega) (Nat.zero_le _) secondMax rfl]
    dsimp only
    split
    · rename_i wrong
      simp at wrong
    rw [leap_fold nanos_lt leap whole.symm]
  case' inr =>
    rw [text, List.cons_append, field_twoDigits (by omega) (Nat.zero_le _) secondMax rfl]
    dsimp only
    split
    case h_2 _ wrong => exact absurd rfl (wrong _)
    rename_i rest same
    rw [List.cons.injEq] at same
    rw [← same.2, fraction_padded small pos most]
    dsimp only
    rw [leap_fold nanos_lt leap value]
  all_goals
    have clock : t.seconds / 3600 * 3600 + t.seconds / 60 % 60 * 60 + t.seconds % 60 =
        t.seconds := by
      omega
    simp only at year_ge year_le
    rw [zone_utc]
    dsimp only
    rw [clock, Int.sub_zero, back, day_of_clock t.days seconds_lt]
    have secs : (t.days * 86400 + (t.seconds : Int) - t.days * 86400).toNat = t.seconds := by
      omega
    -- the date and the day pass their checks
    have inRange : ¬ ((decide (year < minYear) || decide (year > maxYear) ||
        decide (day > daysInMonth year month)) = true) := by
      simp only [Bool.or_eq_true, decide_eq_true_eq]
      omega
    rw [if_neg (by decide), if_neg inRange, if_neg (by decide), civil]
    dsimp only
    rw [if_neg (by simp only [Bool.or_eq_true, decide_eq_true_eq]; omega), secs]

end Instant

end Subledger
