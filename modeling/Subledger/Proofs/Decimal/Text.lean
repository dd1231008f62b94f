import Subledger.Proofs.Text.Digits
import Subledger.Proofs.Decimal.Value
import Subledger.Decimal.Parse

/-! # Printed decimals read back

`Decimal.render` prints the mantissa with exactly `scale` digits after the point and a `-`
whenever the sign flag is set; `Decimal.parse` reads the digits one by one into a mantissa and
counts those after the point. What it reads back is the decimal itself, scale included, except
that a zero loses the sign flag: `-0.00` reads as `0.00`. `Decimal.canonical` is that form, the
same number as the decimal it came from.
-/

namespace Subledger

namespace Decimal

/-- The decimal with the sign flag kept only on a nonzero value, as reading leaves it. -/
def canonical (d : Decimal) : Decimal := { d with negative := d.isNegative }

@[simp] theorem canonical_mantissa (d : Decimal) : d.canonical.mantissa = d.mantissa := rfl

@[simp] theorem canonical_scale (d : Decimal) : d.canonical.scale = d.scale := rfl

theorem canonical_value (d : Decimal) : d.canonical.value = d.value := by
  by_cases zero : d.mantissa = 0 <;> simp [value, signed, canonical, isNegative, zero]

theorem canonical_eq_self {d : Decimal} (h : d.negative = true → d.mantissa ≠ 0) :
    d.canonical = d := by
  obtain ⟨mantissa, scale, negative, mantissa_lt, scale_le⟩ := d
  simp only [canonical, isNegative, Decimal.mk.injEq, true_and]
  cases negative <;> simp_all


theorem digitValue?_of_isDigit {c : Char} (h : c.isDigit = true) :
    digitValue? c = some (c.toNat - 48) := by
  simp [digitValue?, h]

/-- Digits read one by one: the mantissa takes them in, the scale counts them after the point,
and no rounding happens while the mantissa fits and the scale stays below the limit. -/
theorem readDigits_digits (negative : Bool) (ds rest : List Char) (r : Reading)
    (digits : ∀ c ∈ ds, c.isDigit = true) (fits : digitFold r.mantissa ds < mantissaLimit)
    (room : r.point = true → r.scale + ds.length ≤ maxScale ∧
      (r.scale + ds.length < maxScale ∨ rest = [])) :
    ∃ wide, readDigits negative r (ds ++ rest) =
      readDigits negative ⟨digitFold r.mantissa ds,
        if r.point then r.scale + ds.length else r.scale, r.point,
        r.seenDigit || !ds.isEmpty, wide⟩ rest := by
  induction ds generalizing r with
  | nil => exact ⟨r.wide, by cases r; simp [digitFold]⟩
  | cons d ds ih =>
    obtain ⟨mantissa, scale, point, seen, wide⟩ := r
    have digit := digits d (by simp)
    have step : digitFold mantissa (d :: ds) = digitFold (mantissa * 10 + (d.toNat - 48)) ds := rfl
    have next := le_digitFold (mantissa * 10 + (d.toNat - 48)) ds
    have seenNow : (seen || !(d :: ds).isEmpty) = true := by simp
    simp only [step] at fits
    simp only [List.length_cons] at room
    rw [List.cons_append, readDigits, digitValue?_of_isDigit digit]
    dsimp only
    rw [if_neg (show ¬ mantissa * 10 + (d.toNat - 48) ≥ mantissaLimit by omega), step, seenNow]
    -- the digit is taken in; the room left rules out rounding at the limit
    cases point with
    | false =>
      obtain ⟨w, read⟩ := ih ⟨mantissa * 10 + (d.toNat - 48), scale, false, true,
        wide || decide (mantissa * 10 + (d.toNat - 48) ≥ wideFrom)⟩
        (fun c mem => digits c (by simp [mem])) fits (by simp)
      refine ⟨w, ?_⟩
      simp only [Bool.true_or] at read
      simpa using read
    | true =>
      simp only [forall_const] at room
      have limit : ¬ (scale + 1 ≥ maxScale ∧ (ds ++ rest).isEmpty = false) := by
        rintro ⟨big, more⟩
        cases ds with
        | nil =>
          rcases room.2 with small | rfl
          · simp at small; omega
          · simp at more
        | cons e es => simp at room; omega
      obtain ⟨w, read⟩ := ih ⟨mantissa * 10 + (d.toNat - 48), scale + 1, true, true,
        wide || decide (mantissa * 10 + (d.toNat - 48) ≥ wideFrom)⟩
        (fun c mem => digits c (by simp [mem])) fits
        (fun _ => ⟨by dsimp only; omega, room.2.imp (fun small => by dsimp only; omega) id⟩)
      refine ⟨w, ?_⟩
      simp only [Bool.true_or] at read
      have scaled : scale + (d :: ds).length = scale + 1 + ds.length := by simp; omega
      rw [if_neg (by simpa using limit)]
      simp only [if_true] at read
      simp only [if_pos, read, scaled]

theorem padDigits_eq (n width : Nat) :
    padDigits n width =
      List.replicate (width - (Nat.toDigits 10 n).length) '0' ++ Nat.toDigits 10 n := by
  simp [padDigits]


/-- A reading that holds a decimal's mantissa and scale, with a digit seen, ends in it. -/
theorem readDigits_nil_of_parts (d : Decimal) {m s : Nat} (hm : m = d.mantissa) (hs : s = d.scale)
    (negative point wide : Bool) :
    readDigits negative ⟨m, s, point, true, wide⟩ [] =
      .ok { d with negative := negative && d.mantissa != 0 } := by
  subst hm hs
  simp [readDigits, Reading.finish, ofParts?, make?, d.mantissa_lt, d.scale_le]

/-- Digits with the point placed before the last `scale` of them, as a decimal is printed;
with no places there is no point. -/
def pointed (digits : List Char) (scale : Nat) : List Char :=
  if scale = 0 then digits
  else digits.take (digits.length - scale) ++ '.' :: digits.drop (digits.length - scale)

theorem render_toList (d : Decimal) :
    d.render.toList = (if d.negative then ['-'] else []) ++
      pointed (padDigits d.mantissa (d.scale + 1)) d.scale := by
  simp only [render, pointed]
  split <;> split <;> simp

/-- The digits a decimal is printed with: ASCII digits, at least one more than its places,
that fold to its mantissa. -/
structure PrintedDigits (d : Decimal) (digits : List Char) : Prop where
  isDigit : ∀ c ∈ digits, c.isDigit = true
  value : digitFold 0 digits = d.mantissa
  long : d.scale + 1 ≤ digits.length

theorem printedDigits_padDigits (d : Decimal) :
    PrintedDigits d (padDigits d.mantissa (d.scale + 1)) where
  isDigit := by
    rw [padDigits_eq]
    exact fun c => isDigit_of_mem_padded
  value := by rw [padDigits_eq, digitFold_padded]
  long := by
    rw [padDigits_eq]
    simp
    omega

namespace PrintedDigits

variable {d : Decimal} {digits : List Char} (printed : PrintedDigits d digits)
include printed

theorem readDigits_whole (negative : Bool) (whole : d.scale = 0) :
    readDigits negative ⟨0, 0, false, false, false⟩ digits =
      .ok { d with negative := negative && d.mantissa != 0 } := by
  obtain ⟨w, read⟩ := readDigits_digits negative digits [] ⟨0, 0, false, false, false⟩
    printed.isDigit (by simp only [printed.value]; exact d.mantissa_lt) (by simp)
  have seen : (false || !digits.isEmpty) = true := by
    cases digits with
    | nil => simpa using printed.long
    | cons c cs => rfl
  rw [List.append_nil] at read
  rw [read, seen]
  exact readDigits_nil_of_parts d printed.value whole.symm _ _ _

/-- With places, the whole part is read, then the point, then exactly `scale` digits. -/
theorem readDigits_fraction (negative : Bool) (fractional : d.scale ≠ 0) :
    readDigits negative ⟨0, 0, false, false, false⟩
        (digits.take (digits.length - d.scale) ++ '.' :: digits.drop (digits.length - d.scale)) =
      .ok { d with negative := negative && d.mantissa != 0 } := by
  have parts := List.take_append_drop (digits.length - d.scale) digits
  have allDigits := printed.isDigit
  have value := printed.value
  have long := printed.long
  generalize digits.take (digits.length - d.scale) = front at parts
  generalize hback : digits.drop (digits.length - d.scale) = back at parts
  have backLength : back.length = d.scale := by rw [← hback]; simp; omega
  rw [← parts] at allDigits value
  rw [digitFold_append] at value
  have frontFits : digitFold 0 front < mantissaLimit :=
    Nat.lt_of_le_of_lt (by rw [← value]; exact le_digitFold _ _) d.mantissa_lt
  obtain ⟨w, read⟩ := readDigits_digits negative front ('.' :: back) ⟨0, 0, false, false, false⟩
    (fun c mem => allDigits c (by simp [mem])) frontFits (by simp)
  rw [read, readDigits]
  simp only [show digitValue? '.' = none by rfl, Bool.not_false, Bool.and_true, decide_true,
    if_true, Bool.false_eq_true, if_false]
  obtain ⟨w', read'⟩ := readDigits_digits negative back [] ⟨digitFold 0 front, 0, true,
    false || !front.isEmpty, w⟩ (fun c mem => allDigits c (by simp [mem]))
    (by simp only [value]; exact d.mantissa_lt) (fun _ => by simp [backLength, d.scale_le])
  have seen : (false || !front.isEmpty || !back.isEmpty) = true := by
    cases back with
    | nil => simp at backLength; omega
    | cons c cs => simp
  simp only [List.append_nil, if_true, seen] at read'
  rw [read']
  exact readDigits_nil_of_parts d value (by omega) _ _ _

theorem readDigits_pointed (negative : Bool) :
    readDigits negative ⟨0, 0, false, false, false⟩ (pointed digits d.scale) =
      .ok { d with negative := negative && d.mantissa != 0 } := by
  unfold pointed
  split
  · rename_i whole
    exact printed.readDigits_whole negative whole
  · rename_i fractional
    exact printed.readDigits_fraction negative fractional

theorem pointed_head : ∃ c more, pointed digits d.scale = c :: more ∧ c.isDigit = true := by
  have long := printed.long
  obtain ⟨c, more, rfl⟩ := List.exists_cons_of_length_pos (by omega : 0 < digits.length)
  unfold pointed
  split
  · exact ⟨c, more, rfl, printed.isDigit c (by simp)⟩
  · rw [List.take_cons (by omega)]
    exact ⟨c, _, rfl, printed.isDigit c (by simp)⟩

end PrintedDigits

/-- Reading the printed form of a decimal gives it back, scale and all; only the sign flag of a
zero is not printed in a way that reads back. -/
theorem parse_render (d : Decimal) : parse d.render = .ok d.canonical := by
  have printed := printedDigits_padDigits d
  have signed : d.canonical = { d with negative := d.negative && d.mantissa != 0 } := rfl
  rw [parse, render_toList, signed]
  -- the body starts with a digit, so only a sign printed before it is read as one
  obtain ⟨c, more, first, digit⟩ := printed.pointed_head
  have notSign : c ≠ '-' ∧ c ≠ '+' := by
    constructor <;> (rintro rfl; simp at digit)
  cases sign : d.negative with
  | true =>
    rw [← printed.readDigits_pointed true, first]
    rfl
  | false =>
    rw [← printed.readDigits_pointed false, first]
    simp only [Bool.false_eq_true, if_false, List.nil_append]
    split
    · rename_i same; simp at same
    · rename_i same; simp at same; exact absurd same.1 notSign.1
    · rename_i same; simp at same; exact absurd same.1 notSign.2
    · rfl

theorem parseStored?_render (d : Decimal) : parseStored? d.render = some d.canonical := by
  simp [parseStored?, parse_render]

end Decimal

end Subledger
