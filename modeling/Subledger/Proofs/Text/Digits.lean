import Subledger.Time.Instant

/-! # Decimal digits

Numbers are printed with `Nat.toDigits`, sometimes after zeros that pad them to a width, and
read back by folding their digits from the left. These are the facts every reader of printed
numbers uses: the fold gives the number back whatever zeros stand before it, every printed
character is a digit, and a run of digits followed by something else is exactly what a reader
that takes digits while it can takes.
-/

namespace Subledger

/-- Folds ASCII digits from the left onto `acc`, as the readers of numbers do. -/
def digitFold (acc : Nat) (cs : List Char) : Nat :=
  cs.foldl (fun n c => n * 10 + (c.toNat - 48)) acc

theorem digitFold_append (acc : Nat) (a b : List Char) :
    digitFold acc (a ++ b) = digitFold (digitFold acc a) b := by
  simp [digitFold, List.foldl_append]

theorem digitChar_toNat {d : Nat} (h : d < 10) : d.digitChar.toNat - 48 = d := by
  have : d = 0 ∨ d = 1 ∨ d = 2 ∨ d = 3 ∨ d = 4 ∨ d = 5 ∨ d = 6 ∨ d = 7 ∨ d = 8 ∨ d = 9 := by
    omega
  rcases this with rfl | rfl | rfl | rfl | rfl | rfl | rfl | rfl | rfl | rfl <;> rfl

/-- Folding the printed digits of `n` shifts what was folded before past them and adds `n`;
the induction follows `Nat.toDigits`, which prints the last digit after the others. -/
theorem digitFold_toDigits (n : Nat) :
    ∀ acc, digitFold acc (Nat.toDigits 10 n) = acc * Nat.pow 10 (Nat.toDigits 10 n).length + n := by
  induction n using Nat.strongRecOn with
  | ind n ih =>
    intro acc
    rw [Nat.toDigits_eq_if (by decide)]
    split
    · rename_i small
      simp [digitFold, digitChar_toNat small]
    · rename_i big
      rw [digitFold_append, ih (n / 10) (by omega)]
      simp [digitFold, digitChar_toNat (Nat.mod_lt n (by decide)), Nat.pow_succ]
      rw [← Nat.mul_assoc]
      omega

theorem le_digitFold (acc : Nat) (cs : List Char) : acc ≤ digitFold acc cs := by
  induction cs generalizing acc with
  | nil => exact Nat.le_refl _
  | cons c cs ih =>
    exact Nat.le_trans (by omega) (ih (acc * 10 + (c.toNat - 48)))

@[simp] theorem digitFold_replicate_zero (acc k : Nat) :
    digitFold acc (List.replicate k '0') = acc * Nat.pow 10 k := by
  induction k generalizing acc with
  | zero => simp [digitFold]
  | succ k ih =>
    rw [List.replicate_succ, ← List.singleton_append, digitFold_append, ih]
    simp [digitFold, Nat.pow_succ, Nat.mul_assoc, Nat.mul_comm]

theorem digitFold_padded (n k : Nat) :
    digitFold 0 (List.replicate k '0' ++ Nat.toDigits 10 n) = n := by
  rw [digitFold_append, digitFold_replicate_zero, digitFold_toDigits]
  simp

theorem length_toDigits_le {n k : Nat} (h : n < Nat.pow 10 k) (pos : 0 < k) :
    (Nat.toDigits 10 n).length ≤ k :=
  (Nat.length_toDigits_le_iff (by decide) pos).mpr h

theorem isDigit_of_mem_toDigits {c : Char} (mem : c ∈ Nat.toDigits 10 n) : c.isDigit = true :=
  Nat.isDigit_of_mem_toDigits (by decide) (by decide) mem

/-- Only zero prints with a leading zero; the induction follows `Nat.toDigits`, whose first
digit is that of `n / 10` once `n` has two digits. -/
theorem head_toDigits_ne_zero : ∀ {n : Nat}, 0 < n → (Nat.toDigits 10 n).head? ≠ some '0' := by
  intro n
  induction n using Nat.strongRecOn with
  | ind n ih =>
    intro pos
    rw [Nat.toDigits_eq_if (by decide)]
    split
    · simp only [List.head?_cons, ne_eq, Option.some.injEq, Nat.digitChar_eq_zero]
      omega
    · have first := ih (n / 10) (by omega) (by omega)
      rw [List.head?_append]
      cases h : (Nat.toDigits 10 (n / 10)).head? with
      | none => exact absurd (List.head?_eq_none_iff.mp h) Nat.toDigits_ne_nil
      | some c => simpa [h] using first

theorem isDigit_of_mem_padded {c : Char} (mem : c ∈ List.replicate k '0' ++ Nat.toDigits 10 n) :
    c.isDigit = true := by
  rcases List.mem_append.mp mem with zero | digit
  · rw [(List.mem_replicate.mp zero).2]
    rfl
  · exact isDigit_of_mem_toDigits digit

theorem takeWhile_digits {ds rest : List Char} (digits : ∀ c ∈ ds, c.isDigit = true)
    (stop : ∀ c ∈ rest.head?, c.isDigit = false) :
    (ds ++ rest).takeWhile Char.isDigit = ds := by
  induction ds with
  | nil =>
    cases rest with
    | nil => rfl
    | cons c rest => simp [stop c rfl]
  | cons d ds ih =>
    simp only [List.cons_append, List.takeWhile_cons, digits d (by simp), if_true]
    rw [ih fun c mem => digits c (by simp [mem])]

end Subledger
