import Subledger.Proofs.Text.Bytes
import Subledger.Ident.Uuid

/-! # Printed identifiers read back

An identifier prints as its 32 hexadecimal digits, most significant first, in groups of
8-4-4-4-12. The print is 36 ASCII bytes, so `Uuid.parse` reads it as the grouped form: the
hyphens stand where the groups end, the digits without them are the 32 digits printed, and
folding them from the left gives the number back (a number below `16 ^ 32` is its 32 lowest
digits).
-/

namespace Subledger

namespace Uuid

theorem hexValue_hexChar : ∀ n, n < 16 → hexValue (hexChar n) = some n := by decide

theorem hexChar_ascii : ∀ n, n < 16 → (hexChar n).toNat < 128 ∧ hexChar n ≠ '-' := by decide

@[simp] theorem hexDigits_length (u : Uuid) : u.hexDigits.length = 32 := by
  simp [hexDigits]

/-- Folding the `k` lowest digits of `v`, most significant first, onto `acc`. -/
theorem foldl_hexDigits (v k acc : Nat) :
    ((List.range k).reverse.map fun i => v / Nat.pow 16 i % 16).foldl
      (fun acc d => acc * 16 + d) acc = acc * Nat.pow 16 k + v % Nat.pow 16 k := by
  induction k generalizing acc with
  | zero => simp [Nat.mod_one]
  | succ k ih =>
    rw [List.range_succ, List.reverse_append, List.reverse_singleton, List.singleton_append,
      List.map_cons, List.foldl_cons, ih]
    simp only [Nat.pow_eq]
    rw [Nat.mod_pow_succ, Nat.pow_succ, Nat.add_mul, Nat.mul_assoc, Nat.mul_comm 16 (16 ^ k),
      Nat.mul_comm (16 ^ k) (v / 16 ^ k % 16)]
    omega

theorem filterMap_hexDigits (u : Uuid) :
    u.hexDigits.filterMap hexValue =
      (List.range 32).reverse.map fun i => u.value / Nat.pow 16 i % 16 := by
  have digit : ∀ n, hexValue (hexChar (n % 16)) = some (n % 16) := fun n =>
    hexValue_hexChar _ (Nat.mod_lt _ (by decide))
  have composed : (hexValue ∘ fun i => hexChar (u.value / Nat.pow 16 i % 16)) =
      fun i => some (u.value / Nat.pow 16 i % 16) :=
    funext fun i => digit _
  rw [hexDigits, List.filterMap_map, composed, List.filterMap_eq_map']

theorem ofHexDigits_hexDigits (u : Uuid) : ofHexDigits u.hexDigits = some u := by
  have value : ((List.range 32).reverse.map fun i => u.value / Nat.pow 16 i % 16).foldl
      (fun acc d => acc * 16 + d) 0 = u.value := by
    rw [foldl_hexDigits]
    have := u.value_lt
    simp only [Nat.pow_eq] at this ⊢
    omega
  simp only [ofHexDigits, hexDigits_length, filterMap_hexDigits, List.length_map,
    List.length_reverse, List.length_range, if_true, value, dif_pos u.value_lt]

theorem hexDigits_plain (u : Uuid) : ∀ c ∈ u.hexDigits, c.toNat < 128 ∧ c ≠ '-' := by
  intro c mem
  obtain ⟨i, -, rfl⟩ := List.mem_map.mp mem
  exact hexChar_ascii _ (Nat.mod_lt _ (by decide))

theorem take_append_drop_of_eq (l : List Char) {n m k : Nat} (h : k = n + m) :
    (l.drop n).take m ++ l.drop k = l.drop n := by
  rw [h, ← List.drop_drop, List.take_append_drop]

theorem render_grouped (u : Uuid) :
    ofGrouped u.render.toList = some u := by
  have plain := hexDigits_plain u
  have length := hexDigits_length u
  simp only [render, String.toList_ofList, ofGrouped]
  have keep : ∀ l : List Char, (∀ c ∈ l, c.toNat < 128 ∧ c ≠ '-') → l.filter (· != '-') = l :=
    fun l h => List.filter_eq_self.mpr fun c mem => by simp [(h c mem).2]
  have inner : ∀ n m, (∀ c ∈ (u.hexDigits.drop n).take m, c.toNat < 128 ∧ c ≠ '-') :=
    fun n m c mem => plain c (List.mem_of_mem_drop (List.mem_of_mem_take mem))
  simp [List.filter_append, keep _ (fun c mem => plain c (List.mem_of_mem_take mem)),
    keep _ (inner _ _), keep _ (fun c mem => plain c (List.mem_of_mem_drop mem))]
  -- the groups put back together are the digits
  rw [take_append_drop_of_eq _ (show 20 = 16 + 4 by rfl),
    take_append_drop_of_eq _ (show 16 = 12 + 4 by rfl),
    take_append_drop_of_eq _ (show 12 = 8 + 4 by rfl), List.take_append_drop,
    ofHexDigits_hexDigits]

theorem render_utf8ByteSize (u : Uuid) : u.render.utf8ByteSize = 36 := by
  have plain := hexDigits_plain u
  have length := hexDigits_length u
  rw [render, Text.utf8ByteSize_ofList_ascii]
  · simp [length]
  · intro c mem
    -- every character is one of the digits or a hyphen
    have source : c ∈ u.hexDigits ∨ c = '-' := by
      simp only [List.mem_append, List.mem_singleton] at mem
      rcases mem with ((((((((m | m) | m) | m) | m) | m) | m) | m) | m)
      all_goals first
        | exact .inr m
        | exact .inl (List.mem_of_mem_take m)
        | exact .inl (List.mem_of_mem_drop (List.mem_of_mem_take m))
        | exact .inl (List.mem_of_mem_drop m)
    rcases source with digit | rfl
    · exact (plain c digit).1
    · decide

theorem parse_render (u : Uuid) : parse u.render = .ok u := by
  simp [parse, render_utf8ByteSize, body?, render_grouped]

end Uuid

end Subledger
