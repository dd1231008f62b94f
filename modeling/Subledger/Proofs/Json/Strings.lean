import Subledger.Proofs.Json.Run
import Subledger.Proofs.Text.Bytes

/-! # String literals read back

`Json.quote` writes a text between quotes with the quote, the backslash and the control
characters escaped, and every other character as its own UTF-8 bytes. The string reader takes
the bytes one step at a time, pushing plain bytes and decoding escapes, and turns what it
collected back into text. Every character is read back in at most as many steps as it has
bytes, so the reader's budget of one step a byte of the source is always enough, and the
collected bytes are those of the text, which decode to it.
-/

namespace Subledger

namespace Json

/-- The bytes a character is written as inside a string literal. -/
def escapedBytes (c : Char) : List UInt8 := Text.utf8 (escapeChar c).toList

/-- A string literal is a quote, the bytes of each character escaped, and a quote. -/
theorem quote_bytes (s : String) :
    Text.utf8 (quote s).toList = 34 :: s.toList.flatMap escapedBytes ++ [34] := by
  simp only [quote, String.toList_append, String.toList_join, Text.utf8_append, List.flatMap_map]
  rw [show Text.utf8 (s.toList.flatMap fun c => (escapeChar c).toList) =
      s.toList.flatMap escapedBytes by
    simp only [Text.utf8, List.flatMap_assoc]
    rfl]
  rfl

end Json

namespace Scan

section Strings

variable {src : ScanSource} {i : Nat} {more : List UInt8} {out : ByteArray} {fuel : Nat}

/-- The one-letter escapes and the bytes they stand for. -/
def escapeLetters : List (UInt8 × UInt8) :=
  [(34, 34), (92, 92), (98, 8), (102, 12), (110, 10), (114, 13), (116, 9)]

theorem go_quote (h : src.rest i = 34 :: more) :
    runAt (readStringWith.go true (fuel + 1) out) src i = (.ok out, i + 1) := by
  rw [readStringWith.go, runAt_peek_bind h]
  rfl

theorem go_plain {b : UInt8} (h : src.rest i = b :: more) (visible : 32 ≤ b.toNat)
    (notQuote : b ≠ 34) (notBackslash : b ≠ 92) :
    runAt (readStringWith.go true (fuel + 1) out) src i =
      runAt (readStringWith.go true fuel (out.push b)) src (i + 1) := by
  rw [readStringWith.go, runAt_peek_bind h]
  have notControl : ¬ b < 32 := by
    intro lt
    have := UInt8.lt_iff_toNat_lt.mp lt
    simp at this
    omega
  simp [notControl, notQuote, notBackslash, runAt_bump_bind]

theorem go_backslash (h : src.rest i = 92 :: more) :
    runAt (readStringWith.go true (fuel + 1) out) src i =
      runAt (readEscape true out >>= readStringWith.go true fuel) src (i + 1) := by
  rw [readStringWith.go, runAt_peek_bind h]
  rfl

theorem readEscape_letter {x y : UInt8} (h : src.rest i = x :: more)
    (letter : (x, y) ∈ escapeLetters) :
    runAt (readEscape true out) src i = (.ok (out.push y), i + 1) := by
  simp only [escapeLetters, List.mem_cons, Prod.mk.injEq, List.not_mem_nil, or_false] at letter
  rcases letter with ⟨rfl, rfl⟩ | ⟨rfl, rfl⟩ | ⟨rfl, rfl⟩ | ⟨rfl, rfl⟩ | ⟨rfl, rfl⟩ | ⟨rfl, rfl⟩ |
      ⟨rfl, rfl⟩ <;>
    (rw [readEscape, runAt_peek_bind h]; rfl)

theorem hexValue_digit : ∀ n, n < 16 → hexValue (Json.hexDigit n).toNat.toUInt8 = some n := by
  decide

theorem readHex4_at {a b c d : UInt8} {va vb vc vd : Nat}
    (h : src.rest i = a :: b :: c :: d :: more)
    (ha : hexValue a = some va) (hb : hexValue b = some vb) (hc : hexValue c = some vc)
    (hd : hexValue d = some vd) :
    runAt readHex4 src i = (.ok (((va * 16 + vb) * 16 + vc) * 16 + vd), i + 4) := by
  have room := size_of_rest (p := [a, b, c, d]) h (by simp)
  have h1 := rest_succ h
  have h2 := rest_succ h1
  have h3 := rest_succ h2
  simp only [readHex4]
  rw [runAt_bind_ok (runAt_read src i), runAt_bind_ok (runAt_get src i)]
  simp only [List.length_cons, List.length_nil] at room
  rw [if_pos (by omega), runAt_bind_ok (runAt_set src i (i + 4))]
  simp only [get!_of_rest h, get!_of_rest h1, get!_of_rest h2, get!_of_rest h3, List.map_cons,
    List.map_nil, ha, hb, hc, hd]
  rfl

theorem readEscape_unicode {n : Nat} (small : n < 32)
    (h : src.rest i = 117 :: 48 :: 48 :: (Json.hexDigit (n / 16)).toNat.toUInt8 ::
      (Json.hexDigit (n % 16)).toNat.toUInt8 :: more) :
    runAt (readEscape true out) src i = (.ok (out ++ codePointBytes n), i + 5) := by
  have hex := readHex4_at (rest_succ h) (show hexValue 48 = some 0 from rfl)
    (show hexValue 48 = some 0 from rfl)
    (hexValue_digit (n / 16) (by omega)) (hexValue_digit (n % 16) (by omega))
  have value : ((0 * 16 + 0) * 16 + n / 16) * 16 + n % 16 = n := by omega
  rw [value] at hex
  rw [readEscape, runAt_peek_bind h]
  simp only [runAt_bump_bind]
  show runAt (readUnicodeEscape true out) src (i + 1) = _
  rw [readUnicodeEscape, runAt_bind_ok hex]
  simp only [Bool.not_true, Bool.false_eq_true, if_false]
  rw [if_neg (by simp; omega), if_pos (by simp; omega)]
  rfl

theorem push_eq_append (out : ByteArray) (b : UInt8) : out.push b = out ++ [b].toByteArray :=
  ByteArray.append_toByteArray_singleton.symm

/-- Bytes that are neither control characters, quotes nor backslashes are taken as they are,
one step each. -/
theorem go_plain_bytes (bs : List UInt8) (plain : ∀ b ∈ bs, 32 ≤ b.toNat ∧ b ≠ 34 ∧ b ≠ 92) :
    ∀ i out fuel, src.rest i = bs ++ more →
      runAt (readStringWith.go true (fuel + bs.length) out) src i =
        runAt (readStringWith.go true fuel (out ++ bs.toByteArray)) src (i + bs.length) := by
  induction bs with
  | nil =>
    intro i out fuel _
    simp [ByteArray.append_empty]
  | cons b bs ih =>
    intro i out fuel h
    obtain ⟨visible, notQuote, notBackslash⟩ := plain b (by simp)
    rw [List.length_cons, ← Nat.add_assoc, go_plain h visible notQuote notBackslash,
      ih (fun c mem => plain c (by simp [mem])) (i + 1) (out.push b) fuel (rest_succ h),
      push_eq_append, ByteArray.append_assoc, ← List.toByteArray_append, List.singleton_append,
      Nat.add_assoc, Nat.add_comm 1 bs.length]

theorem go_letter {c : Char} {x : UInt8} (ascii : c.toNat < 128)
    (h : src.rest i = [92, x] ++ more)
    (letter : (x, c.toNat.toUInt8) ∈ escapeLetters) :
    runAt (readStringWith.go true (fuel + 1) out) src i =
      runAt (readStringWith.go true fuel (out ++ (String.utf8EncodeChar c).toByteArray)) src
        (i + 2) := by
  rw [go_backslash h, runAt_bind_ok (readEscape_letter (rest_succ h) letter),
    Text.utf8EncodeChar_ascii ascii, push_eq_append]

/-- How a character is written inside a string literal: a backslash and one letter, a
backslash, `u00` and two hex digits for any other control character, or its own bytes. -/
theorem escapedBytes_cases (c : Char) :
    (c.toNat < 128 ∧ ∃ x, Json.escapedBytes c = [92, x] ∧ (x, c.toNat.toUInt8) ∈ escapeLetters) ∨
    (c.toNat < 32 ∧ Json.escapedBytes c = [92, 117, 48, 48,
      (Json.hexDigit (c.toNat / 16)).toNat.toUInt8, (Json.hexDigit (c.toNat % 16)).toNat.toUInt8]) ∨
    (32 ≤ c.toNat ∧ c ≠ '"' ∧ c ≠ '\\' ∧ Json.escapedBytes c = String.utf8EncodeChar c) := by
  unfold Json.escapedBytes Json.escapeChar
  split
  · rename_i quote
    subst quote
    exact .inl ⟨by decide, 34, by decide, by decide⟩
  split
  · rename_i backslash
    subst backslash
    exact .inl ⟨by decide, 92, by decide, by decide⟩
  split
  · rename_i code
    exact .inl ⟨by omega, 98, by decide, by simp [escapeLetters, code]⟩
  split
  · rename_i code
    exact .inl ⟨by omega, 116, by decide, by simp [escapeLetters, code]⟩
  split
  · rename_i code
    exact .inl ⟨by omega, 110, by decide, by simp [escapeLetters, code]⟩
  split
  · rename_i code
    exact .inl ⟨by omega, 102, by decide, by simp [escapeLetters, code]⟩
  split
  · rename_i code
    exact .inl ⟨by omega, 114, by decide, by simp [escapeLetters, code]⟩
  split
  · rename_i control
    refine .inr (.inl ⟨control, ?_⟩)
    have hex : ∀ k, k < 16 → (Json.hexDigit k).toNat < 128 := by decide
    rw [String.toList_ofList, Text.utf8_cons, Text.utf8_cons, Text.utf8_cons, Text.utf8_cons,
      Text.utf8_cons, Text.utf8_cons, Text.utf8_nil,
      Text.utf8EncodeChar_ascii (hex _ (by omega)), Text.utf8EncodeChar_ascii (hex _ (by omega))]
    rfl
  · rename_i notQuote notBackslash _ _ _ _ _ visible
    refine .inr (.inr ⟨by omega, notQuote, notBackslash, ?_⟩)
    rw [String.toList_singleton, Text.utf8_cons, Text.utf8_nil, List.append_nil]

theorem plain_of_mem_utf8EncodeChar {c : Char} {b : UInt8} (visible : 32 ≤ c.toNat)
    (notQuote : c ≠ '"') (notBackslash : c ≠ '\\') (mem : b ∈ String.utf8EncodeChar c) :
    32 ≤ b.toNat ∧ b ≠ 34 ∧ b ≠ 92 := by
  by_cases ascii : c.toNat < 128
  · rw [Text.utf8EncodeChar_ascii ascii, List.mem_singleton] at mem
    subst mem
    have value : c.toNat.toUInt8.toNat = c.toNat := by
      simp [Nat.mod_eq_of_lt (by omega : c.toNat < 256)]
    refine ⟨by omega, fun same => notQuote ?_, fun same => notBackslash ?_⟩ <;>
      (apply Char.toNat_inj.mp; rw [← value, same]; rfl)
  · have high := Text.le_of_mem_utf8EncodeChar (by omega) mem
    refine ⟨by omega, fun same => ?_, fun same => ?_⟩ <;> (subst same; simp at high)

/-- Each character of a string literal is read back, in at least one step and at most one a
byte. -/
theorem go_escapedBytes (c : Char) (h : src.rest i = Json.escapedBytes c ++ more) :
    ∃ used, 1 ≤ used ∧ used ≤ (Json.escapedBytes c).length ∧ ∀ fuel,
      runAt (readStringWith.go true (fuel + used) out) src i =
        runAt (readStringWith.go true fuel (out ++ (String.utf8EncodeChar c).toByteArray)) src
          (i + (Json.escapedBytes c).length) := by
  rcases escapedBytes_cases c with ⟨ascii, x, written, letter⟩ | ⟨control, written⟩ |
    ⟨visible, notQuote, notBackslash, written⟩
  · rw [written] at h ⊢
    exact ⟨1, Nat.le_refl _, by simp, fun fuel => go_letter ascii h letter⟩
  · rw [written] at h ⊢
    simp only [List.cons_append, List.nil_append] at h
    refine ⟨1, Nat.le_refl _, by simp, fun fuel => ?_⟩
    rw [go_backslash h, runAt_bind_ok (readEscape_unicode control (rest_succ h))]
    have same : codePointBytes c.toNat = (String.utf8EncodeChar c).toByteArray := by
      rw [codePointBytes, Char.ofNat_toNat, String.toUTF8_eq_toByteArray,
        String.toByteArray_singleton, List.utf8Encode_singleton]
    rw [same]
    rfl
  · -- a character that needs no escape is its own bytes, one step each
    rw [written] at h ⊢
    exact ⟨(String.utf8EncodeChar c).length,
      by rw [String.length_utf8EncodeChar]; exact c.utf8Size_pos, Nat.le_refl _,
      fun fuel => go_plain_bytes _
        (fun b mem => plain_of_mem_utf8EncodeChar visible notQuote notBackslash mem) i out fuel h⟩

/-- The characters of a string literal, up to its closing quote, are read back as their bytes,
given a step for every byte. -/
theorem go_quoted (cs : List Char) :
    ∀ i out fuel, (cs.flatMap Json.escapedBytes).length < fuel →
      src.rest i = cs.flatMap Json.escapedBytes ++ 34 :: more →
      runAt (readStringWith.go true fuel out) src i =
        (.ok (out ++ (Text.utf8 cs).toByteArray),
          i + (cs.flatMap Json.escapedBytes).length + 1) := by
  induction cs with
  | nil =>
    intro i out fuel enough h
    obtain ⟨fuel, rfl⟩ : ∃ f, fuel = f + 1 := ⟨fuel - 1, by simp at enough; omega⟩
    rw [go_quote h]
    simp [ByteArray.append_empty]
  | cons c cs ih =>
    intro i out fuel enough h
    simp only [List.flatMap_cons, List.append_assoc] at h enough ⊢
    obtain ⟨used, pos, le, step⟩ := go_escapedBytes c h
    simp only [List.length_append] at enough
    obtain ⟨rest, rfl⟩ : ∃ rest, fuel = rest + used := ⟨fuel - used, by omega⟩
    rw [step, ih _ _ rest (by omega) (rest_append h), ByteArray.append_assoc,
      ← List.toByteArray_append, Text.utf8_cons, List.length_append, Nat.add_assoc i]

theorem readString_quoted (s : String)
    (h : src.rest i = s.toList.flatMap Json.escapedBytes ++ 34 :: more) :
    runAt readString src i = (.ok s, i + (s.toList.flatMap Json.escapedBytes).length + 1) := by
  have room := size_of_rest
    (show src.rest i = (s.toList.flatMap Json.escapedBytes ++ [34]) ++ more by simp [h]) (by simp)
  simp only [List.length_append, List.length_cons, List.length_nil] at room
  rw [readString, readStringWith, runAt_bind_ok (runAt_read src i),
    runAt_bind_ok (go_quoted s.toList i ByteArray.empty src.bytes.size (by omega) h),
    ByteArray.empty_append, ← Text.toByteArray_data, Text.toByteArray_data_toList,
    Text.fromUTF8?_toByteArray]
  rfl

theorem readString_reads (s : String) :
    Reads readString src (s.toList.flatMap Json.escapedBytes ++ [34]) s := by
  intro i more h
  rw [List.append_assoc, List.singleton_append] at h
  rw [readString_quoted s h, List.length_append, List.length_singleton, Nat.add_assoc]

end Strings

end Scan
end Subledger
