import Subledger.Text.Blank

/-! # The bytes of a text

Readers of stored text work on its UTF-8 bytes. A text's bytes are those of its characters one
after the other (`Text.utf8`); an ASCII character is one byte, its own code, and every byte of
any other character is at least 128, so none of them can be taken for a quote, a backslash or a
control character. Bytes that came from a text decode back to it.
-/

namespace Subledger

namespace Text

/-- The UTF-8 bytes of a list of characters. -/
def utf8 (cs : List Char) : List UInt8 := cs.flatMap String.utf8EncodeChar

@[simp] theorem utf8_nil : utf8 [] = [] := rfl

@[simp] theorem utf8_cons (c : Char) (cs : List Char) :
    utf8 (c :: cs) = String.utf8EncodeChar c ++ utf8 cs := by
  simp [utf8]

@[simp] theorem utf8_append (a b : List Char) : utf8 (a ++ b) = utf8 a ++ utf8 b := by
  simp [utf8]

theorem toByteArray_data (s : String) : s.toByteArray.data.toList = utf8 s.toList := by
  rw [← String.utf8Encode_toList]
  simp [List.utf8Encode, utf8, List.data_toByteArray]

theorem toByteArray_data_toList (b : ByteArray) : b.data.toList.toByteArray = b := by
  apply ByteArray.ext
  simp [List.data_toByteArray]

theorem utf8ByteSize_eq (s : String) : s.utf8ByteSize = (utf8 s.toList).length := by
  rw [← toByteArray_data, ← String.size_toByteArray, ← ByteArray.size_data, Array.length_toList]

theorem utf8EncodeChar_ascii {c : Char} (h : c.toNat < 128) :
    String.utf8EncodeChar c = [c.toNat.toUInt8] := by
  have small : c.val.toNat ≤ 127 := by change c.toNat ≤ 127; omega
  simp only [String.utf8EncodeChar, small, if_true]
  rfl

theorem le_of_mem_utf8EncodeChar {c : Char} (h : 128 ≤ c.toNat) {b : UInt8}
    (mem : b ∈ String.utf8EncodeChar c) : 128 ≤ b.toNat := by
  have big : ¬ c.val.toNat ≤ 127 := by change ¬ c.toNat ≤ 127; omega
  simp only [String.utf8EncodeChar, big, if_false] at mem
  -- two, three or four bytes, each a continuation or a lead byte with its high bit set
  split at mem
  · simp at mem
    rcases mem with rfl | rfl <;> simp [UInt8.toNat_ofNat] <;> omega
  · split at mem
    · simp at mem
      rcases mem with rfl | rfl | rfl <;> simp [UInt8.toNat_ofNat] <;> omega
    · simp at mem
      rcases mem with rfl | rfl | rfl | rfl <;> simp [UInt8.toNat_ofNat] <;> omega

/-- The first byte of a character is the code of no other ASCII character: an ASCII character
is its own byte, and any other starts at 128 or more. -/
theorem utf8EncodeChar_head (c : Char) :
    ∃ b more, String.utf8EncodeChar c = b :: more ∧
      ∀ d : Char, d.toNat < 128 → c ≠ d → b.toNat ≠ d.toNat := by
  by_cases ascii : c.toNat < 128
  · refine ⟨c.toNat.toUInt8, [], utf8EncodeChar_ascii ascii, fun d _ ne same => ne ?_⟩
    have own : c.toNat.toUInt8.toNat = c.toNat := by
      simp [Nat.mod_eq_of_lt (show c.toNat < 256 by omega)]
    exact Char.toNat_inj.mp (own.symm.trans same)
  · obtain ⟨b, more, split⟩ := List.exists_cons_of_ne_nil (@String.utf8EncodeChar_ne_nil c)
    have first : b ∈ String.utf8EncodeChar c := by
      rw [split]
      exact List.mem_cons_self
    have high := le_of_mem_utf8EncodeChar (by omega) first
    exact ⟨b, more, split, fun d low _ => by omega⟩

theorem utf8_ascii {cs : List Char} (ascii : ∀ c ∈ cs, c.toNat < 128) :
    utf8 cs = cs.map fun c => c.toNat.toUInt8 := by
  induction cs with
  | nil => rfl
  | cons c cs ih =>
    rw [utf8_cons, utf8EncodeChar_ascii (ascii c (by simp)),
      ih fun d mem => ascii d (by simp [mem])]
    rfl

theorem utf8ByteSize_ofList_ascii {cs : List Char} (ascii : ∀ c ∈ cs, c.toNat < 128) :
    (String.ofList cs).utf8ByteSize = cs.length := by
  rw [utf8ByteSize_eq, String.toList_ofList, utf8_ascii ascii, List.length_map]

theorem fromUTF8?_toByteArray (s : String) : String.fromUTF8? s.toByteArray = some s := by
  simp [String.fromUTF8?, s.isValidUTF8, String.fromUTF8]

end Text

end Subledger
