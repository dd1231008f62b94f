import Mathlib.Data.List.Basic
import Subledger.Proofs.Ident.Text
import Subledger.Ident.Kind

/-! # The written forms of an identifier

An identifier is written as its 32 hexadecimal digits, in either letter case, in one of four
forms (`Uuid.Spells`): the digits alone, the digits in groups of 8-4-4-4-12 joined by hyphens,
the grouped digits in braces, and the grouped digits after `urn:uuid:` in any letter case.
Reading accepts exactly these texts, and what it reads prints as the grouped digits in lower
case; a text of no form is refused, and reading an identifier of a kind then names the kind in
front of the reason. Printing gives the grouped lowercase form, which reads back.

The reader picks the form by the length of the text in bytes. Every text of a form is ASCII, so
its length in bytes is its length in characters, and each form has a length of its own. In the
other direction, a grouped body that reads has its four hyphens where the groups end and no
others: the 32 characters left after removing hyphens fill the 32 places between them.

Main statement: `IdKind.identifier_text`.
-/

namespace Subledger

namespace Uuid

/-! ## Hexadecimal digits -/

/-- The hexadecimal digits, in both letter cases. -/
def hexAlphabet : List Char := "0123456789abcdefABCDEF".toList

/-- 32 hexadecimal digits. -/
def HexDigits (ds : List Char) : Prop := ds.length = 32 ∧ ∀ c ∈ ds, c ∈ hexAlphabet

theorem toNat_lt_of_le {c d : Char} (le : c ≤ d) (ascii : d.toNat < 128) : c.toNat < 128 :=
  Nat.lt_of_le_of_lt (UInt32.le_iff_toNat_le.mp (Char.le_def.mp le)) ascii

theorem toNat_lt_of_hexValue {c : Char} (h : (hexValue c).isSome) : c.toNat < 128 := by
  unfold hexValue at h
  -- each digit range ends below 128
  split at h
  · rename_i digit
    simp only [Bool.and_eq_true, decide_eq_true_eq] at digit
    exact toNat_lt_of_le digit.2 (by decide)
  split at h
  · rename_i lower
    simp only [Bool.and_eq_true, decide_eq_true_eq] at lower
    exact toNat_lt_of_le lower.2 (by decide)
  split at h
  · rename_i upper
    simp only [Bool.and_eq_true, decide_eq_true_eq] at upper
    exact toNat_lt_of_le upper.2 (by decide)
  · simp at h

/-- A property of every character of a short list, checked by running through the list.
(Deciding `∀ c ∈ l, p c` as a statement about all characters would try every character.) -/
theorem forall_mem_of_all {l : List Char} {p : Char → Bool} (h : l.all p = true) :
    ∀ c ∈ l, p c = true :=
  List.all_eq_true.mp h

theorem mem_hexAlphabet_iff (c : Char) : c ∈ hexAlphabet ↔ (hexValue c).isSome := by
  have ascii : ∀ n < 128, (hexValue (Char.ofNat n)).isSome → Char.ofNat n ∈ hexAlphabet := by
    decide
  have valued : ∀ c ∈ hexAlphabet, (hexValue c).isSome := forall_mem_of_all (by decide)
  refine ⟨valued c, fun h => ?_⟩
  rw [← Char.ofNat_toNat c] at h ⊢
  exact ascii c.toNat (toNat_lt_of_hexValue (by rwa [Char.ofNat_toNat] at h)) h

theorem hexChar_hexValue {c : Char} (h : c ∈ hexAlphabet) :
    (hexValue c).map hexChar = some c.toLower := by
  have printed : ∀ c ∈ hexAlphabet, ((hexValue c).map hexChar == some c.toLower) = true :=
    forall_mem_of_all (by decide)
  exact beq_iff_eq.mp (printed c h)

theorem hexValue_lt {c : Char} {d : Nat} (h : c ∈ hexAlphabet) (value : hexValue c = some d) :
    d < 16 := by
  have small : ∀ c ∈ hexAlphabet, (hexValue c).all (· < 16) = true :=
    forall_mem_of_all (by decide)
  simpa [value] using small c h

theorem hexAlphabet_plain {c : Char} (h : c ∈ hexAlphabet) : c.toNat < 128 ∧ c ≠ '-' := by
  have plain : ∀ c ∈ hexAlphabet, (decide (c.toNat < 128) && c != '-') = true :=
    forall_mem_of_all (by decide)
  simpa using plain c h

/-! ## The number the digits stand for -/

section Fold

variable {ds : List Char} {u : Uuid}

theorem foldl_digits_acc (acc : Nat) (digits : List Nat) :
    digits.foldl (fun acc d => acc * 16 + d) acc =
      acc * Nat.pow 16 digits.length + digits.foldl (fun acc d => acc * 16 + d) 0 := by
  induction digits generalizing acc with
  | nil => simp
  | cons d digits ih =>
    have shift : Nat.pow 16 (digits.length + 1) = Nat.pow 16 digits.length * 16 := rfl
    simp only [List.foldl_cons, List.length_cons, Nat.zero_mul, Nat.zero_add]
    rw [ih (acc * 16 + d), ih d, shift, Nat.add_mul, Nat.add_assoc]
    ac_rfl

theorem foldl_digits_lt {digits : List Nat} (small : ∀ d ∈ digits, d < 16) :
    digits.foldl (fun acc d => acc * 16 + d) 0 < Nat.pow 16 digits.length := by
  induction digits with
  | nil => simp
  | cons d digits ih =>
    have head := small d (List.mem_cons_self ..)
    have tail := ih fun e mem => small e (List.mem_cons_of_mem d mem)
    have shift : Nat.pow 16 (digits.length + 1) = Nat.pow 16 digits.length * 16 := rfl
    -- the leading digit takes at most 15 of the 16 blocks of the rest's size
    have room : (d + 1) * Nat.pow 16 digits.length ≤ 16 * Nat.pow 16 digits.length :=
      Nat.mul_le_mul_right _ head
    simp only [List.foldl_cons, Nat.zero_mul, Nat.zero_add, List.length_cons]
    rw [foldl_digits_acc, shift, Nat.mul_comm (Nat.pow 16 digits.length) 16]
    rw [Nat.add_mul, Nat.one_mul] at room
    omega

theorem digits_foldl {digits : List Nat} (small : ∀ d ∈ digits, d < 16) :
    (List.range digits.length).reverse.map
        (fun i => digits.foldl (fun acc d => acc * 16 + d) 0 / Nat.pow 16 i % 16) = digits := by
  induction digits with
  | nil => rfl
  | cons d digits ih =>
    have head := small d (List.mem_cons_self ..)
    have rest := foldl_digits_lt fun e mem => small e (List.mem_cons_of_mem d mem)
    have positive : 0 < Nat.pow 16 digits.length := Nat.pow_pos (by decide)
    simp only [List.foldl_cons, Nat.zero_mul, Nat.zero_add, List.length_cons]
    rw [foldl_digits_acc, List.range_succ, List.reverse_append, List.reverse_singleton,
      List.singleton_append, List.map_cons]
    congr 1
    · -- the leading digit stands alone above the rest
      rw [Nat.mul_comm, Nat.mul_add_div positive, Nat.div_eq_of_lt rest, Nat.add_zero,
        Nat.mod_eq_of_lt head]
    · -- below the leading digit, it adds a multiple of 16 to every quotient
      conv => rhs; rw [← ih fun e mem => small e (List.mem_cons_of_mem d mem)]
      refine List.map_congr_left fun i mem => ?_
      have below : i < digits.length := List.mem_range.mp (List.mem_reverse.mp mem)
      have lower : 0 < Nat.pow 16 i := Nat.pow_pos (by decide)
      have split : Nat.pow 16 digits.length =
          Nat.pow 16 i * (16 * Nat.pow 16 (digits.length - i - 1)) := by
        simp only [Nat.pow_eq]
        rw [← Nat.pow_succ', ← Nat.pow_add]
        congr 1
        omega
      have regroup : d * (Nat.pow 16 i * (16 * Nat.pow 16 (digits.length - i - 1))) =
          Nat.pow 16 i * (16 * (d * Nat.pow 16 (digits.length - i - 1))) := by
        ac_rfl
      rw [split, regroup, Nat.mul_add_div lower, Nat.mul_add_mod]

theorem filterMap_hexValue_lt (alphabet : ∀ c ∈ ds, c ∈ hexAlphabet) :
    ∀ d ∈ ds.filterMap hexValue, d < 16 := by
  intro d mem
  obtain ⟨c, mem, value⟩ := List.mem_filterMap.mp mem
  exact hexValue_lt (alphabet c mem) value

/-- Digits that read are 32 hexadecimal digits, and the identifier they give prints them back in
lower case. -/
theorem hexDigits_of_ofHexDigits (h : ofHexDigits ds = some u) :
    HexDigits ds ∧ u.hexDigits = ds.map Char.toLower := by
  unfold ofHexDigits at h
  split at h
  case isFalse => cases h
  rename_i length
  dsimp only at h
  split at h
  case isFalse => cases h
  rename_i valued
  split at h
  case isFalse => cases h
  cases h
  have all : ∀ c ∈ ds, (hexValue c).isSome :=
    List.filterMap_length_eq_length.mp (valued.trans length.symm)
  have alphabet : ∀ c ∈ ds, c ∈ hexAlphabet := fun c mem =>
    (mem_hexAlphabet_iff c).mpr (all c mem)
  have small := filterMap_hexValue_lt alphabet
  refine ⟨⟨length, alphabet⟩, ?_⟩
  -- the digits printed are the digit values read, each printed in lower case
  have printed := congrArg (List.map hexChar) (digits_foldl small)
  rw [List.map_map, valued] at printed
  unfold hexDigits
  refine printed.trans ?_
  rw [List.map_filterMap]
  exact List.filterMap_eq_map_iff_forall_eq_some.mpr fun c mem =>
    hexChar_hexValue (alphabet c mem)

theorem ofHexDigits_isSome (digits : HexDigits ds) : ∃ u, ofHexDigits ds = some u := by
  obtain ⟨length, alphabet⟩ := digits
  have all : ∀ c ∈ ds, (hexValue c).isSome := fun c mem =>
    (mem_hexAlphabet_iff c).mp (alphabet c mem)
  have valued : (ds.filterMap hexValue).length = 32 :=
    (List.filterMap_length_eq_length.mpr all).trans length
  have small := filterMap_hexValue_lt alphabet
  have bounded := foldl_digits_lt small
  rw [valued] at bounded
  unfold ofHexDigits
  simp only [length, valued, if_true]
  exact ⟨_, dif_pos bounded⟩

end Fold

/-! ## The grouped form -/

/-- The digits in groups of 8-4-4-4-12 joined by hyphens. -/
def hyphenate (ds : List Char) : List Char :=
  ds.take 8 ++ ['-'] ++ (ds.drop 8).take 4 ++ ['-'] ++ (ds.drop 12).take 4 ++ ['-'] ++
    (ds.drop 16).take 4 ++ ['-'] ++ ds.drop 20

theorem render_toList (u : Uuid) : u.render.toList = hyphenate u.hexDigits := by
  simp [render, hyphenate]

section Groups

variable {a b c d e : List Char}

theorem hyphenate_append (ha : a.length = 8) (hb : b.length = 4) (hc : c.length = 4)
    (hd : d.length = 4) :
    hyphenate (a ++ b ++ c ++ d ++ e) =
      a ++ '-' :: (b ++ '-' :: (c ++ '-' :: (d ++ '-' :: e))) := by
  have past : ∀ (l : List Char) n, l.length ≤ n → l.drop n = [] := fun l n le =>
    List.drop_eq_nil_of_le le
  simp [hyphenate, List.drop_append, ha, hb, hc, hd, past a 12 (by omega),
    past a 16 (by omega), past a 20 (by omega), past b 8 (by omega), past b 12 (by omega),
    past c 8 (by omega)]

theorem split_at_hyphen {l : List Char} {i : Nat} (h : l[i]? = some '-') :
    ∃ a r, a.length = i ∧ l = a ++ '-' :: r := by
  obtain ⟨lt, found⟩ := List.getElem?_eq_some_iff.mp h
  refine ⟨l.take i, l.drop (i + 1), List.length_take_of_le (Nat.le_of_lt lt), ?_⟩
  rw [← found, ← List.drop_eq_getElem_cons lt, List.take_append_drop]

theorem groups_of_hyphens {body : List Char} (length : body.length = 36)
    (h8 : body[8]? = some '-') (h13 : body[13]? = some '-') (h18 : body[18]? = some '-')
    (h23 : body[23]? = some '-') :
    ∃ a b c d e, a.length = 8 ∧ b.length = 4 ∧ c.length = 4 ∧ d.length = 4 ∧ e.length = 12 ∧
      body = a ++ '-' :: (b ++ '-' :: (c ++ '-' :: (d ++ '-' :: e))) := by
  obtain ⟨a, r₁, ha, rfl⟩ := split_at_hyphen h8
  simp only [List.getElem?_append_right (by omega : a.length ≤ 13), ha,
    List.getElem?_append_right (by omega : a.length ≤ 18),
    List.getElem?_append_right (by omega : a.length ≤ 23), List.getElem?_cons_succ] at h13 h18 h23
  obtain ⟨b, r₂, hb, rfl⟩ := split_at_hyphen h13
  simp only [List.getElem?_append_right (by omega : b.length ≤ 9), hb,
    List.getElem?_append_right (by omega : b.length ≤ 14), List.getElem?_cons_succ] at h18 h23
  obtain ⟨c, r₃, hc, rfl⟩ := split_at_hyphen h18
  simp only [List.getElem?_append_right (by omega : c.length ≤ 9), hc, List.getElem?_cons_succ]
    at h23
  obtain ⟨d, e, hd, rfl⟩ := split_at_hyphen h23
  refine ⟨a, b, c, d, e, ha, hb, hc, hd, ?_, rfl⟩
  simp only [List.length_append, List.length_cons] at length
  omega

theorem filter_groups :
    (a ++ '-' :: (b ++ '-' :: (c ++ '-' :: (d ++ '-' :: e)))).filter (· != '-') =
      a.filter (· != '-') ++ b.filter (· != '-') ++ c.filter (· != '-') ++ d.filter (· != '-') ++
        e.filter (· != '-') := by
  simp [List.filter_append]

theorem runs_plain (ha : a.length = 8) (hb : b.length = 4) (hc : c.length = 4)
    (hd : d.length = 4) (he : e.length = 12)
    (kept : (a.filter (· != '-') ++ b.filter (· != '-') ++ c.filter (· != '-') ++
      d.filter (· != '-') ++ e.filter (· != '-')).length = 32) :
    a.filter (· != '-') ++ b.filter (· != '-') ++ c.filter (· != '-') ++ d.filter (· != '-') ++
      e.filter (· != '-') = a ++ b ++ c ++ d ++ e := by
  have keep : ∀ l : List Char, l.length ≤ (l.filter (· != '-')).length → l.filter (· != '-') = l :=
    fun l le => List.filter_eq_self.mpr (List.length_filter_eq_length_iff.mp
      (Nat.le_antisymm (List.length_filter_le _ l) le))
  have fa := List.length_filter_le (· != '-') a
  have fb := List.length_filter_le (· != '-') b
  have fc := List.length_filter_le (· != '-') c
  have fd := List.length_filter_le (· != '-') d
  have fe := List.length_filter_le (· != '-') e
  simp only [List.length_append] at kept
  rw [keep a (by omega), keep b (by omega), keep c (by omega), keep d (by omega), keep e (by omega)]

theorem ofGrouped_groups (ha : a.length = 8) (hb : b.length = 4) (hc : c.length = 4)
    (hd : d.length = 4) (he : e.length = 12)
    (plain : ∀ x ∈ a ++ b ++ c ++ d ++ e, x ≠ '-') :
    ofGrouped (a ++ '-' :: (b ++ '-' :: (c ++ '-' :: (d ++ '-' :: e)))) =
      ofHexDigits (a ++ b ++ c ++ d ++ e) := by
  have kept : (a ++ b ++ c ++ d ++ e).filter (· != '-') = a ++ b ++ c ++ d ++ e :=
    List.filter_eq_self.mpr fun x mem => by simpa using plain x mem
  rw [List.filter_append, List.filter_append, List.filter_append, List.filter_append] at kept
  unfold ofGrouped
  rw [filter_groups, kept]
  simp [ha, hb, hc, hd, he]

end Groups

theorem eq_hyphenate_of_ofGrouped {body : List Char} {u : Uuid} (h : ofGrouped body = some u) :
    ∃ ds, HexDigits ds ∧ body = hyphenate ds ∧ ofHexDigits ds = some u := by
  unfold ofGrouped at h
  split at h
  case isFalse => cases h
  rename_i shape
  simp only [Bool.and_eq_true, decide_eq_true_eq, beq_iff_eq] at shape
  obtain ⟨⟨⟨⟨length, h8⟩, h13⟩, h18⟩, h23⟩ := shape
  obtain ⟨a, b, c, d, e, ha, hb, hc, hd, he, rfl⟩ := groups_of_hyphens length h8 h13 h18 h23
  rw [filter_groups] at h
  obtain ⟨digits, -⟩ := hexDigits_of_ofHexDigits h
  rw [runs_plain ha hb hc hd he digits.1] at h digits
  exact ⟨_, digits, (hyphenate_append ha hb hc hd).symm, h⟩

theorem ofGrouped_hyphenate {ds : List Char} (digits : HexDigits ds) :
    ofGrouped (hyphenate ds) = ofHexDigits ds := by
  obtain ⟨length, alphabet⟩ := digits
  -- the digits are their own five runs
  have runs : ds = ds.take 8 ++ (ds.drop 8).take 4 ++ (ds.drop 12).take 4 ++
      (ds.drop 16).take 4 ++ ds.drop 20 := by
    rw [List.append_assoc, List.append_assoc, List.append_assoc,
      take_append_drop_of_eq _ (show 20 = 16 + 4 by rfl),
      take_append_drop_of_eq _ (show 16 = 12 + 4 by rfl),
      take_append_drop_of_eq _ (show 12 = 8 + 4 by rfl), List.take_append_drop]
  have plain : ∀ x ∈ ds, x ≠ '-' := fun x mem => (hexAlphabet_plain (alphabet x mem)).2
  have first : (ds.take 8).length = 8 := by simp [length]
  have inner : ∀ n ≤ 16, ((ds.drop n).take 4).length = 4 := fun n le => by
    simp only [List.length_take, List.length_drop, length]
    omega
  have last : (ds.drop 20).length = 12 := by simp [length]
  rw [runs, hyphenate_append first (inner 8 (by omega)) (inner 12 (by omega)) (inner 16 (by omega)),
    ofGrouped_groups first (inner 8 (by omega)) (inner 12 (by omega)) (inner 16 (by omega)) last
      (by rwa [← runs])]

theorem length_hyphenate {ds : List Char} (length : ds.length = 32) :
    (hyphenate ds).length = 36 := by
  simp [hyphenate, length]

theorem mem_hyphenate {ds : List Char} {c : Char} (h : c ∈ hyphenate ds) : c ∈ ds ∨ c = '-' := by
  simp only [hyphenate, List.mem_append, List.mem_singleton] at h
  rcases h with ((((((((m | m) | m) | m) | m) | m) | m) | m) | m)
  all_goals first
    | exact .inr m
    | exact .inl (List.mem_of_mem_take m)
    | exact .inl (List.mem_of_mem_drop (List.mem_of_mem_take m))
    | exact .inl (List.mem_of_mem_drop m)

/-! ## The four forms -/

/-- `Spells cs ds`: the text `cs` writes the 32 hexadecimal digits `ds` in one of the four
forms the reader accepts. -/
inductive Spells : List Char → List Char → Prop where
  /-- The digits alone. -/
  | plain {ds} : HexDigits ds → Spells ds ds
  /-- The digits in groups of 8-4-4-4-12 joined by hyphens. -/
  | grouped {ds} : HexDigits ds → Spells (hyphenate ds) ds
  /-- The grouped digits in braces. -/
  | braced {ds} : HexDigits ds → Spells ('{' :: hyphenate ds ++ ['}']) ds
  /-- The grouped digits after `urn:uuid:`, in any letter case. -/
  | urn {lead ds} : lead.map Char.toLower = "urn:uuid:".toList → HexDigits ds →
      Spells (lead ++ hyphenate ds) ds

theorem toNat_lt_of_toLower {c : Char} (h : c.toLower.toNat < 128) : c.toNat < 128 := by
  unfold Char.toLower at h
  split at h
  · rename_i upper
    exact toNat_lt_of_le (show c ≤ 'Z' from upper.2) (by decide)
  · exact h

namespace Spells

variable {cs ds : List Char}

theorem digits (h : Spells cs ds) : HexDigits ds := by
  cases h <;> assumption

theorem ascii (h : Spells cs ds) : ∀ c ∈ cs, c.toNat < 128 := by
  have grouped : ∀ c ∈ hyphenate ds, c.toNat < 128 := fun c mem => by
    rcases mem_hyphenate mem with digit | rfl
    · exact (hexAlphabet_plain (h.digits.2 c digit)).1
    · decide
  intro c mem
  cases h with
  | plain digits => exact (hexAlphabet_plain (digits.2 c mem)).1
  | grouped => exact grouped c mem
  | braced =>
    simp only [List.cons_append, List.mem_cons, List.mem_append, List.not_mem_nil, or_false]
      at mem
    rcases mem with rfl | inner | rfl
    · decide
    · exact grouped c inner
    · decide
  | @urn lead _ lower =>
    rcases List.mem_append.mp mem with lead_mem | inner
    · have lowered : c.toLower ∈ "urn:uuid:".toList := lower ▸ List.mem_map_of_mem lead_mem
      have urnAscii : ∀ d ∈ "urn:uuid:".toList, decide (d.toNat < 128) = true :=
        forall_mem_of_all (by decide)
      exact toNat_lt_of_toLower (of_decide_eq_true (urnAscii _ lowered))
    · exact grouped c inner

end Spells

/-! ## Reading -/

theorem utf8ByteSize_of_ascii {s : String} (ascii : ∀ c ∈ s.toList, c.toNat < 128) :
    s.utf8ByteSize = s.toList.length := by
  conv_lhs => rw [← String.ofList_toList (s := s)]
  exact Text.utf8ByteSize_ofList_ascii ascii

theorem getLast?_cons_concat (x y : Char) (l : List Char) :
    (x :: (l ++ [y])).getLast? = some y := by
  rw [← List.cons_append, List.getLast?_concat]

theorem parse_of_spells {s : String} {ds : List Char} (h : Spells s.toList ds) {u : Uuid}
    (read : ofHexDigits ds = some u) : parse s = .ok u := by
  have bytes := utf8ByteSize_of_ascii h.ascii
  simp only [parse, bytes]
  generalize s.toList = cs at h
  cases h with
  | plain digits => simp [body?, digits.1, read]
  | grouped digits => simp [body?, length_hyphenate digits.1, ofGrouped_hyphenate digits, read]
  | braced digits =>
    simp [body?, length_hyphenate digits.1, getLast?_cons_concat, ofGrouped_hyphenate digits, read]
  | @urn lead _ lower digits =>
    have nine : lead.length = 9 := by simpa using congrArg List.length lower
    simp [body?, hasUrnPrefix, nine, length_hyphenate digits.1, lower, ofGrouped_hyphenate digits,
      read]

theorem eq_braced {cs : List Char} {x y : Char} (ne : x ≠ y) (head : cs.head? = some x)
    (last : cs.getLast? = some y) : cs = x :: (cs.drop 1).dropLast ++ [y] := by
  obtain _ | ⟨a, t⟩ := cs
  · cases head
  obtain rfl : a = x := by simpa using head
  obtain rfl | ⟨t, b, rfl⟩ := List.eq_nil_or_concat t
  · exact absurd (by simpa using last) ne
  · rw [List.concat_eq_append, getLast?_cons_concat, Option.some.injEq] at last
    subst last
    simp

/-- The part read from a text is the whole text, what stands between braces around it, or what
follows a `urn:uuid:` prefix. -/
theorem eq_of_body? {cs body : List Char} {bytes : Nat} (h : body? cs bytes = some body) :
    cs = body ∨ cs = '{' :: body ++ ['}'] ∨
      ∃ lead, lead.map Char.toLower = "urn:uuid:".toList ∧ cs = lead ++ body := by
  unfold body? at h
  split at h
  · cases h
    exact .inl rfl
  split at h
  · rename_i braced
    cases h
    simp only [Bool.and_eq_true, decide_eq_true_eq, beq_iff_eq] at braced
    exact .inr (.inl (eq_braced (by decide) braced.1.2 braced.2))
  split at h
  · rename_i urn
    cases h
    simp only [Bool.and_eq_true, decide_eq_true_eq, hasUrnPrefix, beq_iff_eq] at urn
    exact .inr (.inr ⟨cs.take 9, urn.2, (List.take_append_drop 9 cs).symm⟩)
  · cases h

theorem spells_of_parse {s : String} {u : Uuid} (h : parse s = .ok u) :
    ∃ ds, Spells s.toList ds ∧ ofHexDigits ds = some u := by
  simp only [parse] at h
  generalize s.toList = cs at h ⊢
  generalize s.utf8ByteSize = bytes at h
  split at h
  case h_2 => cases h
  rename_i body found
  split at h
  · -- 32 bytes: the whole text is the digits alone
    rename_i plain
    subst plain
    obtain rfl : cs = body := by simpa [body?] using found
    split at h
    · rename_i v read
      cases h
      exact ⟨cs, .plain (hexDigits_of_ofHexDigits read).1, read⟩
    · cases h
  · split at h
    · rename_i v read
      cases h
      obtain ⟨ds, digits, rfl, digitsRead⟩ := eq_hyphenate_of_ofGrouped read
      refine ⟨ds, ?_, digitsRead⟩
      rcases eq_of_body? found with rfl | rfl | ⟨lead, lower, rfl⟩
      · exact .grouped digits
      · exact .braced digits
      · exact .urn lower digits
    · cases h

/-- A text reads exactly when it writes some digits in one of the four forms, and then reads
as those digits do. -/
theorem parse_eq_ok_iff {s : String} {u : Uuid} :
    parse s = .ok u ↔ ∃ ds, Spells s.toList ds ∧ ofHexDigits ds = some u :=
  ⟨spells_of_parse, fun ⟨_, spells, read⟩ => parse_of_spells spells read⟩

/-! ## Printing -/

theorem render_injective {u v : Uuid} (same : u.render = v.render) : u = v := by
  have back := parse_render v
  rw [← same, parse_render u] at back
  exact Except.ok.inj back

theorem render_of_ofHexDigits {ds : List Char} {u : Uuid} (h : ofHexDigits ds = some u) :
    u.render.toList = hyphenate (ds.map Char.toLower) := by
  rw [render_toList, (hexDigits_of_ofHexDigits h).2]

theorem render_canonical (u : Uuid) :
    ∃ ds, HexDigits ds ∧ ds.map Char.toLower = ds ∧ u.render.toList = hyphenate ds := by
  obtain ⟨digits, lower⟩ := hexDigits_of_ofHexDigits (ofHexDigits_hexDigits u)
  exact ⟨u.hexDigits, digits, lower.symm, render_toList u⟩

/-- A text reads as `u` exactly when it writes, in one of the four forms, the digits `u`
prints, in either letter case. -/
theorem parse_eq_ok_iff_render {s : String} {u : Uuid} :
    parse s = .ok u ↔
      ∃ ds, Spells s.toList ds ∧ u.render.toList = hyphenate (ds.map Char.toLower) := by
  constructor
  · intro h
    obtain ⟨ds, spells, read⟩ := spells_of_parse h
    exact ⟨ds, spells, render_of_ofHexDigits read⟩
  · rintro ⟨ds, spells, printed⟩
    obtain ⟨v, read⟩ := ofHexDigits_isSome spells.digits
    have same : v = u :=
      render_injective (String.toList_inj.mp ((render_of_ofHexDigits read).trans printed.symm))
    exact same ▸ parse_of_spells spells read

theorem isNil_iff (u : Uuid) : u.isNil = true ↔ u.hexDigits = List.replicate 32 '0' := by
  have zeros : ∀ v : Uuid, v.value = 0 → v.hexDigits = List.replicate 32 '0' := by
    intro v zero
    simp [hexDigits, zero, hexChar]
  constructor
  · intro h
    exact zeros u (by simpa [isNil] using h)
  · intro h
    -- the digits name the identifier, and the all-zero digits name `nil`
    have named : some u = some nil := by
      rw [← ofHexDigits_hexDigits u, ← ofHexDigits_hexDigits nil, h, zeros nil rfl]
    cases named
    rfl

end Uuid

namespace IdKind

open Uuid

variable (kind : IdKind)

theorem parse_eq_ok_iff_uuid (s : String) (u : Uuid) :
    kind.parse s = .ok u ↔ Uuid.parse s = .ok u := by
  unfold parse
  cases Uuid.parse s <;> simp

theorem parse_error {s : String} {e : DomainError} (h : kind.parse s = .error e) :
    ∃ reason, e = .invalidId (kind.typeName ++ ": " ++ reason) := by
  unfold parse at h
  cases read : Uuid.parse s with
  | ok u => simp [read] at h
  | error reason =>
    simp only [read, Except.error.injEq] at h
    exact ⟨reason.render, h.symm⟩

/-- Identifiers of every kind print as 32 lowercase hexadecimal digits in groups of 8-4-4-4-12,
which read back. A text reads exactly when it writes 32 hexadecimal digits, in either letter
case, alone, grouped, grouped in braces, or grouped after `urn:uuid:`; what it reads prints as
those digits grouped in lower case. A refused text is an invalid identifier whose message starts
with the kind's name, and the all-zero identifier is the one whose digits are all `0`. -/
theorem identifier_text (u : Uuid) (s : String) :
    kind.parse u.render = .ok u ∧
    (∃ ds, HexDigits ds ∧ ds.map Char.toLower = ds ∧ u.render.toList = hyphenate ds) ∧
    ((∃ v, kind.parse s = .ok v) ↔ ∃ ds, Spells s.toList ds) ∧
    (kind.parse s = .ok u ↔
      ∃ ds, Spells s.toList ds ∧ u.render.toList = hyphenate (ds.map Char.toLower)) ∧
    (∀ e, kind.parse s = .error e → ∃ reason, e = .invalidId (kind.typeName ++ ": " ++ reason)) ∧
    (u.isNil = true ↔ u.hexDigits = List.replicate 32 '0') := by
  have accepts : (∃ v, kind.parse s = .ok v) ↔ ∃ ds, Spells s.toList ds := by
    simp only [parse_eq_ok_iff_uuid, Uuid.parse_eq_ok_iff]
    constructor
    · rintro ⟨v, ds, spells, -⟩
      exact ⟨ds, spells⟩
    · rintro ⟨ds, spells⟩
      obtain ⟨v, read⟩ := ofHexDigits_isSome spells.digits
      exact ⟨v, ds, spells, read⟩
  refine ⟨?_, render_canonical u, accepts, ?_, fun e => kind.parse_error, isNil_iff u⟩
  · rw [parse_eq_ok_iff_uuid]
    exact parse_render u
  · rw [parse_eq_ok_iff_uuid]
    exact parse_eq_ok_iff_render

end IdKind

end Subledger
