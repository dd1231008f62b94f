import Subledger.Proofs.Wire.Column

/-! # Stored documents read back

A stored state is a JSON document held in memory; loading it reads the compact text of the same
document with the keys of every object sorted. The documents read here may have fields taken
out (`Json.prune`), as a state written by hand leaves out fields that have defaults.

An object is read by a record shape when its fields, in declaration order, are some of the
record's own, each read by its shape, and the fields it lacks are optional or defaulted
(`Decoded`): the record is then read from any order of those fields, the sorted one included,
and each absent field takes its shape's default. Strings, identifiers, instants, decimals, tags,
optional values and lists are read back from their stored text as before; a version is a number,
read up to the comma or brace after it.
-/

namespace Subledger

namespace Json

mutual

/-- The document without the object fields whose keys `drop` names, at every depth. -/
def prune (drop : String → Bool) : Json → Json
  | .arr items => .arr (pruneItems drop items)
  | .obj fields => .obj (pruneFields drop fields)
  | j => j

/-- `prune` on every element. -/
def pruneItems (drop : String → Bool) : List Json → List Json
  | [] => []
  | j :: rest => prune drop j :: pruneItems drop rest

/-- The fields whose keys `drop` does not name, each pruned. -/
def pruneFields (drop : String → Bool) : List (String × Json) → List (String × Json)
  | [] => []
  | (k, v) :: rest =>
    if drop k then pruneFields drop rest else (k, prune drop v) :: pruneFields drop rest

end

variable {drop : String → Bool}

theorem pruneItems_eq_map (items : List Json) : pruneItems drop items = items.map (prune drop) := by
  induction items with
  | nil => rfl
  | cons j rest ih => simp [pruneItems, ih]

mutual

theorem prune_keep : ∀ j : Json, prune (fun _ => false) j = j
  | .null => rfl
  | .bool _ => rfl
  | .num _ => rfl
  | .str _ => rfl
  | .arr items => by rw [prune, pruneItems_keep items]
  | .obj fields => by rw [prune, pruneFields_keep fields]

theorem pruneItems_keep : ∀ items : List Json, pruneItems (fun _ => false) items = items
  | [] => rfl
  | j :: rest => by rw [pruneItems, prune_keep j, pruneItems_keep rest]

theorem pruneFields_keep :
    ∀ fields : List (String × Json), pruneFields (fun _ => false) fields = fields
  | [] => rfl
  | (k, v) :: rest => by
    rw [pruneFields, if_neg Bool.false_ne_true, prune_keep v, pruneFields_keep rest]

end

theorem sortedItems_eq_map (items : List Json) : sortedItems items = items.map sorted := by
  induction items with
  | nil => rfl
  | cons j rest ih => simp [sortedItems, ih]

theorem sortedFields_eq_map (fields : List (String × Json)) :
    sortedFields fields = fields.map fun f => (f.1, sorted f.2) := by
  induction fields with
  | nil => rfl
  | cons f rest ih =>
    obtain ⟨k, v⟩ := f
    simp [sortedFields, ih]

/-- The bytes a stored document is read from: without the fields `drop` names, keys sorted at
every depth, written compactly. -/
def storedBytes (drop : String → Bool) (j : Json) : List UInt8 :=
  Text.utf8 (render (sorted (prune drop j))).toList

@[simp] theorem storedBytes_str (s : String) :
    storedBytes drop (.str s) = Text.utf8 (render (.str s)).toList := rfl

@[simp] theorem storedBytes_null : storedBytes drop .null = Text.utf8 (render .null).toList := rfl

@[simp] theorem storedBytes_num (n : JsonNumber) :
    storedBytes drop (.num n) = Text.utf8 (render (.num n)).toList := rfl

/-- The fields of a stored object as the reader meets them, before sorting: those `drop` keeps,
each with the bytes of its pruned and sorted value. -/
def storedPairs (drop : String → Bool) (fields : List (String × Json)) :
    List (String × List UInt8) :=
  (pruneFields drop fields).map fun f => (f.1, Text.utf8 (render (sorted f.2)).toList)

@[simp] theorem storedPairs_nil : storedPairs drop [] = [] := rfl

theorem storedPairs_cons (k : String) (v : Json) (fields : List (String × Json)) :
    storedPairs drop ((k, v) :: fields) =
      if drop k then storedPairs drop fields
      else (k, storedBytes drop v) :: storedPairs drop fields := by
  by_cases dropped : drop k <;> simp [storedPairs, storedBytes, pruneFields, dropped]

/-- A stored object is written with its fields sorted, a permutation of the stored pairs. -/
theorem storedBytes_obj (drop : String → Bool) (fields : List (String × Json)) :
    ∃ written, written.Perm (storedPairs drop fields) ∧
      storedBytes drop (.obj fields) = 123 :: Scan.fieldsBytes true written ++ [125] := by
  let bytes : String × Json → String × List UInt8 := fun f => (f.1, Text.utf8 (render f.2).toList)
  refine ⟨(sortFields (sortedFields (pruneFields drop fields))).map bytes, ?_, ?_⟩
  · have sorting := List.mergeSort_perm (sortedFields (pruneFields drop fields))
      (fun a b => decide (a.1 ≤ b.1))
    rw [storedPairs, sortFields]
    refine (sorting.map bytes).trans ?_
    rw [sortedFields_eq_map, List.map_map]
    rfl
  · rw [storedBytes, show prune drop (.obj fields) = .obj (pruneFields drop fields) by rw [prune],
      show sorted (.obj (pruneFields drop fields)) =
        .obj (sortFields (sortedFields (pruneFields drop fields))) by rw [sorted],
      Scan.render_obj_fieldsBytes]

theorem storedBytes_arr (items : List Json) :
    storedBytes drop (.arr items) = 91 :: Scan.itemsBytes true (items.map (storedBytes drop)) ++ [93] := by
  rw [storedBytes, show prune drop (.arr items) = .arr (pruneItems drop items) by rw [prune],
    show sorted (.arr (pruneItems drop items)) = .arr (sortedItems (pruneItems drop items)) by
      rw [sorted],
    render_arr_bytes, Scan.itemsBytes, if_pos rfl, sortedItems_eq_map, pruneItems_eq_map,
    List.map_map, List.map_map]
  rfl

end Json

namespace Scan

variable {src : ScanSource}

/-- The fields `pairs` of an object, in declaration order, are read by `fs` to the values `vs`:
each field present is read by its shape up to the delimiter after it, and each one absent is
optional or defaulted and takes its shape's default. -/
inductive Decoded (src : ScanSource) : (fs : Fields) → List (String × List UInt8) → fs.Denote → Prop
  | nil : Decoded src .nil [] ()
  | here {n : String} {s : Shape} {absent : Absent} {rest : Fields} {bytes : List UInt8}
      {v : s.Denote} {pairs : List (String × List UInt8)} {vs : rest.Denote} :
      ReadsTo s.read src bytes v → Decoded src rest pairs vs →
      Decoded src (.cons n s absent rest) ((n, bytes) :: pairs) (v, vs)
  | absent {n : String} {s : Shape} {absent : Absent} {rest : Fields} {d : s.Denote}
      {pairs : List (String × List UInt8)} {vs : rest.Denote} :
      absent ≠ .required → s.default? = some d → Decoded src rest pairs vs →
      Decoded src (.cons n s absent rest) pairs (d, vs)

section Decoded

variable {fs : Fields} {pairs : List (String × List UInt8)} {vs : fs.Denote}

theorem runAt_absentField {n : String} {s : Shape} {absent : Absent} {d : s.Denote} (j : Nat)
    (notRequired : absent ≠ .required) (default : s.default? = some d) :
    runAt (absentField n s absent none 0) src j = (.ok d, j) := by
  cases absent with
  | required => exact absurd rfl notRequired
  | optional => simp [absentField, default]
  | defaulted => simp [absentField, default]

/-- The slots a decoded object fills, and what `finish` makes of them. -/
theorem Decoded.slots (decoded : Decoded src fs pairs vs) :
    ∃ slots, Placed src fs pairs slots ∧ ∀ j, runAt (Fields.finish fs slots) src j = (.ok vs, j) := by
  induction decoded with
  | nil => exact ⟨(), .nil, fun j => rfl⟩
  | here reads _ ih =>
    obtain ⟨slots, placed, finished⟩ := ih
    refine ⟨(some _, slots), .here reads placed, fun j => ?_⟩
    simp only [Fields.finish]
    rw [runAt_bind_ok (runAt_pure _ src j), runAt_bind_ok (finished j)]
    rfl
  | absent notRequired default _ ih =>
    obtain ⟨slots, placed, finished⟩ := ih
    refine ⟨(none, slots), .skip placed, fun j => ?_⟩
    simp only [Fields.finish]
    rw [runAt_bind_ok (runAt_absentField j notRequired default), runAt_bind_ok (finished j)]
    rfl

theorem Decoded.reads {name : String} {written : List (String × List UInt8)}
    (decoded : Decoded src fs pairs vs) (distinct : fs.names.Nodup) (perm : written.Perm pairs) :
    Reads (Shape.read (.record name fs)) src (123 :: fieldsBytes true written ++ [125]) vs := by
  obtain ⟨slots, placed, finished⟩ := decoded.slots
  exact readRecord_perm placed distinct perm finished

variable {drop : String → Bool}

theorem Decoded.readsStored {name : String} {fields : List (String × Json)}
    (decoded : Decoded src fs (Json.storedPairs drop fields) vs) (distinct : fs.names.Nodup) :
    Reads (Shape.read (.record name fs)) src (Json.storedBytes drop (.obj fields)) vs := by
  obtain ⟨written, perm, bytes⟩ := Json.storedBytes_obj drop fields
  rw [bytes]
  exact decoded.reads distinct perm

variable {k : String} {j : Json} {s : Shape} {absent : Absent} {more : List (String × Json)}
  {v : s.Denote}

theorem Decoded.kept (kept : drop k = false)
    (reads : ReadsTo s.read src (Json.storedBytes drop j) v)
    (rest : Decoded src fs (Json.storedPairs drop more) vs) :
    Decoded src (.cons k s absent fs) (Json.storedPairs drop ((k, j) :: more)) (v, vs) := by
  rw [Json.storedPairs_cons, if_neg (by simp [kept])]
  exact .here reads rest

theorem Decoded.defaulted {d : s.Denote} (notRequired : absent ≠ .required)
    (default : s.default? = some d)
    (reads : drop k = false → ReadsTo s.read src (Json.storedBytes drop j) v)
    (rest : Decoded src fs (Json.storedPairs drop more) vs) :
    Decoded src (.cons k s absent fs) (Json.storedPairs drop ((k, j) :: more))
      (if drop k then d else v, vs) := by
  rw [Json.storedPairs_cons]
  cases dropped : drop k
  · exact .here (reads dropped) rest
  · exact .absent notRequired default rest

end Decoded

/-- What an element of a stored array opens with: a byte that is no blank space, comma or
closing bracket. -/
def Opens : List UInt8 → Prop
  | [] => False
  | b :: _ => isBlank b = false ∧ b ≠ 93 ∧ b ≠ 44

theorem opens_obj (drop : String → Bool) (fields : List (String × Json)) :
    Opens (Json.storedBytes drop (.obj fields)) := by
  obtain ⟨_, _, bytes⟩ := Json.storedBytes_obj drop fields
  rw [bytes]
  exact ⟨rfl, by decide, by decide⟩

theorem opens_str (drop : String → Bool) (s : String) : Opens (Json.storedBytes drop (.str s)) := by
  rw [Json.storedBytes_str, Json.render_str_bytes]
  exact ⟨rfl, by decide, by decide⟩

section Lists

variable {α β γ : Type} {item : Scan β} {f : α → Json} {decode : β → γ} {expect : α → γ}

/-- Elements that each read back, to the same value from any source, are read one after the
other; the induction is on the elements, each giving one step. -/
theorem itemSteps_stored {xs : List α}
    (each : ∀ x ∈ xs, ∃ v, decode v = expect x ∧
      ∀ src, Reads item src (Json.storedBytes drop (f x)) v)
    (opens : ∀ x ∈ xs, Opens (Json.storedBytes drop (f x))) :
    ∃ vs, vs.map decode = xs.map expect ∧
      ∀ src, ItemSteps src item (xs.map fun x => Json.storedBytes drop (f x)) vs := by
  induction xs with
  | nil => exact ⟨[], rfl, fun _ => .nil⟩
  | cons x xs ih =>
    obtain ⟨v, decoded, reads⟩ := each x (by simp)
    obtain ⟨vs, rest, steps⟩ := ih (fun y mem => each y (by simp [mem]))
      (fun y mem => opens y (by simp [mem]))
    have first := opens x (by simp)
    refine ⟨v :: vs, by simp [decoded, rest], fun src => ?_⟩
    rw [List.map_cons]
    generalize Json.storedBytes drop (f x) = part at reads first ⊢
    cases part with
    | nil => exact first.elim
    | cons b tail => exact .cons first.1 first.2.1 first.2.2 (reads src) (steps src)

theorem list_stored {xs : List α}
    (each : ∀ x ∈ xs, ∃ v, decode v = expect x ∧
      ∀ src, Reads item src (Json.storedBytes drop (f x)) v)
    (opens : ∀ x ∈ xs, Opens (Json.storedBytes drop (f x))) :
    ∃ vs, vs.map decode = xs.map expect ∧
      ∀ src, Reads (readList item) src (Json.storedBytes drop (.arr (xs.map f))) vs := by
  obtain ⟨vs, decoded, steps⟩ := itemSteps_stored each opens
  refine ⟨vs, decoded, fun src => ?_⟩
  rw [Json.storedBytes_arr, List.map_map]
  exact readList_reads (steps src)

end Lists

theorem decodeDocument_prune {s : Shape} {doc : Json} {v : s.Denote}
    (reads : ∀ src, Reads s.read src (Json.storedBytes drop doc) v) :
    s.decodeDocument (Json.prune drop doc) = .ok v := by
  let src : ScanSource := ⟨(Json.sorted (Json.prune drop doc)).render.toUTF8, false⟩
  have whole : src.rest 0 = Json.storedBytes drop doc ++ [] := by
    simp [src, ScanSource.rest, Text.toByteArray_data, Json.storedBytes]
  have read := reads src 0 [] whole
  simp only [Shape.decodeDocument, runDocument, runAt] at read ⊢
  rw [read]

/-! ## Counts

A count is printed as its digits. Its reader looks at the byte after them, which in a stored
object is a comma or the closing brace, and gives the number back when it fits 64 bits. -/

section Counts

/-- The loop of a byte fold, `n` steps from `j` to the end, folds the bytes from `j`. -/
theorem byteFold_loop {β : Type} (as : ByteArray) (f : β → UInt8 → β) :
    ∀ n j b, j + n = as.size →
      ByteArray.foldlM.loop (m := Id) (fun b a => pure (f b a)) as as.size (Nat.le_refl _) n j b =
        (as.data.toList.drop j).foldl f b := by
  intro n
  induction n with
  | zero =>
    intro j b at_
    have : as.data.toList.drop j = [] := by simp; omega
    unfold ByteArray.foldlM.loop
    rw [this]
    split <;> rfl
  | succ n ih =>
    intro j b at_
    unfold ByteArray.foldlM.loop
    have lt : j < as.size := by omega
    rw [dif_pos lt]
    have : as.data.toList.drop j = as[j] :: as.data.toList.drop (j + 1) := by
      rw [List.drop_eq_getElem_cons (by simpa using lt)]
      rfl
    simp [this, ih (j + 1) _ (by omega)]

theorem byteFold_eq {β : Type} (as : ByteArray) (f : β → UInt8 → β) (init : β) :
    as.foldl f init = as.data.toList.foldl f init := by
  unfold ByteArray.foldl ByteArray.foldlM
  rw [dif_pos (Nat.le_refl _)]
  exact byteFold_loop as f _ 0 init (by omega)


theorem digitsValue_of_rest {i : Nat} {ds more : List UInt8} (h : src.rest i = ds ++ more) :
    digitsValue src.bytes i (i + ds.length) =
      ds.foldl (fun n b => if isDigit b then n * 10 + (b.toNat - 48) else n) 0 := by
  rw [ScanSource.rest] at h
  rw [digitsValue, byteFold_eq, ByteArray.data_extract, Array.toList_extract,
    List.extract_eq_take_drop, show i + ds.length - i = ds.length by omega, h, List.take_left]

theorem skipDigits_go {ds more : List UInt8} (digits : ∀ b ∈ ds, isDigit b = true)
    (stops : ∀ b ∈ more.head?, isDigit b = false) :
    ∀ {i fuel}, src.rest i = ds ++ more → ds.length ≤ fuel →
      runAt (skipDigits.go fuel) src i = (.ok (), i + ds.length) := by
  induction ds with
  | nil =>
    intro i fuel h _
    cases fuel with
    | zero => rfl
    | succ fuel =>
      cases more with
      | nil => simp [skipDigits.go, runAt_bind, runAt_peek, getElem?_bytes, h]
      | cons b more =>
        simp [skipDigits.go, runAt_bind, runAt_peek, getElem?_bytes, h, stops b rfl]
  | cons d ds ih =>
    intro i fuel h enough
    obtain ⟨fuel, rfl⟩ : ∃ f, fuel = f + 1 := ⟨fuel - 1, by simp at enough; omega⟩
    have next := ih (fun b mem => digits b (by simp [mem])) (rest_succ h) (by simp at enough; omega)
    simp [skipDigits.go, runAt_bind, runAt_peek, rest_cons h, digits d (by simp), runAt_bump, next]
    omega

theorem skipDigits_at {i : Nat} {ds more : List UInt8} (h : src.rest i = ds ++ more)
    (digits : ∀ b ∈ ds, isDigit b = true) (stops : ∀ b ∈ more.head?, isDigit b = false) :
    runAt skipDigits src i = (.ok (), i + ds.length) := by
  have size : ds.length ≤ src.bytes.size := by
    have := congrArg List.length h
    simp [ScanSource.rest] at this
    omega
  simp [skipDigits, runAt_bind, skipDigits_go digits stops h size]

theorem not_isDigit_of_delimited {more : List UInt8} (delimited : Delimited more) :
    ∀ b ∈ more.head?, isDigit b = false := by
  intro b mem
  cases more with
  | nil => cases mem
  | cons c more =>
    obtain rfl : c = b := Option.some.inj mem
    rcases delimited with rfl | rfl | rfl <;> rfl

theorem getElem?_of_delimited {i : Nat} {more : List UInt8} (h : src.rest i = more)
    (delimited : Delimited more) :
    src.bytes[i]? = none ∨ src.bytes[i]? = some 44 ∨ src.bytes[i]? = some 93 ∨
      src.bytes[i]? = some 125 := by
  rw [getElem?_bytes, h]
  cases more with
  | nil => exact .inl rfl
  | cons b more => rcases delimited with rfl | rfl | rfl <;> simp

/-- A run of digits that does not open with a zero, followed by a delimiter, is read as the
integer they spell when it fits 64 bits. -/
theorem readNumber_unsigned {i : Nat} {c : UInt8} {tail more : List UInt8}
    (h : src.rest i = c :: tail ++ more) (digits : ∀ b ∈ c :: tail, isDigit b = true)
    (leading : c ≠ 48) (delimited : Delimited more)
    (fits : digitsValue src.bytes i (i + 1 + tail.length) < Nat.pow 2 64) :
    runAt (readNumber true) src i =
      (.ok (.unsigned (digitsValue src.bytes i (i + 1 + tail.length))), i + 1 + tail.length) := by
  have first : src.bytes[i]? = some c := rest_cons h
  have digit : isDigit c = true := digits c (by simp)
  have notMinus : c ≠ 45 := by rintro rfl; exact absurd digit (by decide)
  have skip : runAt skipDigits src (i + 1) = (.ok (), i + 1 + tail.length) :=
    skipDigits_at (rest_succ h) (fun b mem => digits b (by simp [mem]))
      (not_isDigit_of_delimited delimited)
  have after := getElem?_of_delimited (rest_append (show src.rest i = (c :: tail) ++ more from h))
    delimited
  simp only [List.length_cons] at after
  rw [show i + (tail.length + 1) = i + 1 + tail.length by omega] at after
  -- past the digits stands a delimiter, so no fraction or exponent follows
  rcases after with after | after | after | after <;>
  simp +decide only [readNumber, ↓reduceIte, beq_iff_eq, Bool.and_eq_true,
    Option.isNone_iff_eq_none, Bool.not_eq_eq_eq_not, Bool.not_true, decide_eq_true_eq,
    bind_pure_comp, pure_bind, and_false, and_true, reduceCtorEq, false_and, true_and, runAt_bind,
    runAt_read, runAt_get, runAt_peek, first, Option.some.injEq, notMinus, imp_self, leading, digit,
    runAt_bump, skip, fits, after, runAt_map]

theorem readNumber_zero {i : Nat} {more : List UInt8} (h : src.rest i = 48 :: more)
    (delimited : Delimited more) :
    runAt (readNumber true) src i = (.ok (.unsigned 0), i + 1) := by
  have first : src.bytes[i]? = some 48 := rest_cons h
  have value : digitsValue src.bytes i (i + 1) = 0 := by
    rw [show i + 1 = i + ([48] : List UInt8).length from rfl,
      digitsValue_of_rest (show src.rest i = [48] ++ more from h)]
    decide
  rcases getElem?_of_delimited (rest_succ h) delimited with after | after | after | after <;>
  simp +decide only [readNumber, ↓reduceIte, beq_iff_eq, Bool.and_eq_true,
    Option.isNone_iff_eq_none, Bool.not_eq_eq_eq_not, Bool.not_true, decide_eq_true_eq,
    bind_pure_comp, isDigit, Bool.not_and, Bool.or_eq_true, decide_eq_false_iff_not, UInt8.not_le,
    pure_bind, and_false, and_true, reduceCtorEq, false_and, true_and, runAt_bind, runAt_read,
    runAt_get, runAt_peek, first, Option.some.injEq, imp_self, runAt_bump, after, value, runAt_map]

theorem digit_range {c : Char} (digit : c.isDigit = true) : 48 ≤ c.toNat ∧ c.toNat ≤ 57 := by
  simp only [Char.isDigit, Bool.and_eq_true, decide_eq_true_eq, ge_iff_le,
    UInt32.le_iff_toNat_le] at digit
  exact digit

theorem isDigit_byte {c : Char} (digit : c.isDigit = true) :
    isDigit c.toNat.toUInt8 = true ∧ c.toNat.toUInt8.toNat = c.toNat := by
  obtain ⟨low, high⟩ := digit_range digit
  have small : c.toNat.toUInt8.toNat = c.toNat := by
    simp [Nat.toUInt8]; omega
  refine ⟨?_, small⟩
  simp [isDigit, UInt8.le_iff_toNat_le, small]
  omega

theorem foldl_digitBytes {cs : List Char} (digits : ∀ c ∈ cs, c.isDigit = true) :
    ∀ acc, (cs.map fun c => c.toNat.toUInt8).foldl
      (fun n b => if isDigit b then n * 10 + (b.toNat - 48) else n) acc = digitFold acc cs := by
  induction cs with
  | nil => intro acc; rfl
  | cons c cs ih =>
    intro acc
    obtain ⟨digit, small⟩ := isDigit_byte (digits c (by simp))
    simp only [List.map_cons, List.foldl_cons, digit, if_true, small]
    exact ih (fun d mem => digits d (by simp [mem])) _

theorem count_bytes (n : Nat) :
    Text.utf8 (Json.render (Json.ofNat n)).toList = (Nat.toDigits 10 n).map fun c => c.toNat.toUInt8 := by
  have printed : (Json.render (Json.ofNat n)).toList = Nat.toDigits 10 n := by
    simp [Json.ofNat, Json.render, JsonNumber.render, Nat.toString_eq_repr, Nat.toList_repr]
  rw [printed, Text.utf8_ascii]
  intro c mem
  have := (digit_range (isDigit_of_mem_toDigits mem)).2
  omega

theorem readNumber_count {i n : Nat} {more : List UInt8} (fits : n < Nat.pow 2 64)
    (h : src.rest i = Text.utf8 (Json.render (Json.ofNat n)).toList ++ more)
    (delimited : Delimited more) :
    runAt (readNumber true) src i =
      (.ok (.unsigned n), i + (Text.utf8 (Json.render (Json.ofNat n)).toList).length) := by
  rw [count_bytes] at h ⊢
  have value := digitsValue_of_rest h
  rw [foldl_digitBytes (fun c mem => isDigit_of_mem_toDigits mem),
    digitFold_toDigits] at value
  simp only [Nat.zero_mul, Nat.zero_add] at value
  rcases Nat.eq_zero_or_pos n with rfl | pos
  · exact readNumber_zero h delimited
  · obtain ⟨c, cs, printed⟩ := List.exists_cons_of_ne_nil (Nat.toDigits_ne_nil (n := n) (b := 10))
    have leading : c ≠ '0' := fun zero => head_toDigits_ne_zero pos (by simp [printed, zero])
    obtain ⟨_, small⟩ := isDigit_byte (c := c) (isDigit_of_mem_toDigits (n := n) (by simp [printed]))
    rw [printed, List.map_cons, List.cons_append] at h
    rw [printed, List.map_cons, List.length_cons] at value ⊢
    rw [show i + ((cs.map fun c => c.toNat.toUInt8).length + 1) =
      i + 1 + (cs.map fun c => c.toNat.toUInt8).length by omega] at value ⊢
    rw [readNumber_unsigned h ?digits ?leading delimited (by rw [value]; exact fits), value]
    case digits =>
      intro b mem
      have listed : b ∈ (Nat.toDigits 10 n).map fun c => c.toNat.toUInt8 := by
        rw [printed]
        exact mem
      obtain ⟨d, printedDigit, rfl⟩ := List.mem_map.mp listed
      exact (isDigit_byte (isDigit_of_mem_toDigits printedDigit)).1
    case leading =>
      intro zero
      apply leading
      have : c.toNat = 48 := by rw [← small, zero]; rfl
      exact Char.toNat_inj.mp this

theorem isBlank_of_isDigit {b : UInt8} (digit : isDigit b = true) : isBlank b = false := by
  simp only [isDigit, Bool.and_eq_true, decide_eq_true_eq, UInt8.le_iff_toNat_le] at digit
  simp only [isBlank, Bool.or_eq_false_iff, beq_eq_false_iff_ne, ne_eq, ← UInt8.toNat_inj]
  simp only [UInt8.toNat_ofNat] at digit ⊢
  omega

theorem count_readsTo {n : Nat} (fits : n < Nat.pow 2 64) :
    ReadsTo Shape.count.read src (Text.utf8 (Json.render (Json.ofNat n)).toList) n := by
  intro i more h delimited
  obtain ⟨c, cs, printed⟩ := List.exists_cons_of_ne_nil (Nat.toDigits_ne_nil (n := n) (b := 10))
  obtain ⟨digit, small⟩ := isDigit_byte (c := c) (isDigit_of_mem_toDigits (n := n) (by simp [printed]))
  have first : src.rest i = c.toNat.toUInt8 :: ((cs.map fun c => c.toNat.toUInt8) ++ more) := by
    rw [h, count_bytes, printed]
    rfl
  have notBlank : isBlank c.toNat.toUInt8 = false := isBlank_of_isDigit digit
  show runAt (α := Nat) (settle _) src i = _
  apply runAt_settle
  rw [runAt_skipBlank_bind first notBlank]
  simp only [digit, Bool.or_true, if_true]
  rw [runAt_bind_ok (readNumber_count fits h delimited)]
  rfl

end Counts

end Scan

end Subledger
