import Subledger.Proofs.Json.Strings
import Subledger.Json.Decode

/-! # Documents read back

The compact text of a document is its parts with commas between them: an object is a brace,
its fields (a key as a string literal, a colon and the value) and a brace; an array is a
bracket, its elements and a bracket. Reading an object goes over its fields one by one and
hands each to the record's `fill`; reading an array hands each element to the item reader.
When each field or element is read back by its own reader (`FieldStepsTo`, `ItemSteps`), the
whole object or array is, with one step of the reader's budget for each, which the bytes
always cover. A text read whole by a step, with nothing after it, is decoded to what the step
gives.
-/

namespace Subledger

namespace Json

/-- Parts written one after the other with commas between them. -/
def commaBytes : List (List UInt8) → List UInt8
  | [] => []
  | p :: ps => p ++ ps.flatMap (44 :: ·)

/-- A field of an object: its key as a string literal, a colon, and the value's bytes. -/
def pairBytes (key : String) (value : List UInt8) : List UInt8 :=
  Text.utf8 (quote key).toList ++ 58 :: value

theorem renderFields_bytes (fields : List (String × Json)) :
    Text.utf8 (renderFields fields).toList =
      commaBytes (fields.map fun f => pairBytes f.1 (Text.utf8 (render f.2).toList)) := by
  induction fields with
  | nil => simp [renderFields, commaBytes]
  | cons f fields ih =>
    obtain ⟨k, v⟩ := f
    cases fields with
    | nil =>
      simp [renderFields, commaBytes, pairBytes, show String.utf8EncodeChar ':' = [58] from rfl]
    | cons g gs =>
      rw [renderFields]
      · simp only [String.toList_append, Text.utf8_append, ih, List.map_cons, commaBytes,
          pairBytes, show Text.utf8 ":".toList = [58] from rfl,
          show Text.utf8 ",".toList = [44] from rfl]
        simp
      · simp

theorem renderItems_bytes (items : List Json) :
    Text.utf8 (renderItems items).toList =
      commaBytes (items.map fun j => Text.utf8 j.render.toList) := by
  induction items with
  | nil => simp [renderItems, commaBytes]
  | cons j items ih =>
    cases items with
    | nil => simp [renderItems, commaBytes]
    | cons k ks =>
      rw [renderItems]
      · simp only [String.toList_append, Text.utf8_append, ih, List.map_cons, commaBytes,
          show Text.utf8 ",".toList = [44] from rfl]
        simp
      · simp

theorem render_obj_bytes (fields : List (String × Json)) :
    Text.utf8 (render (.obj fields)).toList =
      123 :: commaBytes (fields.map fun f => pairBytes f.1 (Text.utf8 (render f.2).toList)) ++
        [125] := by
  simp only [render, String.toList_append, Text.utf8_append, renderFields_bytes]
  rfl

theorem render_arr_bytes (items : List Json) :
    Text.utf8 (render (.arr items)).toList =
      91 :: commaBytes (items.map fun j => Text.utf8 j.render.toList) ++ [93] := by
  simp only [render, String.toList_append, Text.utf8_append, renderItems_bytes]
  rfl

theorem render_str_bytes (s : String) :
    Text.utf8 (render (.str s)).toList = 34 :: s.toList.flatMap escapedBytes ++ [34] := by
  rw [render, quote_bytes]

theorem render_null_bytes : Text.utf8 (render .null).toList = [110, 117, 108, 108] := by
  rw [render]
  rfl

end Json

namespace Scan

section Objects

variable {σ : Type} {src : ScanSource}

/-- Reading the fields `pairs`, each a key and the bytes of its value, one after the other takes
the slots of a record from `s` to `s'`: for each key, `fill` reads the colon and the value up to
the comma or brace after it. -/
inductive FieldStepsTo (src : ScanSource) (fill : σ → String → Scan (Option σ)) :
    σ → List (String × List UInt8) → σ → Prop
  | nil (s : σ) : FieldStepsTo src fill s [] s
  | cons {s s' s'' : σ} {key : String} {value : List UInt8} {pairs : List (String × List UInt8)} :
      ReadsTo (fill s key) src (58 :: value) (some s') →
      FieldStepsTo src fill s' pairs s'' → FieldStepsTo src fill s ((key, value) :: pairs) s''

/-- The bytes of the fields of an object, after the first one when `first` is false. -/
def fieldsBytes (first : Bool) (pairs : List (String × List UInt8)) : List UInt8 :=
  if first then Json.commaBytes (pairs.map fun p => Json.pairBytes p.1 p.2)
  else pairs.flatMap fun p => 44 :: Json.pairBytes p.1 p.2

theorem delimited_fieldsBytes (pairs : List (String × List UInt8)) (more : List UInt8) :
    Delimited (fieldsBytes false pairs ++ 125 :: more) := by
  cases pairs with
  | nil => exact .inr (.inr rfl)
  | cons p pairs => exact .inl rfl

/-- The key of a field, after the comma that stands before every field but the first, is read
as a string literal. -/
theorem nextKey_quoted {i : Nat} {first : Bool} {key : String} {rest : List UInt8}
    (h : src.rest i = (if first then [] else [44]) ++ 34 ::
      (key.toList.flatMap Json.escapedBytes ++ 34 :: rest)) :
    runAt (nextKey first) src i = (.ok (some key),
      i + (if first then 0 else 1) + 1 + (key.toList.flatMap Json.escapedBytes).length + 1) := by
  cases first with
  | false =>
    simp only [Bool.false_eq_true, if_false, List.cons_append, List.nil_append] at h ⊢
    rw [nextKey_comma h, runAt_map, readString_quoted key (rest_succ (rest_succ h))]
  | true =>
    simp only [if_true, List.nil_append] at h ⊢
    rw [nextKey_first h, runAt_map, readString_quoted key (rest_succ h)]

theorem go_fieldsTo {fill : σ → String → Scan (Option σ)} {s s' : σ}
    {pairs : List (String × List UInt8)} (steps : FieldStepsTo src fill s pairs s') :
    ∀ i fuel first more, pairs.length < fuel →
      src.rest i = fieldsBytes first pairs ++ 125 :: more →
      runAt (readObject.go fill fuel first s) src i =
        (.ok s', i + (fieldsBytes first pairs).length) := by
  induction steps with
  | nil s =>
    intro i fuel first more enough h
    obtain ⟨fuel, rfl⟩ : ∃ f, fuel = f + 1 := ⟨fuel - 1, by simp at enough; omega⟩
    have empty : fieldsBytes first [] = [] := by cases first <;> rfl
    rw [empty, List.nil_append] at h
    rw [readObject.go, runAt_bind_ok (nextKey_close first h), empty]
    rfl
  | cons read steps ih =>
    rename_i s s' s'' key value pairs
    intro i fuel first more enough h
    obtain ⟨fuel, rfl⟩ : ∃ f, fuel = f + 1 := ⟨fuel - 1, by simp at enough; omega⟩
    -- a comma before every field but the first, then the key as a string literal
    have shape : fieldsBytes first ((key, value) :: pairs) =
        (if first then [] else [44]) ++ 34 :: (key.toList.flatMap Json.escapedBytes ++
          34 :: 58 :: value) ++ fieldsBytes false pairs := by
      cases first <;> simp [fieldsBytes, Json.commaBytes, Json.pairBytes, Json.quote_bytes,
        List.flatMap_map]
    rw [shape] at h ⊢
    have keyAt : src.rest i = (if first then [] else [44]) ++ 34 ::
        (key.toList.flatMap Json.escapedBytes ++ 34 :: (58 :: value ++ fieldsBytes false pairs ++
          125 :: more)) := by
      rw [h]
      simp
    rw [readObject.go, runAt_bind_ok (nextKey_quoted keyAt)]
    dsimp only
    -- the value, read by the field's own reader, then the fields after it
    have split : src.rest i = ((if first then [] else [44]) ++
        34 :: (key.toList.flatMap Json.escapedBytes ++ [34])) ++
        (58 :: value ++ (fieldsBytes false pairs ++ 125 :: more)) := by
      rw [h]
      simp
    have afterKey := rest_append split
    have keyLength : ((if first then [] else [44]) ++
        34 :: (key.toList.flatMap Json.escapedBytes ++ [34])).length =
        (if first then 0 else 1) + 1 + (key.toList.flatMap Json.escapedBytes).length + 1 := by
      cases first <;> simp <;> omega
    rw [keyLength, ← Nat.add_assoc, ← Nat.add_assoc, ← Nat.add_assoc] at afterKey
    rw [runAt_bind_ok (read _ _ afterKey (delimited_fieldsBytes pairs more))]
    dsimp only
    have afterValue := rest_append (p := 58 :: value) (by rw [afterKey])
    rw [ih _ fuel false more (by simp at enough; omega) afterValue]
    simp only [List.length_append, List.length_cons]
    cases first <;> simp <;> omega

theorem length_le_fieldsBytes (first : Bool) (pairs : List (String × List UInt8)) :
    pairs.length ≤ (fieldsBytes first pairs).length := by
  induction pairs generalizing first with
  | nil => simp
  | cons p pairs ih =>
    have rest := ih false
    cases first <;>
      simp [fieldsBytes, Json.commaBytes, Json.pairBytes, List.flatMap_map] at rest ⊢ <;> omega

theorem readObject_fieldsTo {α : Type} {fill : σ → String → Scan (Option σ)}
    {finish : σ → Scan α} {s s' : σ} {pairs : List (String × List UInt8)} {i : Nat}
    {more : List UInt8} (steps : FieldStepsTo src fill s pairs s')
    (h : src.rest i = fieldsBytes true pairs ++ 125 :: more) :
    runAt (readObject fill finish s) src i =
      runAt (finish s') src (i + (fieldsBytes true pairs).length) := by
  have room := size_of_rest
    (show src.rest i = (fieldsBytes true pairs ++ [125]) ++ more by rw [h]; simp) (by simp)
  have many := length_le_fieldsBytes true pairs
  simp only [List.length_append, List.length_cons, List.length_nil] at room
  rw [readObject, runAt_bind_ok (runAt_readThe src i),
    runAt_bind_ok (go_fieldsTo steps i _ true more (by omega) h)]

end Objects

section Arrays

variable {α : Type} {src : ScanSource}

/-- Reading the elements `parts` one after the other with `item` gives `values`; each element
starts with a byte that is no blank, comma or closing bracket. -/
inductive ItemSteps (src : ScanSource) (item : Scan α) : List (List UInt8) → List α → Prop
  | nil : ItemSteps src item [] []
  | cons {b : UInt8} {tail : List UInt8} {a : α} {parts : List (List UInt8)} {values : List α} :
      isBlank b = false → b ≠ 93 → b ≠ 44 →
      Reads item src (b :: tail) a →
      ItemSteps src item parts values → ItemSteps src item ((b :: tail) :: parts) (a :: values)

/-- The bytes of the elements of an array, after the first one when `first` is false. -/
def itemsBytes (first : Bool) (parts : List (List UInt8)) : List UInt8 :=
  if first then Json.commaBytes parts else parts.flatMap (44 :: ·)

theorem go_items {item : Scan α} {parts : List (List UInt8)} {values : List α}
    (steps : ItemSteps src item parts values) :
    ∀ i fuel first acc more, parts.length < fuel →
      src.rest i = itemsBytes first parts ++ 93 :: more →
      runAt (readList.go item fuel first acc) src i =
        (.ok (acc.reverse ++ values), i + (itemsBytes first parts).length) := by
  induction steps with
  | nil =>
    intro i fuel first acc more enough h
    obtain ⟨fuel, rfl⟩ : ∃ f, fuel = f + 1 := ⟨fuel - 1, by simp at enough; omega⟩
    have empty : itemsBytes first [] = [] := by cases first <;> rfl
    rw [empty, List.nil_append] at h
    rw [readList.go, runAt_bind_ok (nextElement_close first h), empty]
    simp
  | cons notBlank notClose notComma read steps ih =>
    rename_i b tail a parts values
    intro i fuel first acc more enough h
    obtain ⟨fuel, rfl⟩ : ∃ f, fuel = f + 1 := ⟨fuel - 1, by simp at enough; omega⟩
    -- a comma before every element but the first
    have shape : itemsBytes first ((b :: tail) :: parts) =
        (if first then [] else [44]) ++ (b :: tail) ++ itemsBytes false parts := by
      cases first <;> simp [itemsBytes, Json.commaBytes]
    rw [shape] at h ⊢
    have atItem : src.rest (i + (if first then 0 else 1)) =
        b :: tail ++ (itemsBytes false parts ++ 93 :: more) := by
      cases first with
      | false =>
        simp only [Bool.false_eq_true, if_false, List.cons_append, List.append_assoc] at h ⊢
        exact rest_succ h
      | true =>
        simp only [if_true, List.nil_append, List.cons_append, List.append_assoc] at h ⊢
        exact h
    have opened : runAt (nextElement first) src i = (.ok true, i + (if first then 0 else 1)) := by
      cases first with
      | false =>
        simp only [Bool.false_eq_true, if_false, List.cons_append] at h ⊢
        exact nextElement_comma h notBlank notClose
      | true =>
        simp only [if_true, List.nil_append, List.cons_append] at h ⊢
        exact nextElement_first h notBlank notClose notComma
    rw [readList.go, runAt_bind_ok opened]
    simp only [if_true]
    rw [runAt_bind_ok (read _ _ atItem)]
    have afterItem := rest_append atItem
    rw [ih _ fuel false (a :: acc) more (by simp at enough; omega) afterItem]
    simp only [List.reverse_cons, List.append_assoc, List.singleton_append, List.length_append]
    cases first <;> simp <;> omega

theorem ItemSteps.length_le {item : Scan α} {parts : List (List UInt8)} {values : List α}
    (steps : ItemSteps src item parts values) (first : Bool) :
    parts.length ≤ (itemsBytes first parts).length := by
  induction steps generalizing first with
  | nil => simp
  | cons _ _ _ _ _ ih =>
    have rest := ih false
    cases first <;> simp [itemsBytes, Json.commaBytes] at rest ⊢ <;> omega

theorem readList_items {item : Scan α} {parts : List (List UInt8)} {values : List α} {i : Nat}
    {more : List UInt8} (steps : ItemSteps src item parts values)
    (h : src.rest i = 91 :: itemsBytes true parts ++ 93 :: more) :
    runAt (readList item) src i = (.ok values, i + (itemsBytes true parts).length + 2) := by
  have room := size_of_rest
    (show src.rest i = (91 :: itemsBytes true parts ++ [93]) ++ more by rw [h]; simp) (by simp)
  have many := steps.length_le true
  simp only [List.length_append, List.length_cons, List.length_nil] at room
  have inside : src.rest (i + 1) = itemsBytes true parts ++ 93 :: more := rest_succ h
  have close := rest_append inside
  rw [readList]
  apply runAt_settle
  rw [runAt_skipBlank_bind h rfl]
  show runAt (bump >>= fun _ => readThe ScanSource >>= fun source =>
    andThenAlways (readList.go item source.bytes.size true []) closeList) src i = _
  rw [runAt_bump_bind, runAt_bind_ok (runAt_readThe src _),
    runAt_andThenAlways (go_items steps (i + 1) _ true [] more (by omega) inside)
      (closeList_at close)]
  rw [List.reverse_nil, List.nil_append,
    show i + 1 + (itemsBytes true parts).length + 1 = i + (itemsBytes true parts).length + 2 by
      omega]

end Arrays

/-- Characters a JSON reader skips as blank space: spaces, tabs and line ends. -/
def JsonBlank (cs : List Char) : Prop := ∀ c ∈ cs, c = ' ' ∨ c = '\t' ∨ c = '\n' ∨ c = '\r'

theorem isBlank_utf8 {cs : List Char} (blank : JsonBlank cs) :
    ∀ b ∈ Text.utf8 cs, isBlank b = true := by
  have ascii : ∀ c ∈ cs, c.toNat < 128 := fun c mem => by
    rcases blank c mem with rfl | rfl | rfl | rfl <;> decide
  rw [Text.utf8_ascii ascii]
  intro b mem
  obtain ⟨c, member, rfl⟩ := List.mem_map.mp mem
  rcases blank c member with rfl | rfl | rfl | rfl <;> rfl

/-- A text from outside that a step reads up to blank space at its end is decoded to what the
step gives. -/
theorem runText_of_reads_blank {α : Type} {x : Scan α} {text : String} {bytes trail : List UInt8}
    {a : α} (reads : Reads x ⟨text.toUTF8, true⟩ bytes a)
    (whole : Text.utf8 text.toList = bytes ++ trail) (blank : ∀ b ∈ trail, isBlank b = true) :
    runText x text = .ok a := by
  have start : ScanSource.rest ⟨text.toUTF8, true⟩ 0 = bytes ++ trail := by
    simp [ScanSource.rest, Text.toByteArray_data, whole]
  have after : ScanSource.rest ⟨text.toUTF8, true⟩ (0 + bytes.length) = trail ++ [] := by
    rw [rest_append start, List.append_nil]
  have ended : runAt expectEnd ⟨text.toUTF8, true⟩ (0 + bytes.length) =
      (.ok (), 0 + bytes.length + trail.length) := by
    rw [expectEnd, runAt_bind_ok (skipBlank_over after blank (fun _ none => by cases none))]
    rfl
  have read : runAt (x <* expectEnd) ⟨text.toUTF8, true⟩ 0 =
      (.ok a, 0 + bytes.length + trail.length) := by
    rw [seqLeft_eq_bind, runAt_bind_ok (reads 0 trail start), runAt_bind_ok ended]
    rfl
  simp only [runText, runAt] at read ⊢
  rw [read]

theorem runText_of_reads {α : Type} {x : Scan α} {text : String} {a : α}
    (reads : Reads x ⟨text.toUTF8, true⟩ (Text.utf8 text.toList) a) : runText x text = .ok a :=
  runText_of_reads_blank reads (List.append_nil _).symm (List.forall_mem_nil _)

theorem runText_of_fails {α : Type} {x : Scan α} {text : String}
    (fails : Fails x ⟨text.toUTF8, true⟩ 0) : ∃ e, runText x text = .error e := by
  obtain ⟨e, j, failed⟩ := fails.bind (g := fun a => expectEnd >>= fun _ => pure a)
  rw [← seqLeft_eq_bind] at failed
  simp only [runText, runAt] at failed ⊢
  rw [failed]
  exact ⟨_, rfl⟩

end Scan

end Subledger
