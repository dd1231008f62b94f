import Subledger.Proofs.Json.Documents

/-! # Shapes read back

Each kind of shape reads back the compact text of the value it describes: a string through
`readText`, a parsed scalar when its parser takes the string back, a variant from its tag,
`null` as none and any other value through the inner reader, an array element by element.

A record reads back an object whose fields are some of its own, each read by its field's shape
(`Placed` lists them in declaration order), in any order: `Fields.fill` puts each field into the
slot of its name whatever came before, so two fields of different names are read in either
order (`Fills.swap`) and a permutation of the fields fills the same slots (`FillSteps.perm`).
The slots of the fields left out stay empty for `Fields.finish` to fill with their defaults.
-/

namespace Subledger

/-- The names of a record's fields, in declaration order. -/
def Fields.names : Fields → List String
  | .nil => []
  | .cons n _ _ rest => n :: rest.names

namespace Scan

variable {src : ScanSource}

theorem Reads.bind_pure {α β : Type} {x : Scan α} {g : α → Scan β} {bytes : List UInt8} {a : α}
    {c : β} (hx : Reads x src bytes a) (hg : g a = pure c) : Reads (x >>= g) src bytes c := by
  intro i more h
  rw [runAt_bind_ok (hx i more h), hg, runAt_pure]

theorem readText_reads (expecting s : String) :
    Reads (Shape.readText expecting) src (Text.utf8 (Json.render (.str s)).toList) s := by
  rw [Json.render_str_bytes]
  apply Reads.settle
  intro i more h
  rw [runAt_skipBlank_bind h rfl]
  exact Reads.bump_bind (readString_reads s) i more h

theorem parsed_reads {α : Type} {expecting s : String} {parse : String → Except String α} {v : α}
    (parsed : parse s = .ok v) :
    Reads (Shape.parsed α expecting parse).read src (Text.utf8 (Json.render (.str s)).toList) v :=
  Reads.settle (Reads.bind_pure (readText_reads expecting s) (by simp only [parsed]; rfl))

theorem readVariant_reads {α : Type} {tags : List (String × α)} {name : String} {a : α}
    (known : Shape.variantOf tags name = pure a) :
    Reads (Shape.readVariant tags) src (Text.utf8 (Json.render (.str name)).toList) a := by
  rw [Json.render_str_bytes]
  intro i more h
  rw [Shape.readVariant, runAt_bind_ok (runAt_readThe src i)]
  dsimp only
  rw [runAt_skipBlank_bind h rfl]
  exact runAt_settle (Reads.bump_bind (Reads.bind_pure (readString_reads name) known) i more h)

theorem readOption_null_over {α : Type} (inner : Scan α) {blanks : List UInt8}
    (blank : ∀ b ∈ blanks, isBlank b = true) :
    Reads (readOption inner) src (blanks ++ Text.utf8 (Json.render .null).toList) none := by
  rw [Json.render_null_bytes]
  intro i more h
  rw [List.append_assoc] at h
  rw [readOption, runAt_bind_ok (skipBlank_over h blank (fun _ first => by cases first; rfl))]
  have word := rest_succ (rest_append h)
  show runAt (bump >>= fun _ => expectWord ['u', 'l', 'l'] >>= fun _ => pure none) src
    (i + blanks.length) = _
  rw [runAt_bump_bind, runAt_bind_ok (expectWord_reads ['u', 'l', 'l'] (by simp) _ word)]
  simp only [List.length_append, List.length_cons, List.length_nil, runAt_pure]
  rfl

theorem readOption_null {α : Type} (inner : Scan α) :
    Reads (readOption inner) src (Text.utf8 (Json.render .null).toList) none :=
  @readOption_null_over src α inner [] (List.forall_mem_nil _)

theorem readOption_some {α : Type} {inner : Scan α} {b : UInt8} {tail : List UInt8} {a : α}
    (notBlank : isBlank b = false) (notNull : b ≠ 110) (reads : Reads inner src (b :: tail) a) :
    Reads (readOption inner) src (b :: tail) (some a) := by
  intro i more h
  rw [readOption, runAt_skipBlank_bind h notBlank]
  split
  · rename_i null
    exact absurd (Option.some.inj null) notNull
  · exact Reads.map reads i more h

/-- Past blank space, a value that is not `null` goes to the inner reader, failure and all. -/
theorem readOption_fails {α : Type} {inner : Scan α} {i : Nat} {blanks : List UInt8} {b : UInt8}
    {more : List UInt8} (h : src.rest i = blanks ++ b :: more)
    (blank : ∀ c ∈ blanks, isBlank c = true) (notBlank : isBlank b = false) (notNull : b ≠ 110)
    (fails : Fails inner src (i + blanks.length)) : Fails (readOption inner) src i := by
  rw [readOption]
  apply Fails.bind_ok (skipBlank_over h blank (fun c first => by cases first; exact notBlank))
  split
  · rename_i null
    exact absurd (Option.some.inj null) notNull
  · exact fails.map

theorem fails_wrongType {α : Type} (expected : String) (i : Nat) :
    Fails (wrongType expected : Scan α) src i := by
  unfold wrongType
  exact fails_bind_refuse _

theorem readList_fails {α : Type} {item : Scan α} {i : Nat} {b : UInt8} {more : List UInt8}
    (h : src.rest i = b :: more) (notBlank : isBlank b = false) (notList : b ≠ 91) :
    Fails (readList item) src i := by
  rw [readList]
  apply Fails.settle
  apply Fails.bind_ok (skipBlank_at h notBlank)
  split
  · rename_i none
    cases none
  · rename_i list
    exact absurd (Option.some.inj list) notList
  · exact fails_wrongType _ i

/-- A string is not `null`: an optional value written as a string is read by the inner reader. -/
theorem readOption_str {α : Type} {inner : Scan α} {s : String} {a : α}
    (reads : Reads inner src (Text.utf8 (Json.render (.str s)).toList) a) :
    Reads (readOption inner) src (Text.utf8 (Json.render (.str s)).toList) (some a) := by
  rw [Json.render_str_bytes] at reads ⊢
  exact readOption_some rfl (by decide) reads

theorem readList_reads {α : Type} {item : Scan α} {parts : List (List UInt8)} {values : List α}
    (steps : ItemSteps src item parts values) :
    Reads (readList item) src (91 :: itemsBytes true parts ++ [93]) values := by
  intro i more h
  rw [readList_items steps
    (show src.rest i = 91 :: itemsBytes true parts ++ 93 :: more by rw [h]; simp)]
  congr 1
  simp only [List.length_cons, List.length_append, List.length_nil]
  omega

/-! ## One field into its slot

`Fields.fill` puts a field it meets into the slot of the field of that name, whichever fields
came before it; so steps on different fields commute, and reading the same fields in another
order fills the same slots. -/

/-- Reading the field `key`, whose value is `bytes`, into its empty slot, the value read by the
field's own shape up to the delimiter after it. -/
inductive Fills (src : ScanSource) :
    (fs : Fields) → fs.Slots → String → List UInt8 → fs.Slots → Prop
  | here {n : String} {s : Shape} {absent : Absent} {rest : Fields} {slots : rest.Slots}
      {bytes : List UInt8} {v : s.Denote} :
      ReadsTo s.read src bytes v →
      Fills src (.cons n s absent rest) (none, slots) n bytes (some v, slots)
  | skip {n : String} {s : Shape} {absent : Absent} {rest : Fields} {slot : Option s.Denote}
      {slots slots' : rest.Slots} {key : String} {bytes : List UInt8} :
      key ≠ n → Fills src rest slots key bytes slots' →
      Fills src (.cons n s absent rest) (slot, slots) key bytes (slot, slots')

section Fills

variable {fs : Fields} {key : String} {bytes : List UInt8}

theorem Fills.readsTo {slots slots' : fs.Slots} (fills : Fills src fs slots key bytes slots') :
    ReadsTo (Fields.fill fs slots key) src (58 :: bytes) (some slots') := by
  induction fills with
  | @here n s absent rest slots bytes v reads =>
    intro i more h delimited
    rw [Fields.fill, if_pos rfl]
    show runAt (expectColon >>= fun _ => s.read >>= fun v => pure (some (some v, slots))) src i = _
    rw [runAt_bind_ok (expectColon_at h), runAt_bind_ok (reads _ _ (rest_succ h) delimited),
      runAt_pure, List.length_cons, Nat.add_right_comm, Nat.add_assoc]
    rfl
  | @skip n s absent rest slot slots slots' key bytes other _ ih =>
    intro i more h delimited
    -- the equations of `fill` tell a read slot from an empty one
    cases slot <;> rw [Fields.fill, if_neg other, runAt_bind_ok (ih i more h delimited)] <;> rfl

theorem Fills.swap {slots slots₁ slots₂ : fs.Slots} {key' : String} {bytes' : List UInt8}
    (first : Fills src fs slots key bytes slots₁) (second : Fills src fs slots₁ key' bytes' slots₂)
    (different : key ≠ key') :
    ∃ between, Fills src fs slots key' bytes' between ∧ Fills src fs between key bytes slots₂ := by
  induction first with
  | here reads =>
    -- the slot just filled is not empty, so the second field is a later one
    cases second with
    | skip other later => exact ⟨_, .skip other later, .here reads⟩
  | skip other earlier ih =>
    cases second with
    | here reads => exact ⟨_, .here reads, .skip other earlier⟩
    | skip other' later =>
      obtain ⟨between, swapped, back⟩ := ih later different
      exact ⟨_, .skip other' swapped, .skip other back⟩

end Fills

/-- Reading the fields `pairs` one after the other into their slots. -/
inductive FillSteps (src : ScanSource) (fs : Fields) :
    fs.Slots → List (String × List UInt8) → fs.Slots → Prop
  | nil (slots : fs.Slots) : FillSteps src fs slots [] slots
  | cons {slots slots' slots'' : fs.Slots} {key : String} {bytes : List UInt8}
      {pairs : List (String × List UInt8)} :
      Fills src fs slots key bytes slots' → FillSteps src fs slots' pairs slots'' →
      FillSteps src fs slots ((key, bytes) :: pairs) slots''

section FillSteps

variable {fs : Fields} {pairs : List (String × List UInt8)}

theorem FillSteps.fieldStepsTo {slots slots' : fs.Slots} (steps : FillSteps src fs slots pairs slots') :
    FieldStepsTo src (Fields.fill fs) slots pairs slots' := by
  induction steps with
  | nil slots => exact .nil slots
  | cons fills _ ih => exact .cons fills.readsTo ih

theorem FillSteps.perm {slots slots' : fs.Slots} {pairs' : List (String × List UInt8)}
    (steps : FillSteps src fs slots pairs slots') (perm : pairs.Perm pairs')
    (distinct : (pairs.map Prod.fst).Nodup) : FillSteps src fs slots pairs' slots' := by
  induction perm generalizing slots with
  | nil => exact steps
  | cons p _ ih =>
    cases steps with
    | cons fills rest => exact .cons fills (ih rest (List.nodup_cons.mp distinct).2)
  | swap p q l =>
    -- the two first fields change places: `Fills.swap` on their steps
    have different : q.1 ≠ p.1 := by
      simp only [List.map_cons, List.nodup_cons, List.mem_cons, not_or] at distinct
      exact distinct.1.1
    cases steps with
    | cons fillsQ rest =>
      cases rest with
      | cons fillsP rest =>
        obtain ⟨between, swappedP, swappedQ⟩ := fillsQ.swap fillsP different
        exact .cons swappedP (.cons swappedQ rest)
  | trans first _ ih₁ ih₂ =>
    exact ih₂ (ih₁ steps distinct) ((first.map Prod.fst).nodup_iff.mp distinct)

variable {n : String} {s : Shape} {absent : Absent} {rest : Fields}

/-- Fields read by the later fields of a record, none named as the first, are read the same way
by the whole record, its first slot left alone. -/
theorem FillSteps.lift {start finish : rest.Slots} {slot : Option s.Denote}
    (steps : FillSteps src rest start pairs finish) (fresh : ∀ p ∈ pairs, p.1 ≠ n) :
    FillSteps src (.cons n s absent rest) (slot, start) pairs (slot, finish) := by
  induction steps with
  | nil => exact .nil _
  | cons fills _ ih =>
    exact .cons (.skip (fresh _ List.mem_cons_self) fills) (ih fun p mem => fresh p (by simp [mem]))

end FillSteps

/-- The fields `pairs` of an object are some of those of `fs` in declaration order, each read
by its field's shape up to the delimiter after it, to the value its slot holds in `slots`; the
slots of the fields left out are empty. -/
inductive Placed (src : ScanSource) : (fs : Fields) → List (String × List UInt8) → fs.Slots → Prop
  | nil : Placed src .nil [] ()
  | here {n : String} {s : Shape} {absent : Absent} {rest : Fields} {bytes : List UInt8}
      {v : s.Denote} {pairs : List (String × List UInt8)} {slots : rest.Slots} :
      ReadsTo s.read src bytes v → Placed src rest pairs slots →
      Placed src (.cons n s absent rest) ((n, bytes) :: pairs) (some v, slots)
  | skip {n : String} {s : Shape} {absent : Absent} {rest : Fields}
      {pairs : List (String × List UInt8)} {slots : rest.Slots} :
      Placed src rest pairs slots → Placed src (.cons n s absent rest) pairs (none, slots)

section Placed

variable {fs : Fields} {pairs : List (String × List UInt8)} {slots : fs.Slots}

theorem Placed.keys (placed : Placed src fs pairs slots) : ∀ p ∈ pairs, p.1 ∈ fs.names := by
  induction placed with
  | nil => simp
  | here _ _ ih =>
    intro p mem
    rcases List.mem_cons.mp mem with rfl | later
    · simp [Fields.names]
    · simp [Fields.names, ih p later]
  | skip _ ih =>
    intro p mem
    simp [Fields.names, ih p mem]

theorem Placed.nodup (placed : Placed src fs pairs slots) (distinct : fs.names.Nodup) :
    (pairs.map Prod.fst).Nodup := by
  induction placed with
  | nil => simp
  | here _ rest ih =>
    rename_i n _ _ _ _ _ _ _
    simp only [Fields.names, List.nodup_cons] at distinct
    refine List.nodup_cons.mpr ⟨fun mem => ?_, ih distinct.2⟩
    obtain ⟨p, member, same⟩ := List.mem_map.mp mem
    exact distinct.1 (by simpa only [same] using rest.keys p member)
  | skip _ ih =>
    simp only [Fields.names, List.nodup_cons] at distinct
    exact ih distinct.2

theorem Placed.fillSteps (placed : Placed src fs pairs slots) (distinct : fs.names.Nodup) :
    FillSteps src fs (Fields.empty fs) pairs slots := by
  induction placed with
  | nil => exact .nil _
  | here reads rest ih =>
    simp only [Fields.names, List.nodup_cons] at distinct
    exact .cons (.here reads) (ih distinct.2 |>.lift fun p mem same => distinct.1 (same ▸ rest.keys p mem))
  | skip rest ih =>
    simp only [Fields.names, List.nodup_cons] at distinct
    exact ih distinct.2 |>.lift fun p mem same => distinct.1 (same ▸ rest.keys p mem)

variable {n : String} {s : Shape} {absent : Absent} {o : Option s.Denote}
  {written : List (String × List UInt8)}

/-- A field that is written only when it holds a value. -/
theorem Placed.optional
    (cases : o = none ∧ written = [] ∨
      ∃ v bytes, o = some v ∧ written = [(n, bytes)] ∧ ReadsTo s.read src bytes v)
    (placed : Placed src fs pairs slots) :
    Placed src (.cons n s absent fs) (written ++ pairs) (o, slots) := by
  rcases cases with ⟨rfl, rfl⟩ | ⟨v, bytes, rfl, rfl, reads⟩
  · exact .skip placed
  · exact .here reads placed

end Placed

/-- The fields `pairs` of an object are some of those of `fs` in declaration order, each read
by its field's shape to the value its slot holds in `slots`; the slots of the fields left out
are empty. No field is named again after it. -/
inductive InOrder (src : ScanSource) : (fs : Fields) → List (String × List UInt8) → fs.Slots → Prop
  | nil : InOrder src .nil [] ()
  | here {n : String} {s : Shape} {absent : Absent} {rest : Fields} {bytes : List UInt8}
      {v : s.Denote} {pairs : List (String × List UInt8)} {slots : rest.Slots} :
      n ∉ rest.names → Reads s.read src bytes v → InOrder src rest pairs slots →
      InOrder src (.cons n s absent rest) ((n, bytes) :: pairs) (some v, slots)
  | skip {n : String} {s : Shape} {absent : Absent} {rest : Fields}
      {pairs : List (String × List UInt8)} {slots : rest.Slots} :
      n ∉ rest.names → InOrder src rest pairs slots →
      InOrder src (.cons n s absent rest) pairs (none, slots)

section InOrder

variable {fs : Fields} {pairs : List (String × List UInt8)} {slots : fs.Slots} {n : String}
  {s : Shape} {absent : Absent} {o : Option s.Denote} {written : List (String × List UInt8)}

theorem InOrder.optional (unnamed : n ∉ fs.names)
    (cases : o = none ∧ written = [] ∨
      ∃ v bytes, o = some v ∧ written = [(n, bytes)] ∧ Reads s.read src bytes v)
    (order : InOrder src fs pairs slots) :
    InOrder src (.cons n s absent fs) (written ++ pairs) (o, slots) := by
  rcases cases with ⟨rfl, rfl⟩ | ⟨v, bytes, rfl, rfl, reads⟩
  · exact .skip unnamed order
  · exact .here unnamed reads order

theorem InOrder.optional_last
    (cases : o = none ∧ written = [] ∨
      ∃ v bytes, o = some v ∧ written = [(n, bytes)] ∧ Reads s.read src bytes v) :
    InOrder src (.cons n s absent .nil) written (o, ()) := by
  have last : InOrder src (.cons n s absent .nil) (written ++ []) (o, ()) :=
    InOrder.optional (by simp [Fields.names]) cases .nil
  rwa [List.append_nil] at last

end InOrder

theorem InOrder.placed {fs : Fields} {pairs : List (String × List UInt8)} {slots : fs.Slots}
    (order : InOrder src fs pairs slots) : Placed src fs pairs slots := by
  induction order with
  | nil => exact .nil
  | here _ reads _ ih => exact .here reads.readsTo ih
  | skip _ _ ih => exact .skip ih

theorem InOrder.names_nodup {fs : Fields} {pairs : List (String × List UInt8)} {slots : fs.Slots}
    (order : InOrder src fs pairs slots) : fs.names.Nodup := by
  induction order with
  | nil => exact List.nodup_nil
  | here unnamed _ _ ih => exact List.nodup_cons.mpr ⟨unnamed, ih⟩
  | skip unnamed _ ih => exact List.nodup_cons.mpr ⟨unnamed, ih⟩


theorem render_obj_fieldsBytes (fields : List (String × Json)) :
    Text.utf8 (Json.render (.obj fields)).toList =
      123 :: fieldsBytes true (fields.map fun f => (f.1, Text.utf8 (Json.render f.2).toList)) ++
        [125] := by
  rw [Json.render_obj_bytes, fieldsBytes, if_pos rfl, List.map_map]
  rfl

/-- An object whose fields are those of `pairs` in any order is read to what `finish` makes of
their slots. -/
theorem readRecord_perm {name : String} {fs : Fields} {pairs written : List (String × List UInt8)}
    {slots : fs.Slots} {v : fs.Denote} (placed : Placed src fs pairs slots)
    (distinct : fs.names.Nodup) (perm : written.Perm pairs)
    (finished : ∀ j, runAt (Fields.finish fs slots) src j = (.ok v, j)) :
    Reads (Shape.read (.record name fs)) src (123 :: fieldsBytes true written ++ [125]) v := by
  intro i more h
  have inside : src.rest (i + 1) = fieldsBytes true written ++ 125 :: more := by
    rw [rest_succ h]
    simp
  have steps : FieldStepsTo src (Fields.fill fs) (Fields.empty fs) written slots :=
    ((placed.fillSteps distinct).perm perm.symm (placed.nodup distinct)).fieldStepsTo
  have object : runAt (readObject (Fields.fill fs) (Fields.finish fs) (Fields.empty fs)) src
      (i + 1) = (.ok v, i + 1 + (fieldsBytes true written).length) := by
    rw [readObject_fieldsTo steps inside, finished]
  rw [Shape.read]
  apply runAt_settle
  rw [runAt_skipBlank_bind h rfl]
  show runAt (bump >>= fun _ => andThenAlways
    (readObject (Fields.fill fs) (Fields.finish fs) (Fields.empty fs)) closeObject) src i = _
  rw [runAt_bump_bind, runAt_andThenAlways object (closeObject_at (rest_append inside))]
  congr 1
  simp only [List.length_cons, List.length_append, List.length_nil]
  omega

theorem readRecord_reads {name : String} {fs : Fields} {pairs : List (String × List UInt8)}
    {slots : fs.Slots} {v : fs.Denote} (order : InOrder src fs pairs slots)
    (finished : ∀ j, runAt (Fields.finish fs slots) src j = (.ok v, j)) :
    Reads (Shape.read (.record name fs)) src (123 :: fieldsBytes true pairs ++ [125]) v :=
  readRecord_perm order.placed order.names_nodup (List.Perm.refl pairs) finished

end Scan

end Subledger
