import Subledger.Json.Scan

/-! # Typed decoding

A `Shape` says how a value of some type is laid out in JSON: a scalar with its own reader, an
optional value (`null` for none), a list, or a record of named fields. Reading a shape yields a
value of its type, `Shape.Denote`: records become nested pairs in field order.

Records are read from an object, in any field order, or from an array holding the fields in
order. Unknown fields are skipped; a field given twice is refused; once the object is closed,
absent fields are checked in order: a required one is reported missing, an optional one is
`none`, a defaulted one takes its shape's default.
-/

namespace Subledger

/-- What a record does when one of its fields is absent. -/
inductive Absent where
  /-- The record is refused. -/
  | required
  /-- The field is `none` when absent from an object; the array form must still have it. -/
  | optional
  /-- The field takes its shape's default, in both forms. -/
  | defaulted

mutual

/-- The layout of a JSON value of some type. -/
inductive Shape : Type 1 where
  /-- A value read by its own step, with a default when it has one. -/
  | scalar (α : Type) (reader : Scan α) (fallback : Option α)
  /-- `null`, or the inner value. -/
  | option (inner : Shape)
  /-- An array of values. -/
  | list (item : Shape)
  /-- A record with the given name (used in messages) and fields. -/
  | record (name : String) (fields : Fields)

/-- The fields of a record, in declaration order. -/
inductive Fields : Type 1 where
  | nil
  | cons (name : String) (shape : Shape) (absent : Absent) (rest : Fields)

end

mutual

/-- The type of the values a shape describes. -/
def Shape.Denote : Shape → Type
  | .scalar α _ _ => α
  | .option s => Option (Shape.Denote s)
  | .list s => List (Shape.Denote s)
  | .record _ fs => Fields.Denote fs

/-- The values of a record's fields, as nested pairs ending in `Unit`. -/
def Fields.Denote : Fields → Type
  | .nil => Unit
  | .cons _ s _ rest => Shape.Denote s × Fields.Denote rest

end

mutual

/-- The value a shape takes when absent, if it has one: `none`, the empty list, a scalar's
default, or a record whose fields all have defaults. -/
def Shape.default? : (s : Shape) → Option s.Denote
  | .scalar _ _ d => d
  | .option _ => some none
  | .list _ => some []
  | .record _ fs => Fields.defaults? fs

/-- The defaults of all fields, if each has one. -/
def Fields.defaults? : (fs : Fields) → Option fs.Denote
  | .nil => some ()
  | .cons _ s _ rest =>
    match Shape.default? s, Fields.defaults? rest with
    | some v, some vs => some (v, vs)
    | _, _ => none

end

/-- The fields read so far while reading a record from an object. -/
def Fields.Slots : Fields → Type
  | .nil => Unit
  | .cons _ s _ rest => Option s.Denote × Fields.Slots rest

/-- No field read yet. -/
def Fields.empty : (fs : Fields) → fs.Slots
  | .nil => ()
  | .cons _ _ _ rest => (none, Fields.empty rest)

/-- How many fields a record has. -/
def Fields.count : Fields → Nat
  | .nil => 0
  | .cons _ _ _ rest => Fields.count rest + 1

/-- The message for a text naming none of the `names`. -/
def unknownVariant (found : String) (names : List String) : String :=
  let quoted := names.map (fun n => "`" ++ n ++ "`")
  match quoted with
  | [] => s!"unknown variant `{found}`, there are no variants"
  | [a] => s!"unknown variant `{found}`, expected {a}"
  | [a, b] => s!"unknown variant `{found}`, expected {a} or {b}"
  | _ => s!"unknown variant `{found}`, expected one of " ++ ", ".intercalate quoted

/-- Checks the absent field `name`: its default, `none`, or a failure. -/
def absentField (name : String) (s : Shape) (absent : Absent) (inArray : Option String)
    (index : Nat) : Scan s.Denote :=
  match absent, inArray, s.default? with
  | .defaulted, _, some d => pure d
  | .optional, none, some d => pure d
  | _, some expecting, _ => Scan.refuse s!"invalid length {index}, expected {expecting}"
  | _, none, _ => Scan.refuse s!"missing field `{name}`"

/-- Reads the fields of an object after its opening brace, then checks the absent ones. -/
def readObject (fill : σ → String → Scan (Option σ)) (finish : σ → Scan α) (start : σ) :
    Scan α := do
  let slots ← go (← readThe ScanSource).bytes.size true start
  finish slots
where
  /-- One field at a time, at most `fuel` of them. -/
  go : Nat → Bool → σ → Scan σ
    | 0, _, slots => pure slots
    | fuel + 1, first, slots => do
      match ← Scan.nextKey first with
      | none => pure slots
      | some key =>
        match ← fill slots key with
        | some slots' => go fuel false slots'
        | none =>
          Scan.expectColon
          Scan.skipValue
          go fuel false slots

/-- Counts the elements left in an array, skipping them. -/
def countRest : Scan Nat := do
  go (← readThe ScanSource).bytes.size 0
where
  /-- One element at a time, at most `fuel` of them. -/
  go : Nat → Nat → Scan Nat
    | 0, n => pure n
    | fuel + 1, n => do
      if ← Scan.nextElement false then
        Scan.skipValue
        go fuel (n + 1)
      else pure n

/-- Reads an array of values read by `item`. -/
def readList (item : Scan α) : Scan (List α) :=
  Scan.settle do
    match ← Scan.skipBlank with
    | none => Scan.failPeek "EOF while parsing a value"
    | some 91 =>
      Scan.bump
      Scan.andThenAlways (go (← readThe ScanSource).bytes.size true []) Scan.closeList
    | some _ => Scan.wrongType "a sequence"
where
  /-- One element at a time, at most `fuel` of them. -/
  go : Nat → Bool → List α → Scan (List α)
    | 0, _, acc => pure acc.reverse
    | fuel + 1, first, acc => do
      if ← Scan.nextElement first then
        let v ← item
        go fuel false (v :: acc)
      else pure acc.reverse

/-- Reads `null` as none, anything else with `inner`. -/
def readOption (inner : Scan α) : Scan (Option α) := do
  match ← Scan.skipBlank with
  | some 110 =>
    Scan.bump
    Scan.expectWord ['u', 'l', 'l']
    pure none
  | _ => some <$> inner

/-- The values of all fields once the object is closed, checking absent ones in order. -/
def Fields.finish : (fs : Fields) → fs.Slots → Scan fs.Denote
  | .nil, _ => pure ()
  | .cons n s absent rest, (slot, slots) => do
    let v ← match slot with
      | some v => pure v
      | none => absentField n s absent none 0
    let vs ← Fields.finish rest slots
    pure (v, vs)

mutual

/-- Reads a value of the shape. -/
def Shape.read : (s : Shape) → Scan s.Denote
  | .scalar _ r _ => r
  | .option s => readOption (Shape.read s)
  | .list s => readList (Shape.read s)
  | .record name fs =>
    Scan.settle do
      match ← Scan.skipBlank with
      | none => Scan.failPeek "EOF while parsing a value"
      | some 123 =>
        Scan.bump
        Scan.andThenAlways
          (readObject (Fields.fill fs) (Fields.finish fs) (Fields.empty fs)) Scan.closeObject
      | some 91 =>
        Scan.bump
        let expecting := s!"struct {name} with {Fields.count fs} elements"
        Scan.andThenAlways (do
          let v ← Fields.readArray fs expecting 0
          if !(← readThe ScanSource).located then
            if ← Scan.nextElement (Fields.count fs == 0) then
              Scan.skipValue
              let more ← countRest
              Scan.refuse
                s!"invalid length {Fields.count fs + more + 1}, expected fewer elements in array"
          pure v) Scan.closeList
      | some _ => Scan.wrongType s!"struct {name}"

/-- Reads the value of the field named `key` into its slot; `none` when no field has that
name. A field already read is refused. -/
def Fields.fill : (fs : Fields) → fs.Slots → String → Scan (Option fs.Slots)
  | .nil, _, _ => pure none
  | .cons n s _ rest, (slot, slots), key =>
    if key = n then
      match slot with
      | some _ => Scan.refuse s!"duplicate field `{n}`"
      | none => do
        Scan.expectColon
        let v ← Shape.read s
        pure (some (some v, slots))
    else do
      match ← Fields.fill rest slots key with
      | some slots' => pure (some (slot, slots'))
      | none => pure none

/-- Reads the fields in order from the elements of an array; `index` counts those read. -/
def Fields.readArray : (fs : Fields) → String → Nat → Scan fs.Denote
  | .nil, _, _ => pure ()
  | .cons n s absent rest, expecting, index => do
    let v ← if ← Scan.nextElement (index == 0) then Shape.read s
      else absentField n s absent (some expecting) index
    let vs ← Fields.readArray rest expecting (index + 1)
    pure (v, vs)

end

namespace Shape

/-- Reads a string, refusing other values as not being `expecting`. -/
def readText (expecting : String) : Scan String :=
  Scan.settle do
    match ← Scan.skipBlank with
    | none => Scan.failPeek "EOF while parsing a value"
    | some 34 => Scan.bump; Scan.readString
    | some _ => Scan.wrongType expecting

/-- A string. -/
def text : Shape := .scalar String (readText "a string") (some "")

/-- A string turned into a value by `parse`, whose failure message is reported as it is. -/
def parsed (α : Type) (expecting : String) (parse : String → Except String α) : Shape :=
  .scalar α (Scan.settle do
    let s ← readText expecting
    match parse s with
    | .ok v => pure v
    | .error m => Scan.refuse m) none

/-- An unsigned 64-bit integer. -/
def count : Shape :=
  .scalar Nat (Scan.settle do
    match ← Scan.skipBlank with
    | none => Scan.failPeek "EOF while parsing a value"
    | some b =>
      if b == 45 || Scan.isDigit b then
        let n ← Scan.readNumber true
        match n with
        | .unsigned v => pure v
        | .signed _ => Scan.refuse (Scan.invalidValue (.number n) "u64")
        | .float _ => Scan.refuse (Scan.invalidType (.number n) "u64")
      else Scan.wrongType "u64") (some 0)

/-- Looks up a name among the variants. -/
def variantOf (tags : List (String × α)) (name : String) : Scan α :=
  match tags.find? (fun t => t.1 == name) with
  | some t => pure t.2
  | none => Scan.refuse (unknownVariant name (tags.map Prod.fst))

/-- Reads a variant with no content: its name as a string, or an object with the name as its
only key and `null` as its value. -/
def readVariant (tags : List (String × α)) : Scan α := do
  let located := (← readThe ScanSource).located
  match ← Scan.skipBlank with
  | none => Scan.failPeek "EOF while parsing a value"
  | some 34 => Scan.settle do
    Scan.bump
    variantOf tags (← Scan.readString)
  | some 123 =>
    if located then
      Scan.bump
      let v ← Scan.settle do
        match ← Scan.skipBlank with
        | some 34 =>
          Scan.bump
          variantOf tags (← Scan.readString)
        | none => Scan.failPeek "EOF while parsing a value"
        | some _ => Scan.wrongType "variant identifier"
      Scan.expectColon
      Scan.settle do
        match ← Scan.skipBlank with
        | some 110 =>
          Scan.bump
          Scan.expectWord ['u', 'l', 'l']
        | none => Scan.failPeek "EOF while parsing a value"
        | some _ => Scan.wrongType "unit"
      match ← Scan.skipBlank with
      | some 125 => Scan.bump; pure v
      | some _ => Scan.fail "expected value"
      | none => Scan.fail "EOF while parsing an object"
    else
      let doc ← Scan.readValue Scan.depthLimit ((← readThe ScanSource).bytes.size + 2)
      match doc with
      | .obj [(name, value)] =>
        let v ← variantOf tags name
        match value with
        | .null => pure v
        | .bool b => Scan.refuse (Scan.invalidType (.boolean b) "unit")
        | .num n => Scan.refuse (Scan.invalidType (.number n) "unit")
        | .str s => Scan.refuse (Scan.invalidType (.string s) "unit")
        | .arr _ => Scan.refuse (Scan.invalidType .sequence "unit")
        | .obj _ => Scan.refuse (Scan.invalidType .map "unit")
      | _ => Scan.refuse (Scan.invalidValue .map "map with a single key")
  | some _ =>
    if located then Scan.failPeek "expected value"
    else Scan.wrongType "string or map"

/-- A value named by one of the tags. -/
def tag (α : Type) (tags : List (String × α)) (fallback : Option α) : Shape :=
  .scalar α (readVariant tags) fallback

/-- Decodes a JSON text of this shape; failures carry their line and column. -/
def decodeText (s : Shape) (text : String) : Except String s.Denote :=
  Scan.runText s.read text

/-- Decodes a document held in memory; failures carry no position, and the document's
objects are read with their keys in order. -/
def decodeDocument (s : Shape) (doc : Json) : Except String s.Denote :=
  Scan.runDocument s.read doc.sorted

end Shape

end Subledger
