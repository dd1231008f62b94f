import Subledger.Json.Value
import Subledger.Json.Double
import Subledger.Text.Printable

/-! # Scanning JSON text

A cursor over the bytes of a JSON text and the reading steps every decoder is built from:
blanks, literal words, strings with their escapes, numbers, and whole values. A failure
carries its message and the byte offset it points at; when the text came from outside, the
offset is shown as a line and a column (the bytes before it on its line).

Failures raised by a value's own check, such as a wrong type or an unknown name, start without
an offset; `Scan.settle` gives them the offset at which reading of that value stopped.
-/

namespace Subledger

/-- A reading failure: its message and, once known, the byte offset it points at. -/
structure ScanError where
  message : String
  offset : Option Nat
  deriving Inhabited

/-- The text being read. -/
structure ScanSource where
  bytes : ByteArray
  /-- Whether the text came from outside, so that failures carry a line and a column; a
  document already held in memory is read from its own rendering and failures carry none. -/
  located : Bool

/-- A reading step: it sees the source and moves the offset, which survives a failure. -/
abbrev Scan := ReaderT ScanSource (ExceptT ScanError (StateM Nat))

namespace ScanError

/-- The line and column of a byte offset: lines count from one, columns count the bytes
between the start of the line and the offset. -/
def lineColumn (bytes : ByteArray) (offset : Nat) : Nat × Nat :=
  let before := (bytes.extract 0 offset).toList
  let lineStart := (before.zipIdx.filter (fun p => p.1 == 10)).foldl (fun _ p => p.2 + 1) 0
  (1 + (before.filter (· == 10)).length, offset - lineStart)

/-- The failure's text, with its position when the source is located. -/
def render (src : ScanSource) (e : ScanError) : String :=
  match e.offset with
  | some offset =>
    if src.located then
      let (line, column) := lineColumn src.bytes offset
      s!"{e.message} at line {line} column {column}"
    else e.message
  | none => e.message

end ScanError

namespace Scan

/-- The byte at the offset, if any. -/
def peek : Scan (Option UInt8) := do
  let src ← read
  return src.bytes[← get]?

/-- Moves past one byte. -/
def bump : Scan Unit := modify (· + 1)

/-- Fails pointing at the current offset. -/
def fail (message : String) : Scan α := do
  throw ⟨message, some (← get)⟩

/-- Fails pointing just past the byte at the offset, but not past the end of the text. -/
def failPeek (message : String) : Scan α := do
  let src ← read
  throw ⟨message, some (min src.bytes.size ((← get) + 1))⟩

/-- Fails without an offset, leaving it to `settle`. -/
def refuse (message : String) : Scan α :=
  throw ⟨message, none⟩

/-- Gives a failure of `x` that has no offset yet the offset at which `x` stopped. -/
def settle (x : Scan α) : Scan α :=
  tryCatch x fun e => do
    match e.offset with
    | some _ => throw e
    | none => throw { e with offset := some (← get) }

/-- Runs `x` and returns its failure instead of raising it. -/
def attempt (x : Scan α) : Scan (Except ScanError α) :=
  tryCatch (Except.ok <$> x) (fun e => pure (.error e))

/-- Runs `x` and then `after` whatever `x` did; the first failure wins. -/
def andThenAlways (x : Scan α) (after : Scan Unit) : Scan α := do
  let r ← attempt x
  let a ← attempt after
  match r, a with
  | .error e, _ => throw e
  | .ok _, .error e => throw e
  | .ok v, .ok () => pure v

/-- Whether a byte is JSON blank space. -/
def isBlank (b : UInt8) : Bool := b == 32 || b == 10 || b == 9 || b == 13

/-- Whether a byte is an ASCII digit. -/
def isDigit (b : UInt8) : Bool := 48 ≤ b && b ≤ 57

/-- Skips blank space and returns the byte after it, if any. -/
def skipBlank : Scan (Option UInt8) := do
  go (← read).bytes.size
where
  /-- One byte of blank space at a time, at most `fuel` of them. -/
  go : Nat → Scan (Option UInt8)
    | 0 => peek
    | fuel + 1 => do
      match ← peek with
      | some b => if isBlank b then do bump; go fuel else pure (some b)
      | none => pure none

/-- Reads the rest of a literal word whose first byte was already read. -/
def expectWord : List Char → Scan Unit
  | [] => pure ()
  | c :: rest => do
    match ← peek with
    | none => fail "EOF while parsing a value"
    | some b =>
      bump
      if b.toNat == c.toNat then expectWord rest else fail "expected ident"

/-- Skips ASCII digits. -/
def skipDigits : Scan Unit := do
  go (← read).bytes.size
where
  /-- One digit at a time, at most `fuel` of them. -/
  go : Nat → Scan Unit
    | 0 => pure ()
    | fuel + 1 => do
      match ← peek with
      | some b => if isDigit b then do bump; go fuel else pure ()
      | none => pure ()

/-- The value of a hexadecimal digit. -/
def hexValue (b : UInt8) : Option Nat :=
  if isDigit b then some (b.toNat - 48)
  else if 97 ≤ b && b ≤ 102 then some (b.toNat - 87)
  else if 65 ≤ b && b ≤ 70 then some (b.toNat - 55)
  else none

/-- Reads the four hexadecimal digits of a `\u` escape. -/
def readHex4 : Scan Nat := do
  let src ← read
  let i ← get
  if i + 4 ≤ src.bytes.size then
    set (i + 4)
    let digits := [src.bytes.get! i, src.bytes.get! (i + 1), src.bytes.get! (i + 2),
      src.bytes.get! (i + 3)].map hexValue
    match digits with
    | [some a, some b, some c, some d] => pure (((a * 16 + b) * 16 + c) * 16 + d)
    | _ => fail "invalid escape"
  else
    set src.bytes.size
    fail "EOF while parsing a string"

/-- The UTF-8 bytes of a code point. -/
def codePointBytes (n : Nat) : ByteArray :=
  (String.singleton (Char.ofNat n)).toUTF8

/-- Reads the rest of a `\u` escape, joining a surrogate pair into one code point. When
`strict` is false the digits are only checked, not decoded. -/
def readUnicodeEscape (strict : Bool) (out : ByteArray) : Scan ByteArray := do
  let n ← readHex4
  if !strict then pure out
  else if 0xDC00 ≤ n && n ≤ 0xDFFF then fail "lone leading surrogate in hex escape"
  else if n < 0xD800 || n > 0xDBFF then pure (out ++ codePointBytes n)
  else
    match ← peek with
    | none => fail "EOF while parsing a string"
    | some b =>
      bump
      if b != 92 then fail "unexpected end of hex escape"
      else
        match ← peek with
        | none => fail "EOF while parsing a string"
        | some b =>
          bump
          if b != 117 then fail "unexpected end of hex escape"
          else
            let n2 ← readHex4
            if n2 < 0xDC00 || n2 > 0xDFFF then fail "lone leading surrogate in hex escape"
            else pure (out ++ codePointBytes ((n - 0xD800) * 1024 + (n2 - 0xDC00) + 0x10000))

/-- Reads the character after a backslash. -/
def readEscape (strict : Bool) (out : ByteArray) : Scan ByteArray := do
  match ← peek with
  | none => fail "EOF while parsing a string"
  | some c =>
    bump
    match c.toNat with
    | 34 => pure (out.push 34)
    | 92 => pure (out.push 92)
    | 47 => pure (out.push 47)
    | 98 => pure (out.push 8)
    | 102 => pure (out.push 12)
    | 110 => pure (out.push 10)
    | 114 => pure (out.push 13)
    | 116 => pure (out.push 9)
    | 117 => readUnicodeEscape strict out
    | _ => fail "invalid escape"

/-- Reads a string whose opening quote was already read, up to and including the closing
quote. When `strict` is false, as when skipping a value, escapes are checked but surrogates are
not paired, and a control character is reported at its own offset rather than just past it. -/
def readStringWith (strict : Bool) : Scan String := do
  let bytes ← go (← read).bytes.size ByteArray.empty
  pure ((String.fromUTF8? bytes).getD "")
where
  /-- One byte or escape at a time, at most `fuel` of them. -/
  go : Nat → ByteArray → Scan ByteArray
    | 0, _ => fail "EOF while parsing a string"
    | fuel + 1, out => do
      match ← peek with
      | none => fail "EOF while parsing a string"
      | some b =>
        if b < 32 && !strict then fail "control character (\\u0000-\\u001F) found while parsing a string"
        bump
        if b == 34 then pure out
        else if b == 92 then do
          let out ← readEscape strict out
          go fuel out
        else if b < 32 then fail "control character (\\u0000-\\u001F) found while parsing a string"
        else go fuel (out.push b)

/-- Reads a string whose opening quote was already read. -/
def readString : Scan String := readStringWith true

/-- The digits between two offsets as a number. -/
def digitsValue (bytes : ByteArray) (start stop : Nat) : Nat :=
  (bytes.extract start stop).foldl (fun n b => if isDigit b then n * 10 + (b.toNat - 48) else n) 0

/-- Reads a number starting at the offset (a `-` or a digit). Integers become `unsigned` or
`signed` when they fit 64 bits; everything else is kept as written, after checking that the
float it stands for is not beyond the floats (`Double.readJson`). When `strict` is false the
number is only checked for its form, as when skipping a value. -/
def readNumber (strict : Bool) : Scan JsonNumber := do
  let src ← read
  let start ← get
  let negative ← do
    match ← peek with
    | some 45 => bump; pure true
    | _ => pure false
  match ← peek with
  | none => if strict then fail "EOF while parsing a value" else fail "invalid number"
  | some c =>
    bump
    if c == 48 then
      match ← peek with
      | some d => if isDigit d then failPeek "invalid number" else pure ()
      | none => pure ()
    else if isDigit c then skipDigits
    else fail "invalid number"
  let intStop ← get
  let fracStart ← do
    match ← peek with
    | some 46 =>
      bump
      let before ← get
      skipDigits
      if (← get) == before then
        match ← peek with
        | some _ => failPeek "invalid number"
        | none => if strict then failPeek "EOF while parsing a value" else failPeek "invalid number"
      pure (some before)
    | _ => pure none
  let exponent ← do
    match ← peek with
    | some 101 | some 69 =>
      bump
      match ← peek with
      | some 43 | some 45 => bump
      | _ => pure ()
      match ← peek with
      | none => if strict then fail "EOF while parsing a value" else fail "invalid number"
      | some d =>
        bump
        if !isDigit d then fail "invalid number"
        skipDigits
        pure true
    | _ => pure false
  let stop ← get
  let text := (String.fromUTF8? (src.bytes.extract start stop)).getD ""
  let whole := digitsValue src.bytes (if negative then start + 1 else start) intStop
  if fracStart.isNone && !exponent then
    if !negative && whole < Nat.pow 2 64 then return .unsigned whole
    if negative && 1 ≤ whole && whole ≤ Nat.pow 2 63 then return .signed (-(whole : Int))
  if strict then
    match Double.readJson text with
    | .outOfRange consumed =>
      set (start + consumed)
      fail "number out of range"
    | .value _ => pure ()
  pure (.float text)

/-- What a reader found where it wanted something else, in the words of its messages. -/
inductive Found where
  | unit
  | boolean (b : Bool)
  | number (n : JsonNumber)
  | string (s : String)
  | sequence
  | map

/-- A number kept as written, shown the way messages show the float it stands for. -/
def floatText (text : String) : String :=
  match Double.ofJson? text with
  | some d => d.describe
  | none => text

/-- Text in the way a debug print quotes it: quote, backslash and the usual control characters
get a backslash escape, and a character that extends a grapheme or is not printable is written
as its code point in hexadecimal. -/
def debugQuote (s : String) : String :=
  "\"" ++ String.join (s.toList.map fun c =>
    if c = '"' then "\\\""
    else if c = '\\' then "\\\\"
    else if c = '\n' then "\\n"
    else if c = '\r' then "\\r"
    else if c = '\t' then "\\t"
    else if c.toNat = 0 then "\\0"
    else if Text.isGraphemeExtend c || !Text.isPrintable c then
      "\\u\x7b" ++ String.ofList (Nat.toDigits 16 c.toNat) ++ "\x7d"
    else String.singleton c) ++ "\""

/-- The words for what was found. -/
def Found.describe : Found → String
  | .unit => "null"
  | .boolean b => s!"boolean `{b}`"
  | .number (.unsigned n) => s!"integer `{n}`"
  | .number (.signed n) => s!"integer `{n}`"
  | .number (.float text) => s!"floating point `{floatText text}`"
  | .string s => "string " ++ debugQuote s
  | .sequence => "sequence"
  | .map => "map"

/-- The message for a value of the wrong type. -/
def invalidType (found : Found) (expected : String) : String :=
  s!"invalid type: {found.describe}, expected {expected}"

/-- The message for a value of the right type that is not accepted. -/
def invalidValue (found : Found) (expected : String) : String :=
  s!"invalid value: {found.describe}, expected {expected}"

/-- Looks at the value at the offset to say what it is: literals, numbers and strings are read,
brackets are not. Anything else is not a value at all. -/
def foundHere : Scan Found := do
  match ← peek with
  | some 110 => bump; expectWord ['u', 'l', 'l']; pure .unit
  | some 116 => bump; expectWord ['r', 'u', 'e']; pure (.boolean true)
  | some 102 => bump; expectWord ['a', 'l', 's', 'e']; pure (.boolean false)
  | some 45 => .number <$> readNumber true
  | some 34 => bump; .string <$> readString
  | some 91 => pure .sequence
  | some 123 => pure .map
  | some b => if isDigit b then .number <$> readNumber true else failPeek "expected value"
  | none => failPeek "expected value"

/-- Fails because the value at the offset is not of the `expected` kind. -/
def wrongType (expected : String) : Scan α := do
  let found ← foundHere
  refuse (invalidType found expected)

/-- Skips blank space and fails at the end of the text. -/
def nextByte : Scan UInt8 := do
  match ← skipBlank with
  | some b => pure b
  | none => failPeek "EOF while parsing a value"

/-- Closes an array after its elements were read. -/
def closeList : Scan Unit := do
  match ← skipBlank with
  | some 93 => bump
  | some 44 =>
    bump
    match ← skipBlank with
    | some 93 => failPeek "trailing comma"
    | _ => failPeek "trailing characters"
  | some _ => failPeek "trailing characters"
  | none => failPeek "EOF while parsing a list"

/-- Closes an object after its fields were read. -/
def closeObject : Scan Unit := do
  match ← skipBlank with
  | some 125 => bump
  | some 44 => failPeek "trailing comma"
  | some _ => failPeek "trailing characters"
  | none => failPeek "EOF while parsing an object"

/-- Moves to the next element of an array: `true` when there is one. `first` tells whether
no element was read yet. -/
def nextElement (first : Bool) : Scan Bool := do
  let peeked ← do
    match ← skipBlank with
    | some 93 => pure none
    | some 44 =>
      if first then pure (some 44)
      else do bump; skipBlank
    | some b => if first then pure (some b) else failPeek "expected `,` or `]`"
    | none => failPeek "EOF while parsing a list"
  match peeked with
  | none => pure false
  | some 93 => failPeek "trailing comma"
  | some _ => pure true

/-- Reads the key of the next field of an object, if there is one. -/
def nextKey (first : Bool) : Scan (Option String) := do
  let peeked ← do
    match ← skipBlank with
    | some 125 => pure (some 125, true)
    | some 44 =>
      if first then pure (some 44, false)
      else do bump; pure (← skipBlank, false)
    | some b => if first then pure (some b, false) else failPeek "expected `,` or `\x7d`"
    | none => failPeek "EOF while parsing an object"
  match peeked with
  | (_, true) => pure none
  | (some 34, _) => bump; some <$> readString
  | (some 125, _) => failPeek "trailing comma"
  | (some _, _) => failPeek "key must be a string"
  | (none, _) => failPeek "EOF while parsing a value"

/-- Reads the colon between a key and its value. -/
def expectColon : Scan Unit := do
  match ← skipBlank with
  | some 58 => bump
  | some _ => failPeek "expected `:`"
  | none => failPeek "EOF while parsing an object"

/-- How deep arrays and objects may nest. -/
def depthLimit : Nat := 128

mutual

/-- Reads a whole value. `room` is how many more levels may open; `fuel` bounds the work. -/
def readValue (room : Nat) : Nat → Scan Json
  | 0 => failPeek "EOF while parsing a value"
  | fuel + 1 => do
    match ← nextByte with
    | 110 => bump; expectWord ['u', 'l', 'l']; pure .null
    | 116 => bump; expectWord ['r', 'u', 'e']; pure (.bool true)
    | 102 => bump; expectWord ['a', 'l', 's', 'e']; pure (.bool false)
    | 34 => bump; .str <$> readString
    | 91 =>
      if room ≤ 1 then failPeek "recursion limit exceeded"
      else
        bump
        let items ← readItems (room - 1) fuel true []
        closeList
        pure (.arr items)
    | 123 =>
      if room ≤ 1 then failPeek "recursion limit exceeded"
      else
        bump
        let fields ← readFields (room - 1) fuel true []
        closeObject
        pure (.obj fields)
    | b =>
      if b == 45 || isDigit b then .num <$> readNumber true
      else failPeek "expected value"

/-- Reads the elements of an array after its opening bracket. -/
def readItems (room : Nat) : Nat → Bool → List Json → Scan (List Json)
  | 0, _, acc => pure acc.reverse
  | fuel + 1, first, acc => do
    if ← nextElement first then
      let v ← readValue room fuel
      readItems room fuel false (v :: acc)
    else pure acc.reverse

/-- Reads the fields of an object after its opening brace. -/
def readFields (room : Nat) : Nat → Bool → List (String × Json) → Scan (List (String × Json))
  | 0, _, acc => pure acc.reverse
  | fuel + 1, first, acc => do
    match ← nextKey first with
    | some key =>
      expectColon
      let v ← readValue room fuel
      readFields room fuel false ((key, v) :: acc)
    | none => pure acc.reverse

end

/-- Skips a value without keeping it, checking only its form. -/
def skipValue : Scan Unit := do
  go (← read).bytes.size [] true
where
  /-- The open brackets are kept on a stack; `fuel` bounds the work. -/
  go : Nat → List UInt8 → Bool → Scan Unit
    | 0, _, _ => pure ()
    | fuel + 1, stack, valueNext => do
      if valueNext then
        let b ← nextByte
        match b with
        | 110 => bump; expectWord ['u', 'l', 'l']; afterValue fuel stack
        | 116 => bump; expectWord ['r', 'u', 'e']; afterValue fuel stack
        | 102 => bump; expectWord ['a', 'l', 's', 'e']; afterValue fuel stack
        | 34 => bump; let _ ← readStringWith false; afterValue fuel stack
        | 91 => bump; opened fuel (91 :: stack)
        | 123 => bump; opened fuel (123 :: stack)
        | _ =>
          if b == 45 || isDigit b then do
            let _ ← readNumber false
            afterValue fuel stack
          else failPeek "expected value"
      else afterValue fuel stack
  /-- After an opening bracket: an immediate close, or the first element or key. -/
  opened (fuel : Nat) (stack : List UInt8) : Scan Unit := do
    match stack, ← skipBlank with
    | 91 :: rest, some 93 => bump; afterValue fuel rest
    | 123 :: rest, some 125 => bump; afterValue fuel rest
    | 123 :: _, some _ => objectKey fuel stack
    | 123 :: _, none => failPeek "EOF while parsing an object"
    | _, _ => go fuel stack true
  /-- After a value: a comma, or the close of the innermost open bracket. -/
  afterValue (fuel : Nat) : List UInt8 → Scan Unit
    | [] => pure ()
    | top :: rest => do
      match ← skipBlank with
      | some 44 =>
        bump
        if top == 123 then objectKey fuel (top :: rest) else go fuel (top :: rest) true
      | some 93 => if top == 91 then do bump; afterValue fuel rest else failPeek "expected `,` or `\x7d`"
      | some 125 => if top == 123 then do bump; afterValue fuel rest else failPeek "expected `,` or `]`"
      | some _ => if top == 91 then failPeek "expected `,` or `]`" else failPeek "expected `,` or `\x7d`"
      | none =>
        if top == 91 then failPeek "EOF while parsing a list" else failPeek "EOF while parsing an object"
  /-- A key and its colon inside an object. -/
  objectKey (fuel : Nat) (stack : List UInt8) : Scan Unit := do
    match ← skipBlank with
    | some 34 =>
      bump
      let _ ← readStringWith false
      match ← skipBlank with
      | some 58 => bump; go fuel stack true
      | some _ => failPeek "expected `:`"
      | none => failPeek "EOF while parsing an object"
    | some _ => failPeek "key must be a string"
    | none => failPeek "EOF while parsing an object"

/-- Fails when anything but blank space follows the value read. -/
def expectEnd : Scan Unit := do
  match ← skipBlank with
  | some _ => failPeek "trailing characters"
  | none => pure ()

/-- Runs a reading step over a text from outside; the failure comes back as its message. -/
def runText (x : Scan α) (text : String) : Except String α :=
  let src : ScanSource := ⟨text.toUTF8, true⟩
  match ((x <* expectEnd).run src).run.run 0 with
  | (.ok v, _) => .ok v
  | (.error e, _) => .error (e.render src)

/-- Runs a reading step over the rendering of a document held in memory. -/
def runDocument (x : Scan α) (doc : Json) : Except String α :=
  let src : ScanSource := ⟨doc.render.toUTF8, false⟩
  match (x.run src).run.run 0 with
  | (.ok v, _) => .ok v
  | (.error e, _) => .error (e.render src)

/-- Parses a whole JSON text. -/
def parseJson (text : String) : Except String Json :=
  runText (do readValue depthLimit ((← read).bytes.size + 2)) text

end Scan

end Subledger
