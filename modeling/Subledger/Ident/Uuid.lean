/-! # Universally unique identifiers

A UUID is a 128-bit number, written as 32 lowercase hexadecimal digits in groups of
8-4-4-4-12. Reading accepts that form in any letter case, the 32 digits without hyphens, the
grouped form in braces, and the grouped form after `urn:uuid:` in any letter case. A text that
is none of these is refused with a message naming the first thing wrong: a character that is
neither a hex digit nor a hyphen, a wrong length, a wrong number of groups, or the first group
of the wrong length.
-/

namespace Subledger

/-- A 128-bit identifier. -/
structure Uuid where
  value : Nat
  value_lt : value < Nat.pow 2 128

namespace Uuid

instance : BEq Uuid := ⟨fun a b => a.value == b.value⟩

/-- The all-zero identifier, which stands for "not given". -/
def nil : Uuid := ⟨0, by decide⟩

/-- Whether this is the all-zero identifier. -/
def isNil (u : Uuid) : Bool := u.value == 0

/-- The lowercase hexadecimal digit of a number below 16. -/
def hexChar (n : Nat) : Char :=
  if n < 10 then Char.ofNat (48 + n) else Char.ofNat (87 + n)

/-- The 32 hex digits of the value, most significant first. -/
def hexDigits (u : Uuid) : List Char :=
  (List.range 32).reverse.map fun i => hexChar (u.value / Nat.pow 16 i % 16)

/-- The grouped lowercase form, 8-4-4-4-12. -/
def render (u : Uuid) : String :=
  let d := u.hexDigits
  String.ofList (d.take 8 ++ ['-'] ++ (d.drop 8).take 4 ++ ['-'] ++ (d.drop 12).take 4 ++ ['-'] ++
    (d.drop 16).take 4 ++ ['-'] ++ d.drop 20)

instance : ToString Uuid := ⟨render⟩

/-- The value of a hexadecimal digit in either case. -/
def hexValue (c : Char) : Option Nat :=
  if '0' ≤ c && c ≤ '9' then some (c.toNat - 48)
  else if 'a' ≤ c && c ≤ 'f' then some (c.toNat - 87)
  else if 'A' ≤ c && c ≤ 'F' then some (c.toNat - 55)
  else none

/-- The identifier with the given 32 hex digits. -/
def ofHexDigits (cs : List Char) : Option Uuid :=
  if cs.length = 32 then
    let digits := cs.filterMap hexValue
    if digits.length = 32 then
      let v := digits.foldl (fun acc d => acc * 16 + d) 0
      if h : v < Nat.pow 2 128 then some ⟨v, h⟩ else none
    else none
  else none

/-- The identifier written as 8-4-4-4-12 hex digits. -/
def ofGrouped (cs : List Char) : Option Uuid :=
  if cs.length = 36 && cs[8]? == some '-' && cs[13]? == some '-' && cs[18]? == some '-' &&
      cs[23]? == some '-' then
    ofHexDigits (cs.filter (· != '-'))
  else none

/-- Why a text is not an identifier. -/
inductive ParseError where
  | character (c : Char) (index : Nat)
  | simpleLength (length : Nat)
  | groupCount (count : Nat)
  | groupLength (group expected found : Nat)

/-- The message for a refused text. -/
def ParseError.render : ParseError → String
  | .character c index => s!"invalid character: found `{c}` at {index}"
  | .simpleLength length => s!"invalid length: found {length}"
  | .groupCount count => s!"invalid group count: expected 5, found {count}"
  | .groupLength group expected found =>
    s!"invalid group length in group {group}: expected {expected}, found {found}"

/-- Where each group starts in the grouped form. -/
def groupStarts : List Nat := [0, 9, 14, 19, 24]

/-- The digits each group must have. -/
def groupLengths : List Nat := [8, 4, 4, 4, 12]

/-- Finds what is wrong with a text that did not read as an identifier: the first character
that is neither a hex digit nor a hyphen (at its byte offset plus `offset`), else a wrong length
when there are no hyphens and the text is meant `simple`, else a wrong number of groups, else
the first group of the wrong length. `byteLength` is the length in bytes of the text read. -/
def locate (body : List Char) (offset : Nat) (simple : Bool) (byteLength : Nat) : ParseError :=
  -- byte offsets of the characters of the body
  let offsets := (body.foldl (fun (acc : List Nat × Nat) c => (acc.2 :: acc.1, acc.2 + c.utf8Size))
    ([], 0)).1.reverse
  let indexed := body.zip offsets
  match indexed.find? (fun p => p.1.toNat > 127 || (p.1 != '-' && (hexValue p.1).isNone)) with
  | some (c, i) => .character c (i + offset)
  | none =>
    let hyphens := (indexed.filter (fun p => p.1 == '-')).map Prod.snd
    if hyphens.isEmpty && simple then .simpleLength byteLength
    else if hyphens.length != 4 then .groupCount (hyphens.length + 1)
    else
      let bounds := hyphens.take 4
      let wrong := (List.range 4).find? fun g =>
        bounds[g]? != some (groupStarts.getD (g + 1) 0 - 1)
      match wrong with
      | some g =>
        .groupLength g (groupLengths.getD g 0) (bounds.getD g 0 - groupStarts.getD g 0)
      | none => .groupLength 4 12 (byteLength - 24)

/-- Whether the text starts with `urn:uuid:`, in any letter case. -/
def hasUrnPrefix (cs : List Char) : Bool :=
  (cs.take 9).map Char.toLower == "urn:uuid:".toList

/-- The longest text, in bytes, that can be an identifier. -/
def maxByteLength : Nat := 45

/-- Finds what is wrong with a text whose length fits none of the accepted forms: a text
longer than the longest form has the wrong length; otherwise braces or the `urn:uuid:` prefix
are set aside, and the rest is examined with offsets counted in the whole text. -/
def diagnose (text : List Char) (byteLength : Nat) : ParseError :=
  if byteLength > maxByteLength then .simpleLength byteLength
  else if text.length ≥ 2 && text.head? == some '{' && text.getLast? == some '}' then
    locate ((text.drop 1).dropLast) 1 false byteLength
  else if hasUrnPrefix text then locate (text.drop 9) 9 false byteLength
  else locate text 0 true byteLength

/-- The part of a text that is read as the plain or grouped form, chosen by its length in
bytes: all of a text of 32 or 36 bytes, the inside of braces around a text of 38, and what
follows the `urn:uuid:` prefix (any letter case) of a text of 45. Any other text has none. -/
def body? (cs : List Char) (byteLength : Nat) : Option (List Char) :=
  if byteLength = 32 || byteLength = 36 then some cs
  else if byteLength = 38 && cs.head? == some '{' && cs.getLast? == some '}' then
    some (cs.drop 1).dropLast
  else if byteLength = 45 && hasUrnPrefix cs then some (cs.drop 9)
  else none

/-- Reads an identifier in any of the accepted forms. A grouped body (of a text of 36, 38 or
45 bytes) that does not read is examined alone as a grouped form, offsets counted from the
body's start; any other text, the 32 digits that do not read included, is examined by
`diagnose`. -/
def parse (s : String) : Except ParseError Uuid :=
  let cs := s.toList
  let bytes := s.utf8ByteSize
  match body? cs bytes with
  | some body =>
    if bytes = 32 then
      match ofHexDigits body with
      | some u => .ok u
      | none => .error (diagnose cs bytes)
    else
      match ofGrouped body with
      | some u => .ok u
      | none => .error (locate body 0 false (String.ofList body).utf8ByteSize)
  | none => .error (diagnose cs bytes)

end Uuid

end Subledger
