import Subledger.Json.Decode
import Subledger.Decimal.Parse
import Subledger.Ident.Uuid
import Subledger.Time.Instant
import Subledger.Tags

/-! # Reading the values inside stored documents

Decimals are read from strings (plain or scientific notation) or from JSON numbers, a number
that is not a 64-bit integer through the plain text of the float it stands for;
identifiers and instants from strings, whose reading failure is reported with its reason;
enumerations from their tags.
-/

namespace Subledger

namespace Wire

/-- What a decimal reader expects, in messages. -/
def decimalExpecting : String := "a Decimal type representing a fixed-point number"

/-- Reads a decimal from a string, a number, or nothing else. -/
def readDecimal : Scan Decimal :=
  Scan.settle do
    match ← Scan.skipBlank with
    | none => Scan.failPeek "EOF while parsing a value"
    | some b =>
      if b == 34 then
        Scan.bump
        let s ← Scan.readString
        match Decimal.parseStored? s with
        | some d => pure d
        | none => Scan.refuse (Scan.invalidValue (.string s) decimalExpecting)
      else if b == 45 || Scan.isDigit b then
        let n ← Scan.readNumber true
        match n with
        | .unsigned v => match Decimal.make? v 0 false with
          | some d => pure d
          | none => Scan.refuse (Scan.invalidValue (.number n) decimalExpecting)
        | .signed v => match Decimal.ofParts? v.natAbs 0 true with
          | some d => pure d
          | none => Scan.refuse (Scan.invalidValue (.number n) decimalExpecting)
        | .float text => match (Double.ofJson? text).bind (fun f => (Decimal.parse f.plain).toOption) with
          | some d => pure d
          | none => Scan.refuse (Scan.invalidValue (.number n) decimalExpecting)
      else if b == 91 then
        Scan.bump
        Scan.andThenAlways (Scan.refuse (Scan.invalidType .sequence decimalExpecting))
          Scan.closeList
      else if b == 123 then
        Scan.bump
        Scan.andThenAlways (Scan.refuse (Scan.invalidType .map decimalExpecting))
          Scan.closeObject
      else
        let found ← Scan.foundHere
        Scan.refuse (Scan.invalidType found decimalExpecting)

/-- A decimal, zero when absent. -/
def decimal : Shape := .scalar Decimal readDecimal (some Decimal.zero)

/-- An identifier, read from its text. -/
def uuid : Shape :=
  Shape.parsed Uuid "a formatted UUID string" fun s =>
    match Uuid.parse s with
    | .ok u => .ok u
    | .error e => .error s!"UUID parsing failed: {e.render}"

/-- An instant, read from RFC 3339 text. -/
def instant : Shape :=
  Shape.parsed Instant "an RFC 3339 formatted date and time string" fun s =>
    match Instant.parse s with
    | .ok t => .ok t
    | .error e => .error e.render

/-- A value of an enumeration, read from its tag. -/
def tagged (ts : TagSet α) (fallback : Option α) : Shape :=
  Shape.tag α ts.pairs fallback

end Wire

end Subledger
