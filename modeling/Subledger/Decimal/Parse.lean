import Subledger.Decimal.Arith

/-! # Reading decimals from text

The accepted text is an optional `+` or `-`, digits with at most one `.` among them, and `_`
separators after a digit. Digits that no longer fit, after the point or past 28 places, are
not an error: the first of them rounds the rest (five and up rounds up) and everything after
it is ignored. A text with no digits at all, or a whole part that overflows, is refused, and
`ParseError` names why. Scientific notation (`1.5e3`) is read by its own function, which
moves the point by the exponent exactly or refuses.
-/

namespace Subledger

namespace Decimal

/-- Why a text is not a decimal. -/
inductive ParseError where
  /-- The text is empty. -/
  | empty
  /-- Signs, points or separators, but no digit. -/
  | noDigits
  /-- A second decimal point. -/
  | twoPoints
  /-- A separator before any digit. -/
  | leadingSeparator
  /-- A character that is no digit, sign, point or separator where it stands. -/
  | unknownCharacter
  /-- A whole part too large for the mantissa. -/
  | tooManyDigits
  /-- A whole number that rounding up carries past the mantissa. -/
  | roundingOverflow
  /-- An exponent that moves the point more than 28 places. -/
  | scaleTooLarge (exponent : Nat)
  /-- A value that scientific notation makes too large. -/
  | tooLarge
  /-- Scientific notation without a readable exponent. -/
  | malformed

/-- The message for a refused text. -/
def ParseError.render : ParseError → String
  | .empty => "Invalid decimal: empty"
  | .noDigits => "Invalid decimal: no digits found"
  | .twoPoints => "Invalid decimal: two decimal points"
  | .leadingSeparator => "Invalid decimal: must start lead with a number"
  | .unknownCharacter => "Invalid decimal: unknown character"
  | .tooManyDigits => "Invalid decimal: overflow from too many digits"
  | .roundingOverflow => "Invalid decimal: overflow from mantissa after rounding"
  | .scaleTooLarge exponent => s!"Scale exceeds the maximum precision allowed: {exponent} > 28"
  | .tooLarge => "Number exceeds maximum value that can be represented."
  | .malformed => "Failed to parse"

/-- The error for a character that cannot stand where it was met. -/
def ParseError.ofCharacter (c : Char) : ParseError :=
  if c = '.' then .twoPoints else if c = '_' then .leadingSeparator else .unknownCharacter

/-- The value of an ASCII digit. -/
def digitValue? (c : Char) : Option Nat :=
  if c.isDigit then some (c.toNat - '0'.toNat) else none

/-- The digits read so far: mantissa, digits after the point, whether the point was seen,
whether any digit was, and whether the mantissa has reached `wideFrom`. -/
structure Reading where
  mantissa : Nat
  scale : Nat
  point : Bool
  seenDigit : Bool
  wide : Bool

/-- From this mantissa on, `(2 ^ 64 - 1) / 10 - 255`, a reading is wide: once 28 places are
read, separators before the rounding digit are passed over. A narrower reading rounds on
whatever character comes next, a separator counting as zero. -/
def wideFrom : Nat := 1844674407370954906

/-- The decimal of a finished reading; a scale past 28 is refused. -/
def Reading.finish (r : Reading) (negative : Bool) : Except ParseError Decimal :=
  match ofParts? r.mantissa r.scale negative with
  | some d => .ok d
  | none => .error (.scaleTooLarge r.scale)

/-- Ends a reading by rounding on the character `c` that follows the kept digits: a separator
counts as the digit zero, and any other character that is no digit is refused. -/
def roundOn (r : Reading) (negative : Bool) (c : Char) : Except ParseError Decimal := do
  let digit ← match digitValue? c with
    | some d => pure d
    | none => if c = '_' then pure 0 else throw (ParseError.ofCharacter c)
  if digit < 5 then r.finish negative
  else if r.mantissa + 1 < mantissaLimit then
    Reading.finish { r with mantissa := r.mantissa + 1 } negative
  else if r.scale = 0 then throw .roundingOverflow
  else Reading.finish { r with mantissa := (r.mantissa + 1 + 4) / 10, scale := r.scale - 1 } negative

/-- Ends a reading that holds 28 places and has more characters `rest`: a wide reading rounds
on the first character that is no separator, or ends when there is none; a narrow one rounds
on the next character. -/
def roundAtLimit (r : Reading) (negative : Bool) (rest : List Char) : Except ParseError Decimal :=
  if r.wide then
    match rest.dropWhile (· = '_') with
    | [] => r.finish negative
    | c :: _ => roundOn r negative c
  else
    match rest with
    | [] => r.finish negative
    | c :: _ => roundOn r negative c

/-- Reads the characters after the sign. -/
def readDigits (negative : Bool) : Reading → List Char → Except ParseError Decimal
  | r, [] => if r.seenDigit then r.finish negative else throw .noDigits
  | r, c :: rest =>
    match digitValue? c with
    | some d =>
      let next := r.mantissa * 10 + d
      if next ≥ mantissaLimit then
        if r.point then roundOn r negative c else throw .tooManyDigits
      else
        let r' : Reading :=
          ⟨next, if r.point then r.scale + 1 else r.scale, r.point, true, r.wide⟩
        if r'.point && r'.scale ≥ maxScale && !rest.isEmpty then roundAtLimit r' negative rest
        else readDigits negative { r' with wide := r.wide || decide (next ≥ wideFrom) } rest
    | none =>
      if c = '.' && !r.point then readDigits negative { r with point := true } rest
      else if c = '_' && r.seenDigit then readDigits negative r rest
      else throw (ParseError.ofCharacter c)

/-- Reads a decimal in plain notation. -/
def parse (s : String) : Except ParseError Decimal :=
  let start : Reading := ⟨0, 0, false, false, false⟩
  match s.toList with
  | [] => throw .empty
  | '-' :: rest => readDigits true start rest
  | '+' :: rest => readDigits false start rest
  | cs => readDigits false start cs

/-- The largest exponent accepted, `2 ^ 32 - 1`. -/
def maxExponent : Nat := 4294967295

/-- A natural number written in ASCII digits, with an optional leading `+`, of at most
`maxExponent`. -/
def parseExponent? (cs : List Char) : Option Nat :=
  let cs := match cs with
    | '+' :: rest => rest
    | cs => cs
  if cs.isEmpty || !cs.all Char.isDigit then none
  else
    let n := cs.foldl (fun n c => n * 10 + (c.toNat - '0'.toNat)) 0
    if n > maxExponent then none else some n

/-- The exponent of scientific notation, or the error for one that does not read. -/
def readExponent (cs : List Char) : Except ParseError Nat :=
  match parseExponent? cs with
  | some n => .ok n
  | none => .error .malformed

/-- Reads scientific notation: a plain decimal, `e` or `E`, and an exponent with an optional
sign. An exponent above 28 is refused whichever its sign. A negative exponent moves the point
left; the digits that would then stand past the 28th place are rounded away, ties away from
zero, and the sign stays even on a zero. A positive exponent at or below the scale moves the
point right; a larger one makes the value a whole number, exactly, and one past the mantissa
is refused. -/
def parseScientific (s : String) : Except ParseError Decimal := do
  let (base, exp) ← match s.toList.span (fun c => c != 'e' && c != 'E') with
    | (base, _ :: exp) => pure (String.ofList base, exp)
    | (_, []) => throw .malformed
  let d ← parse base
  let built (m scale : Nat) (negative : Bool) : Except ParseError Decimal :=
    match make? m scale negative with
    | some d => .ok d
    | none => .error .tooLarge
  match exp with
  | '-' :: rest =>
    let e ← readExponent rest
    if e > maxScale then throw (.scaleTooLarge e)
    else if d.scale + e ≤ maxScale then built d.mantissa (d.scale + e) d.negative
    else built (roundHalfAway d.mantissa (d.scale + e - maxScale)) maxScale d.negative
  | _ =>
    let e ← readExponent exp
    if e ≤ d.scale then built d.mantissa (d.scale - e) d.negative
    else if e > maxScale then throw (.scaleTooLarge e)
    else built (d.mantissa * Nat.pow 10 (e - d.scale)) 0 d.negative

/-- Reads a decimal as the console does: scientific notation when the text has an `e` or
`E`, plain notation otherwise. -/
def parseAny (s : String) : Except ParseError Decimal :=
  if s.any (fun c => c == 'e' || c == 'E') then parseScientific s else parse s

/-- Reads a decimal as stored documents hold it: plain notation, else scientific notation. -/
def parseStored? (s : String) : Option Decimal :=
  match parse s with
  | .ok d => some d
  | .error _ => (parseScientific s).toOption

end Decimal

end Subledger
