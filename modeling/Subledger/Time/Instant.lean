import Subledger.Text.Blank

/-! # Instants in UTC

An instant is a day number (days since 1970-01-01 in the proleptic Gregorian calendar), a
second of that day and a count of nanoseconds. A leap second is the 59th second of a minute
with a nanosecond count of a whole second or more; it prints as second 60.

Instants print in RFC 3339 form with a `Z` and as few fraction digits as the value needs
(none, 3, 6 or 9). Reading accepts a relaxed RFC 3339 form: blank space before numbers, a `T`,
`t` or space between date and time, an optional fraction of any length (the first nine digits
count), and `Z`, `UTC` or a numeric offset, which is folded into the UTC instant.
-/

namespace Subledger

/-- Days from 1970-01-01 to the given civil date. Years are counted in eras of 400 years
(146097 days), the era found by division rounding down, so that years at or before 0 work as
the rest. -/
def daysFromCivil (year : Int) (month day : Nat) : Int :=
  let y := if month ≤ 2 then year - 1 else year
  let era := y / 400
  let yoe := y - era * 400
  let m : Int := month
  let mp := if m > 2 then m - 3 else m + 9
  let doy := (153 * mp + 2) / 5 + day - 1
  let doe := yoe * 365 + yoe / 4 - yoe / 100 + doy
  era * 146097 + doe - 719468

/-- The civil date (year, month, day) of a day number. -/
def civilFromDays (days : Int) : Int × Nat × Nat :=
  let z := days + 719468
  let era := z / 146097
  let doe := z - era * 146097
  let yoe := (doe - doe / 1460 + doe / 36524 - doe / 146096) / 365
  let y := yoe + era * 400
  let doy := doe - (365 * yoe + yoe / 4 - yoe / 100)
  let mp := (5 * doy + 2) / 153
  let d := doy - (153 * mp + 2) / 5 + 1
  let m := if mp < 10 then mp + 3 else mp - 9
  ((if m ≤ 2 then y + 1 else y), m.toNat, d.toNat)

/-- Whether a year has a 29th of February. -/
def isLeapYear (year : Int) : Bool :=
  year % 4 == 0 && (year % 100 != 0 || year % 400 == 0)

/-- The number of days in a month of a year. -/
def daysInMonth (year : Int) (month : Nat) : Nat :=
  match month with
  | 2 => if isLeapYear year then 29 else 28
  | 4 | 6 | 9 | 11 => 30
  | _ => 31

/-- The earliest and latest years a date may have. -/
def minYear : Int := -262143

/-- The latest year a date may have. -/
def maxYear : Int := 262142

/-- A moment in UTC. -/
structure Instant where
  /-- Days since 1970-01-01. -/
  days : Int
  /-- Seconds since the start of the day, below 86400. -/
  seconds : Nat
  /-- Nanoseconds; a whole second or more only during a leap second. -/
  nanos : Nat
  deriving BEq, Inhabited

namespace Instant

/-- Orders instants by day, then second, then nanosecond. -/
def compareTime (a b : Instant) : Ordering :=
  (compare a.days b.days).then ((compare a.seconds b.seconds).then (compare a.nanos b.nanos))

/-- Whether `a` comes strictly before `b`. -/
def before (a b : Instant) : Bool := compareTime a b == .lt

/-- Two digits. -/
def twoDigits (n : Nat) : String :=
  if n < 10 then "0" ++ toString n else toString n

/-- The digits of `n` padded with zeros on the left to `width`. -/
def padded (n width : Nat) : String :=
  let s := toString n
  String.ofList (List.replicate (width - s.length) '0') ++ s

/-- The year in four digits, or with a sign and at least four digits outside 0 to 9999. -/
def yearText (year : Int) : String :=
  if 0 ≤ year && year ≤ 9999 then padded year.toNat 4
  else if year < 0 then "-" ++ padded year.natAbs 4
  else "+" ++ padded year.toNat 4

/-- The fraction of a second: none when whole, else 3, 6 or 9 digits. -/
def fractionText (nanos : Nat) : String :=
  let n := nanos % 1000000000
  if n = 0 then ""
  else if n % 1000000 = 0 then "." ++ padded (n / 1000000) 3
  else if n % 1000 = 0 then "." ++ padded (n / 1000) 6
  else "." ++ padded n 9

/-- The RFC 3339 form in UTC. -/
def render (t : Instant) : String :=
  let (year, month, day) := civilFromDays t.days
  let second := t.seconds % 60 + t.nanos / 1000000000
  s!"{yearText year}-{twoDigits month}-{twoDigits day}T{twoDigits (t.seconds / 3600)}:" ++
    s!"{twoDigits (t.seconds / 60 % 60)}:{twoDigits second}{fractionText t.nanos}Z"

instance : ToString Instant := ⟨render⟩

/-- The whole seconds from `b` to `a`, rounded toward zero, counting a leap second the way
the calendar library does: it is an extra second only when the interval crosses it. -/
def secondsSince (a b : Instant) : Int :=
  let daySecs := (a.days - b.days) * 86400
  let secs : Int := (a.seconds : Int) - b.seconds
  let secs :=
    if a.seconds > b.seconds && b.nanos ≥ 1000000000 then secs + 1
    else if a.seconds < b.seconds && a.nanos ≥ 1000000000 then secs - 1
    else secs
  let frac : Int := (a.nanos : Int) - b.nanos
  let total := daySecs + secs + frac / 1000000000 -- Int division rounds toward negative infinity
  let rest := frac % 1000000000
  if total < 0 && rest > 0 then total + 1 else total

/-- Whole days from `b` to `a`, rounded toward zero. -/
def daysSince (a b : Instant) : Int :=
  let s := secondsSince a b
  if s ≥ 0 then s / 86400 else -((-s) / 86400)

end Instant

/-- Why a text is not an instant. -/
inductive TimeError where
  | outOfRange
  | invalid
  | tooShort
  | tooLong
  | impossible
  deriving BEq

/-- The message for a refused text. -/
def TimeError.render : TimeError → String
  | .outOfRange => "input is out of range"
  | .invalid => "input contains invalid characters"
  | .tooShort => "premature end of input"
  | .tooLong => "trailing input"
  | .impossible => "no possible date and time matching input"

namespace TimeText

/-- A reading step over the remaining characters. -/
abbrev Step (α : Type) := List Char → Except TimeError (α × List Char)

/-- Drops leading white space. -/
def trimStart (s : List Char) : List Char := s.dropWhile Text.isBlank

/-- The largest value a 64-bit signed integer holds. -/
def i64Max : Nat := 9223372036854775807

/-- Reads from `min` to `max` ASCII digits as a number. -/
def number (min max : Nat) : Step Nat := fun s =>
  if s.isEmpty && min > 0 then .error .tooShort
  else
    let digits := (s.take max).takeWhile Char.isDigit
    if digits.length < min then .error .invalid
    else
      let v := digits.foldl (fun n c => n * 10 + (c.toNat - 48)) 0
      if v > i64Max then .error .outOfRange
      else .ok (v, s.drop digits.length)

/-- Reads one expected character. -/
def literal (c : Char) : Step Unit := fun s =>
  match s with
  | [] => .error .tooShort
  | d :: rest => if d = c then .ok ((), rest) else .error .invalid

/-- Reads a number within bounds after blank space. -/
def field (min max lo hi : Nat) : Step Nat := fun s => do
  let (v, rest) ← number min max (trimStart s)
  if lo ≤ v && v ≤ hi then pure (v, rest) else .error .outOfRange

/-- Reads the year: up to four digits, or a sign and any number of digits. -/
def year : Step Int := fun s => do
  let s := trimStart s
  let (v, rest) ← match s with
    | '-' :: t => do
      let (v, rest) ← number 1 (t.length + 1) t
      pure (-(v : Int), rest)
    | '+' :: t => do
      let (v, rest) ← number 1 (t.length + 1) t
      pure ((v : Int), rest)
    | _ => do
      let (v, rest) ← number 1 4 s
      pure ((v : Int), rest)
  if -2147483648 ≤ v && v ≤ 2147483647 then pure (v, rest) else .error .outOfRange

/-- Reads the fraction of a second after its point: the first nine digits count, later digits
are skipped. -/
def fraction : Step Nat := fun s => do
  let (v, rest) ← number 1 9 s
  let used := (s.length - rest.length)
  pure (v * Nat.pow 10 (9 - used), rest.dropWhile Char.isDigit)

/-- Whether a text has fewer than two bytes. -/
def shorterThanTwoBytes (s : List Char) : Bool :=
  match s with
  | [] => true
  | [c] => c.utf8Size < 2
  | _ => false

/-- Reads a numeric offset `±HH[:]MM` (or `Z`), giving seconds east of UTC. Where two digits
are due, fewer than two bytes are a premature end and anything else but two digits is
invalid. -/
def offset : Step Int := fun s =>
  match s with
  | 'Z' :: rest | 'z' :: rest => .ok (0, rest)
  | [] => .error .tooShort
  | c :: rest =>
    let sign : Option Int :=
      if c = '+' then some 1 else if c = '-' || c.toNat = 0x2212 then some (-1) else none
    match sign with
    | none => .error .invalid
    | some sign =>
      if shorterThanTwoBytes rest then .error .tooShort
      else
        match rest with
        | h1 :: h2 :: afterHours =>
          if !(h1.isDigit && h2.isDigit) then .error .invalid
          else
            let hours := (h1.toNat - 48) * 10 + (h2.toNat - 48)
            let afterSep := afterHours.dropWhile (fun c => c = ':' || Text.isBlank c)
            if shorterThanTwoBytes afterSep then .error .tooShort
            else
              match afterSep with
              | m1 :: m2 :: afterMinutes =>
                if m1.isDigit && m2.isDigit then
                  if m1.toNat > 53 then .error .outOfRange
                  else
                    let minutes := (m1.toNat - 48) * 10 + (m2.toNat - 48)
                    .ok (sign * ((hours * 3600 + minutes * 60 : Nat) : Int), afterMinutes)
                else .error .invalid
              | _ => .error .invalid
        | _ => .error .invalid

/-- Reads the zone after the time: `UTC` in any case, `Z`, or a numeric offset. -/
def zone : Step Int := fun s =>
  let s := trimStart s
  match s with
  | a :: b :: c :: rest =>
    if Text.asciiUpper (String.ofList [a, b, c]) == "UTC" then .ok (0, rest) else offset s
  | _ => offset s

end TimeText

namespace Instant

open TimeText in
/-- Reads an instant in relaxed RFC 3339 form and folds its offset into UTC. A date and
time that read but whose UTC instant falls outside the calendar's years is impossible. -/
def parse (text : String) : Except TimeError Instant := do
  let s := text.toList
  let (y, s) ← year s
  let ((), s) ← literal '-' (trimStart s)
  let (mo, s) ← field 1 2 1 12 s
  let ((), s) ← literal '-' (trimStart s)
  let (d, s) ← field 1 2 1 31 s
  let s ← match s with
    | c :: rest => if c = 'T' || c = 't' || c = ' ' then pure rest else .error .invalid
    | [] => .error .tooShort
  let (h, s) ← field 1 2 0 23 s
  let ((), s) ← literal ':' (trimStart s)
  let (mi, s) ← field 1 2 0 59 s
  let ((), s) ← literal ':' (trimStart s)
  let (sec, s) ← field 1 2 0 60 s
  let (nano, s) ← match s with
    | '.' :: rest => fraction rest
    | _ => pure (0, s)
  let (off, s) ← zone (trimStart s)
  if !(trimStart s).isEmpty then .error .tooLong
  if y < minYear || y > maxYear || d > daysInMonth y mo then .error .outOfRange
  if off ≤ -86400 || off ≥ 86400 then .error .outOfRange
  let (sec, nano) := if sec = 60 then (59, nano + 1000000000) else (sec, nano)
  let wall : Int := daysFromCivil y mo d * 86400 + (h * 3600 + mi * 60 + sec : Nat)
  let utc := wall - off
  let days := if utc ≥ 0 then utc / 86400 else -((-utc + 86399) / 86400)
  let secs := (utc - days * 86400).toNat
  let (yu, _, _) := civilFromDays days
  if yu < minYear || yu > maxYear then .error .impossible
  pure ⟨days, secs, nano⟩

end Instant

end Subledger
