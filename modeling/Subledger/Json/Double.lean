/-! # Sixty-four-bit binary floats

A JSON number with a fraction, an exponent or a long integer part stands for a binary float
with a 53-bit significand, rounded exactly in naturals, to nearest with ties to even. The
reader keeps the leading digits that fit 64 bits, turns them into a float and scales that by
the nearest float to a power of ten, each step rounded (`Double.fromParts`), as the reader does.
A float prints with the fewest digits that read back as itself, the nearest such when several
qualify.
-/

namespace Subledger

/-- A 64-bit binary float: `± significand * 2 ^ exponent`, the significand below `2 ^ 53` and
at least `2 ^ 52` unless the exponent is the smallest, `-1074`; or an infinity. A zero keeps its
sign. -/
inductive Double where
  | finite (negative : Bool) (significand : Nat) (exponent : Int)
  | infinite (negative : Bool)

namespace Double

/-- The number of decimal digits of `n` (one for zero). -/
def digitCount (n : Nat) : Nat := (toString n).length

/-- Compares `a * 2 ^ s` with `b * 10 ^ t` exactly, both sides brought to whole numbers. -/
def compareScaled (a : Nat) (s : Int) (b : Nat) (t : Int) : Ordering :=
  compare (a * Nat.pow 2 s.toNat * Nat.pow 10 (-t).toNat)
    (b * Nat.pow 10 t.toNat * Nat.pow 2 (-s).toNat)

/-- The quotient of `a * 2 ^ s` by `10 ^ t` as a whole-number division: quotient, remainder and
divisor. -/
def divScaled (a : Nat) (s t : Int) : Nat × Nat × Nat :=
  let num := a * Nat.pow 2 s.toNat * Nat.pow 10 (-t).toNat
  let den := Nat.pow 10 t.toNat * Nat.pow 2 (-s).toNat
  (num / den, num % den, den)

/-- `q` or `q + 1`, whichever is nearer to `q + r / d`, ties to the even one. -/
def roundEven (q r d : Nat) : Nat :=
  if 2 * r > d ∨ (2 * r = d ∧ q % 2 = 1) then q + 1 else q

/-- The nearest float to `± num / den * 2 ^ shift`, ties to an even significand; a zero `den`
is read as one. The binary order `⌊log2 (num / den)⌋` is the difference of the two orders or
one less, decided by one comparison. -/
def roundRatio (negative : Bool) (num den : Nat) (shift : Int) : Double :=
  let den := max den 1
  if num = 0 then .finite negative 0 0
  else
    let guess : Int := (Nat.log2 num : Int) - (Nat.log2 den : Int)
    let top : Int :=
      if num * Nat.pow 2 (-guess).toNat ≥ den * Nat.pow 2 guess.toNat then guess else guess - 1
    let e := max (top + shift - 52) (-1074)
    let k := shift - e
    let n := num * Nat.pow 2 k.toNat
    let d := den * Nat.pow 2 (-k).toNat
    let m := roundEven (n / d) (n % d) d
    let (m, e) := if m = Nat.pow 2 53 then (Nat.pow 2 52, e + 1) else (m, e)
    if m = 0 then .finite negative 0 0
    else if e > 971 then .infinite negative
    else .finite negative m e

/-- The nearest float to `± sig * 10 ^ exp`, ties to an even significand. -/
def ofDecimal (negative : Bool) (sig : Nat) (exp : Int) : Double :=
  if sig = 0 then .finite negative 0 0
  else
    let order := (digitCount sig : Int) + exp
    if order > 310 then .infinite negative
    else if order < -324 then .finite negative 0 0
    else roundRatio negative (sig * Nat.pow 10 exp.toNat) (Nat.pow 10 (-exp).toNat) 0

/-- Whether the float is negative, zero included. -/
def negative : Double → Bool
  | .finite s .. | .infinite s => s

/-- The float with the other sign. -/
def neg : Double → Double
  | .finite s m e => .finite (!s) m e
  | .infinite s => .infinite (!s)

/-- Whether the float is infinite. -/
def isInfinite : Double → Bool
  | .infinite _ => true
  | .finite .. => false

/-- Whether the float is a zero of either sign. -/
def isZero : Double → Bool
  | .finite _ m _ => m == 0
  | .infinite _ => false

/-- The product, rounded to nearest. Infinity times anything is taken as infinite. -/
def mul : Double → Double → Double
  | .finite s1 m1 e1, .finite s2 m2 e2 => roundRatio (s1 != s2) (m1 * m2) 1 (e1 + e2)
  | a, b => .infinite (a.negative != b.negative)

/-- The quotient, rounded to nearest. A division by zero or of infinity is taken as infinite. -/
def div : Double → Double → Double
  | .finite s1 m1 e1, .finite s2 m2 e2 =>
    if m2 = 0 then .infinite (s1 != s2) else roundRatio (s1 != s2) m1 m2 (e1 - e2)
  | a, b => .infinite (a.negative != b.negative)

/-- The nearest float to `10 ^ k`, as a float literal gives it. -/
def pow10 (k : Nat) : Double := ofDecimal false 1 k

/-- The largest unsigned 64-bit integer. -/
def u64Max : Nat := 18446744073709551615

/-- The largest signed 32-bit integer. -/
def i32Max : Nat := 2147483647

/-- Integer digits as the JSON reader keeps them, into a significand and a decimal exponent:
each digit joins the significand while it stays at or below `u64Max`; from the first one that
would not, every further integer digit raises the exponent instead. -/
def takeWhole : List Nat → Nat × Int → Bool → Nat × Int
  | [], acc, _ => acc
  | d :: ds, (sig, exp), overflowed =>
    if overflowed || decide (sig * 10 + d > u64Max) then takeWhole ds (sig, exp + 1) true
    else takeWhole ds (sig * 10 + d, exp) false

/-- Fraction digits as the JSON reader keeps them: each digit joins the significand and lowers
the exponent while the significand stays at or below `u64Max`; the rest are dropped. -/
def takeFraction : List Nat → Nat × Int → Nat × Int
  | [], acc => acc
  | d :: ds, (sig, exp) =>
    if sig * 10 + d > u64Max then (sig, exp) else takeFraction ds (sig * 10 + d, exp - 1)

/-- The index of the exponent digit at which the exponent read so far passes `i32Max`, if
any; the reader stops just after that digit. -/
def exponentOverflowAt (ds : List Nat) : Option Nat :=
  go ds 0 0
where
  /-- The digits from index `i` on, with `e` the exponent before them. -/
  go : List Nat → Nat → Nat → Option Nat
    | [], _, _ => none
    | d :: rest, i, e => if e * 10 + d > i32Max then some i else go rest (i + 1) (e * 10 + d)

/-- The float `sig * 10 ^ exp` as the JSON reader computes it, `none` when it is beyond the
floats: the significand's nearest float is multiplied by the nearest float to `10 ^ exp`, or
divided by that to `10 ^ -exp`, each product rounded. Beyond `10 ^ 308` a zero stays zero and
anything else is out of range; below `10 ^ -308` the value is divided by `10 ^ 308` first,
as often as needed. A significand below `2 ^ 64` is zero after two such divisions, so a fuel
of eight divisions is never used up. -/
def fromParts (sig : Nat) (exp : Int) : Option Double :=
  go (roundRatio false sig 1 0) exp 8
where
  /-- One step of the computation, at most `fuel` divisions by `10 ^ 308` left. -/
  go (f : Double) (exp : Int) : Nat → Option Double
    | 0 => some (.finite false 0 0)
    | fuel + 1 =>
      if exp.natAbs ≤ 308 then
        if exp ≥ 0 then
          let g := mul f (pow10 exp.toNat)
          if g.isInfinite then none else some g
        else some (div f (pow10 exp.natAbs))
      else if f.isZero then some f
      else if exp ≥ 0 then none
      else go (div f (pow10 308)) (exp + 308) fuel

/-- What the JSON reader makes of a number's text. -/
inductive JsonRead where
  /-- The float the text stands for. -/
  | value (f : Double)
  /-- The magnitude is beyond the floats; reading stops after `consumed` characters. -/
  | outOfRange (consumed : Nat)

/-- Reads a JSON number's text (an optional `-`, digits, an optional fraction and an optional
exponent) the way the JSON reader does. An exponent passing `i32Max` gives a zero, or, when
the kept significand is not zero and the exponent is positive, a failure just after the
digit where it passed. -/
def readJson (text : String) : JsonRead :=
  let digit (c : Char) : Nat := c.toNat - '0'.toNat
  let (negative, cs) := match text.toList with
    | '-' :: rest => (true, rest)
    | cs => (false, cs)
  let (mantissa, rest) := cs.span (fun c => c != 'e' && c != 'E')
  let (whole, frac) := mantissa.span (· != '.')
  let (sig, exp) := takeFraction ((frac.drop 1).map digit)
    (takeWhole (whole.map digit) (0, 0) false)
  let finish (r : Option Double) : JsonRead := match r with
    | some f => .value (if negative then f.neg else f)
    | none => .outOfRange text.length
  match rest with
  | [] => finish (fromParts sig exp)
  | _ :: es =>
    let (expNegative, eds) := match es with
      | '-' :: ds => (true, ds)
      | '+' :: ds => (false, ds)
      | ds => (false, ds)
    let eds := eds.map digit
    match exponentOverflowAt eds with
    | some i =>
      if sig ≠ 0 ∧ !expNegative then .outOfRange (text.length - eds.length + i + 1)
      else .value (.finite negative 0 0)
    | none =>
      let e : Int := (eds.foldl (fun n d => n * 10 + d) 0 : Nat)
      finish (fromParts sig (if expNegative then exp - e else exp + e))

/-- The float a JSON number's text stands for, `none` when it is beyond the floats. -/
def ofJson? (text : String) : Option Double :=
  match readJson text with
  | .value f => some f
  | .outOfRange _ => none

/-- The decimal order of `x * 2 ^ s > 0`: the `p` with `10 ^ (p - 1) ≤ x * 2 ^ s < 10 ^ p`,
found from a first guess by at most `fuel` steps up or down. -/
def orderFrom (x : Nat) (s : Int) : Nat → Int → Int
  | 0, p => p
  | fuel + 1, p =>
    if compareScaled x s 1 p != .lt then orderFrom x s fuel (p + 1)
    else if compareScaled x s 1 (p - 1) == .lt then orderFrom x s fuel (p - 1)
    else p

/-- Removes trailing zeros from digits `n * 10 ^ j`, at most `fuel` of them. -/
def trimZeros : Nat → Nat × Int → Nat × Int
  | 0, r => r
  | fuel + 1, (n, j) => if n ≠ 0 ∧ n % 10 = 0 then trimZeros fuel (n / 10, j + 1) else (n, j)

/-- The fewest significant digits that read back as the float `m * 2 ^ e`, `m > 0`: digits
`n` and a power `j` standing for `n * 10 ^ j`, trailing zeros removed. For each number of
digits `k`, the candidates are the multiples of `10 ^ (p - k)` inside the rounding interval,
where `p` is the order of the value; the first `k` with a candidate wins, and of its candidates
the one nearest the value. Seventeen digits always suffice. -/
def shortest (m : Nat) (e : Int) : Nat × Int :=
  let even := m % 2 = 0
  let s := e - 2
  let value := 4 * m
  let high := 4 * m + 2
  let low := if m = Nat.pow 2 52 ∧ e > -1074 then 4 * m - 1 else 4 * m - 2
  let p := orderFrom value s 12 ((((Nat.log2 value : Int) + s) * 30103) / 100000 + 1)
  let nearest (j : Int) : Nat :=
    let (q, r, d) := divScaled value s j
    roundEven q r d
  let candidate (k : Nat) : Option (Nat × Int) :=
    let j := p - k
    let (qh, rh, _) := divScaled high s j
    let (ql, rl, _) := divScaled low s j
    let top := if rh = 0 ∧ !even then qh - 1 else qh
    let bottom := if rl = 0 ∧ even then ql else ql + 1
    if bottom ≤ top then some (max bottom (min (nearest j) top), j) else none
  let found := ((List.range 17).map (· + 1)).findSome? candidate
  let (n, j) := found.getD (nearest (p - 17), p - 17)
  trimZeros (digitCount n) (n, j)

/-- Digits `n * 10 ^ j` in positional notation, without an exponent. -/
def positional (n : Nat) (j : Int) : String :=
  let ds := (toString n).toList
  if j ≥ 0 then String.ofList (ds ++ List.replicate j.toNat '0')
  else
    let frac := (-j).toNat
    if ds.length > frac then
      String.ofList (ds.take (ds.length - frac)) ++ "." ++ String.ofList (ds.drop (ds.length - frac))
    else "0." ++ String.ofList (List.replicate (frac - ds.length) '0' ++ ds)

/-- The sign of a float, as text. -/
def signText (negative : Bool) : String := if negative then "-" else ""

/-- The float in plain positional notation with the fewest digits, as a general-purpose
display shows it: `100000000000000000000`, `0.1`, `-0`, `inf`. -/
def plain : Double → String
  | .infinite negative => signText negative ++ "inf"
  | .finite negative 0 _ => signText negative ++ "0"
  | .finite negative m e =>
    let (n, j) := shortest m e
    signText negative ++ positional n j

/-- The float as messages quote it, with the fewest digits: positional with at least one digit
after the point from `1e-4` up to below `1e16` (`3.0`, `0.001`), and otherwise one digit before
the point and a signed exponent of at least two digits (`1e+40`, `1.8446744073709552e+19`,
`1e-05`). -/
def describe : Double → String
  | .infinite negative => signText negative ++ "inf"
  | .finite negative 0 _ => signText negative ++ "0.0"
  | .finite negative m e =>
    let (n, j) := shortest m e
    let ds := (toString n).toList
    let point : Int := (ds.length : Int) - 1 + j
    if point < -4 ∨ point ≥ 16 then
      let head := String.ofList (ds.take 1)
      let tail := ds.drop 1
      let mantissa := if tail.isEmpty then head else head ++ "." ++ String.ofList tail
      let magnitude := toString point.natAbs
      let magnitude := if magnitude.length < 2 then "0" ++ magnitude else magnitude
      signText negative ++ mantissa ++ "e" ++ (if point < 0 then "-" else "+") ++ magnitude
    else
      let body := positional n j
      signText negative ++ (if body.toList.contains '.' then body else body ++ ".0")

end Double

end Subledger
