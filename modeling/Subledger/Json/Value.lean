/-! # JSON values

A JSON document as a tree, and its compact text. Numbers keep the class a reader gives them:
an unsigned 64-bit integer, a negative 64-bit integer, or anything else kept as written. Text
is escaped minimally: the quote, the backslash and control characters; everything else,
non-ASCII included, is written as it is.
-/

namespace Subledger

/-- A JSON number, classified the way a reader stores it. -/
inductive JsonNumber where
  /-- An integer from `0` to `2 ^ 64 - 1`. -/
  | unsigned (n : Nat)
  /-- A negative integer down to `-2 ^ 63`. -/
  | signed (n : Int)
  /-- Any other number, kept as written. -/
  | float (text : String)
  deriving Inhabited, BEq

/-- A JSON document. Object fields keep their order. -/
inductive Json where
  | null
  | bool (b : Bool)
  | num (n : JsonNumber)
  | str (s : String)
  | arr (items : List Json)
  | obj (fields : List (String × Json))
  deriving Inhabited

namespace JsonNumber

/-- The number's text. -/
def render : JsonNumber → String
  | .unsigned n => toString n
  | .signed n => toString n
  | .float text => text

end JsonNumber

namespace Json

/-- The lowercase hexadecimal digit of a number below 16. -/
def hexDigit (n : Nat) : Char :=
  if n < 10 then Char.ofNat (48 + n) else Char.ofNat (87 + n)

/-- The escaped form of one character inside a string literal. -/
def escapeChar (c : Char) : String :=
  if c = '"' then "\\\""
  else if c = '\\' then "\\\\"
  else if c.toNat = 8 then "\\b"
  else if c.toNat = 9 then "\\t"
  else if c.toNat = 10 then "\\n"
  else if c.toNat = 12 then "\\f"
  else if c.toNat = 13 then "\\r"
  else if c.toNat < 32 then
    String.ofList ['\\', 'u', '0', '0', hexDigit (c.toNat / 16), hexDigit (c.toNat % 16)]
  else String.singleton c

/-- A string literal: the text in quotes with quotes, backslashes and control characters
escaped. -/
def quote (s : String) : String :=
  "\"" ++ String.join (s.toList.map escapeChar) ++ "\""

mutual

/-- The compact text of a document: no spaces, fields in their order. -/
def render : Json → String
  | .null => "null"
  | .bool b => if b then "true" else "false"
  | .num n => n.render
  | .str s => quote s
  | .arr items => "[" ++ renderItems items ++ "]"
  | .obj fields => "\x7b" ++ renderFields fields ++ "\x7d"

/-- The elements of an array, comma separated. -/
def renderItems : List Json → String
  | [] => ""
  | [j] => render j
  | j :: rest => render j ++ "," ++ renderItems rest

/-- The fields of an object, comma separated. -/
def renderFields : List (String × Json) → String
  | [] => ""
  | [(k, v)] => quote k ++ ":" ++ render v
  | (k, v) :: rest => quote k ++ ":" ++ render v ++ "," ++ renderFields rest

end

/-- Orders fields by key; keys compare character by character, which for UTF-8 text is the
byte order. -/
def sortFields (fields : List (String × Json)) : List (String × Json) :=
  fields.mergeSort (fun a b => decide (a.1 ≤ b.1))

mutual

/-- The same document with the fields of every object ordered by key. -/
def sorted : Json → Json
  | .arr items => .arr (sortedItems items)
  | .obj fields => .obj (sortFields (sortedFields fields))
  | j => j

/-- `sorted` on every element. -/
def sortedItems : List Json → List Json
  | [] => []
  | j :: rest => sorted j :: sortedItems rest

/-- `sorted` on every field value. -/
def sortedFields : List (String × Json) → List (String × Json)
  | [] => []
  | (k, v) :: rest => (k, sorted v) :: sortedFields rest

end

/-- The value of the last field named `key`, when the document is an object that has one. -/
def field? (j : Json) (key : String) : Option Json :=
  match j with
  | .obj fields => (fields.reverse.find? (fun f => f.1 == key)).map Prod.snd
  | _ => none

/-- The text of a string document. -/
def string? : Json → Option String
  | .str s => some s
  | _ => none

/-- The value of an unsigned integer document. -/
def nat? : Json → Option Nat
  | .num (.unsigned n) => some n
  | _ => none

/-- A decimal-valued document as a string. -/
def ofNat (n : Nat) : Json := .num (.unsigned n)

/-- An optional string: `null` when absent. -/
def ofOption (o : Option Json) : Json := o.getD .null

end Json

end Subledger
