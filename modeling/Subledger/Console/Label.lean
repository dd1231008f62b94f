import Subledger.Json.Value
import Subledger.Ident.Uuid

/-! # Labels for generated identifiers

Identifiers the ledger generates are fresh on every run, so answers replace them by labels.
An answer is scanned for lowercase grouped UUIDs; one that is known from the request stays,
any other becomes `#1`, `#2`, … in order of first appearance, the same identifier always
getting the same label. An identifier is known when a scan of the request text finds it in
any letter case, or when a string value of the request reads as it. Both scans take each
UUID at the first position where one starts and go on after its end.
-/

namespace Subledger

namespace Label

/-- Whether a character is a hexadecimal digit; `lower` admits only lowercase letters. -/
def isHex (lower : Bool) (c : Char) : Bool :=
  c.isDigit || ('a' ≤ c && c ≤ 'f') || (!lower && 'A' ≤ c && c ≤ 'F')

/-- Where the hyphens of a grouped UUID stand. -/
def hyphenAt (i : Nat) : Bool := i == 8 || i == 13 || i == 18 || i == 23

/-- Whether the 36 characters form a grouped UUID. -/
def isGrouped (lower : Bool) (cs : List Char) : Bool :=
  cs.length == 36 &&
    (cs.zipIdx.all fun p => if hyphenAt p.2 then p.1 == '-' else isHex lower p.1)

/-- The lowercase form of a text. -/
def lowerText (cs : List Char) : String :=
  String.ofList (cs.map fun c => if 'A' ≤ c && c ≤ 'Z' then Char.ofNat (c.toNat + 32) else c)

/-- The grouped UUIDs of a text, in any case, lowercased: each found at the first position
where one starts, the search going on after its end. -/
def mentioned (text : String) : List String :=
  let cs := text.toList
  go cs cs.length
where
  /-- Looks at the positions from the start of `cs` on. -/
  go (cs : List Char) : Nat → List String
    | 0 => []
    | fuel + 1 =>
      match cs with
      | [] => []
      | _ :: rest =>
        let window := cs.take 36
        if isGrouped false window then lowerText window :: go (cs.drop 36) fuel
        else go rest fuel

mutual

/-- The string values of a document, at any depth; keys are not values. -/
def strings : Json → List String
  | .str s => [s]
  | .arr items => stringsOfItems items
  | .obj fields => stringsOfFields fields
  | _ => []

/-- The string values of a list of documents. -/
def stringsOfItems : List Json → List String
  | [] => []
  | j :: rest => strings j ++ stringsOfItems rest

/-- The string values of the fields of an object. -/
def stringsOfFields : List (String × Json) → List String
  | [] => []
  | (_, v) :: rest => strings v ++ stringsOfFields rest

end

/-- The identifiers known from a request: its text and its parsed document. -/
def known (text : String) (request : Option Json) : List String :=
  let fromStrings := match request with
    | some doc => (strings doc).filterMap fun s =>
      match Uuid.parse s with
      | .ok u => some u.render
      | .error _ => none
    | none => []
  mentioned text ++ fromStrings

/-- Replaces every unknown lowercase grouped UUID of an answer by its label. -/
def relabel (known : List String) (answer : String) : String :=
  let cs := answer.toList
  String.ofList (go known cs cs.length [] [])
where
  /-- Walks the answer, remembering the labels given so far. -/
  go (known : List String) (cs : List Char) : Nat → List String → List Char → List Char
    | 0, _, acc => acc.reverse ++ cs
    | fuel + 1, labels, acc =>
      match cs with
      | [] => acc.reverse
      | c :: rest =>
        let window := cs.take 36
        if isGrouped true window then
          let id := String.ofList window
          if known.contains id then go known (cs.drop 36) fuel labels (window.reverse ++ acc)
          else
            let (labels, n) := match labels.idxOf? id with
              | some i => (labels, i + 1)
              | none => (labels ++ [id], labels.length + 1)
            go known (cs.drop 36) fuel labels (("#" ++ toString n).toList.reverse ++ acc)
        else go known rest fuel labels (c :: acc)

end Label

end Subledger
