/-! # Named values

Enumerations of the domain are written by fixed tags, in capitals (`PENDING`) or lowercase
(`reject`). A `TagSet` lists the values of an enumeration with their tags, so that reading and
writing share one table.
-/

namespace Subledger

/-- The values of an enumeration and the tag of each. -/
structure TagSet (α : Type) where
  all : List α
  tag : α → String

namespace TagSet

/-- The value with exactly this tag. -/
def find? (ts : TagSet α) (s : String) : Option α :=
  ts.all.find? (fun a => ts.tag a == s)

/-- Each tag with its value. -/
def pairs (ts : TagSet α) : List (String × α) :=
  ts.all.map fun a => (ts.tag a, a)

end TagSet

end Subledger
