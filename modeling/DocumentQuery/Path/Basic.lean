/-
DOTTED PATHS. `resolve` lists the values that a document has at a path. In an object a segment names a field; in an
array a number picks one element, and any other segment is looked up in every element that is an object.

- `oneBelow` does so for one segment, and `descend` for one after another;
- empty segments behind the first one do not count.
-/
import DocumentQuery.Decimal.Digits
import DocumentQuery.Json.Basic

namespace DocumentQuery

namespace Path

/-- parts between the separators; there is always one more than separators -/
def splitChars (sep : Char) : List Char → List (List Char)
  | [] => [[]]
  | c :: rest =>
    if c = sep then [] :: splitChars sep rest
    else match splitChars sep rest with
      | [] => [[c]]
      | part :: parts => (c :: part) :: parts

/-- segments of a path, empty ones included -/
def segments (path : String) : List String := (splitChars '.' path.toList).map String.ofList

/-- value of a segment that is a number of 64 bits; a plus sign may stand in front -/
def index? (segment : String) : Option Nat :=
  let digits := match segment.toList with
    | '+' :: rest => rest
    | cs => cs
  if digits.isEmpty ∨ !digits.all Char.isDigit then none
  else
    if decimalValue digits ≤ Number.maxNat64 then some (decimalValue digits) else none

end Path

namespace Json

/-- values one segment below a value, in order -/
def oneBelow (v : Json) (segment : String) : List Json :=
  match v with
  | .obj fields => (Document.find? fields segment).toList
  | .arr items =>
    match Path.index? segment with
    | some i => items[i]?.toList
    | none => items.filterMap fun item => item.field? segment
  | _ => []

/-- values at the segments below a value, in order -/
def descend (v : Json) : List String → List Json
  | [] => [v]
  | segment :: rest => (v.oneBelow segment).flatMap fun w => w.descend rest

end Json

namespace Document

/-- values at a path, in order -/
def resolve (d : Document) (path : String) : List Json :=
  match Path.segments path with
  | [] => []
  | head :: rest =>
    match find? d head with
    | some v => v.descend (rest.filter fun s => !s.isEmpty)
    | none => []

/-- first value at a path -/
def first? (d : Document) (path : String) : Option Json := (resolve d path).head?

end Document

end DocumentQuery
