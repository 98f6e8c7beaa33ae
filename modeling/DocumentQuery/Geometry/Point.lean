/-
POINTS of documents, as `(lng, lat)` in degrees: a pair of numbers, or an object of type `Point` around one.
-/
import DocumentQuery.Json.Basic

namespace DocumentQuery

/-- longitude and latitude -/
abbrev Point := Float × Float

namespace Point

/-- equal as numbers, both zeros alike -/
def same (p q : Point) : Bool := floatPlace p.1 == floatPlace q.1 && floatPlace p.2 == floatPlace q.2

/-- an array of two numbers -/
def ofPair? : Json → Option Point
  | .arr [x, y] => do
    let lng ← x.float?
    let lat ← y.float?
    some (lng, lat)
  | _ => none

/-- a pair, or a geometry of type `Point` -/
def ofJson? : Json → Option Point
  | .arr items => ofPair? (.arr items)
  | .obj fields =>
    if (Document.find? fields "type").bind Json.str? = some "Point" then
      (Document.find? fields "coordinates").bind ofPair?
    else none
  | _ => none

/-- an array of pairs -/
def ring? : Json → Option (List Point)
  | .arr items => items.mapM ofPair?
  | _ => none

end Point

end DocumentQuery
