/-
SHAPES of places: a geometry with its kind, its coordinates as they came, and perhaps a centre.
-/
import DocumentQuery.Geometry.Point
import DocumentQuery.Payload.Record

namespace DocumentQuery

/-- a geometry as it is stored -/
structure Shape where
  kind : String
  coordinates : Json
  centroid : Option Point := none

namespace Shape

/-- a point as a pair of numbers -/
def pair (p : Point) : Json := .arr [.float p.1, .float p.2]

/-- a polygon with rings of corners, the outer one first -/
def polygon (rings : List (List Point)) : Shape :=
  { kind := "Polygon", coordinates := .arr (rings.map fun ring => .arr (ring.map pair)) }

def declared : List (List String) := [["type"], ["coordinates"], ["centroid"]]

def ofFields? : List (Option Json) → Option Shape
  | [kind, coordinates, centroid] => do
    let kind ← Payload.required Json.str? kind
    let coordinates ← coordinates
    let centroid ← Payload.optional Point.ofPair? centroid
    some ⟨kind, coordinates, centroid⟩
  | _ => none

def ofJson? (v : Json) : Option Shape := (Payload.record? declared v).bind ofFields?

def toJson (s : Shape) : Json :=
  .obj ((match s.centroid with
    | some p => [("centroid", pair p)]
    | none => []) ++ [("coordinates", s.coordinates), ("type", .str s.kind)])

end Shape

end DocumentQuery
