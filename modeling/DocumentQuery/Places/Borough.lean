/-
BOROUGHS: names with areas.
-/
import DocumentQuery.Places.Shape
import DocumentQuery.Resource.Basic

namespace DocumentQuery

structure Borough where
  geometry : Shape
  name : String

namespace Borough

def declared : List (List String) := [["geometry"], ["name"]]

def ofFields? : List (Option Json) → Option Borough
  | [geometry, name] => do
    let geometry ← Payload.required Shape.ofJson? geometry
    let name ← Payload.required Json.str? name
    some ⟨geometry, name⟩
  | _ => none

def ofJson? (v : Json) : Option Borough := (Payload.record? declared v).bind ofFields?

def toDocument (b : Borough) : Document := [("geometry", b.geometry.toJson), ("name", .str b.name)]

end Borough

/-- boroughs, found by name -/
def boroughs : Resource :=
  { collection := "boroughs", name := "Borough", keyField := "name", geometryField := some "geometry" }

end DocumentQuery
