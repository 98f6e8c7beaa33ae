/-
NEIGHBORHOODS: names with areas, and with the centre of the area when it has been computed. `setCentroids` computes the
centres and stores them, `unsetCentroids` removes them.
-/
import DocumentQuery.Geometry.Centroid
import DocumentQuery.Places.Shape
import DocumentQuery.Resource.Basic

namespace DocumentQuery

structure Neighborhood where
  geometry : Shape
  name : String

namespace Neighborhood

def declared : List (List String) := [["geometry"], ["name"]]

def ofFields? : List (Option Json) → Option Neighborhood
  | [geometry, name] => do
    let geometry ← Payload.required Shape.ofJson? geometry
    let name ← Payload.required Json.str? name
    some ⟨geometry, name⟩
  | _ => none

def ofJson? (v : Json) : Option Neighborhood := (Payload.record? declared v).bind ofFields?

def toDocument (n : Neighborhood) : Document := [("geometry", n.geometry.toJson), ("name", .str n.name)]

/-- path of the stored centre -/
def centroidField : String := "geometry.centroid"

end Neighborhood

/-- neighborhoods, found by name; distinct values come with their centres -/
def neighborhoods : Resource :=
  { collection := "neighborhoods", name := "Neighborhood", keyField := "name", geometryField := some "geometry"
    distinctExtras := fun _ => [⟨"coord", Neighborhood.centroidField, .addToSet⟩] }

namespace Neighborhood

variable {σ : Type} [DocumentStore σ]

/-- centre of the coordinates of a document -/
def center? (d : Document) : Option Point := do
  let geometry ← Document.find? d "geometry"
  let coordinates ← geometry.field? "coordinates"
  centroid? coordinates

/-- stores the centre of one document, which is found again by its identifier; gives the number of changes -/
def setCentroid (d : Document) : Operation σ Nat := do
  match Document.find? d "_id", center? d with
  | some id, some center =>
    let mutation := Document.single "$set" (.obj (Document.single centroidField (Shape.pair center)))
    let outcome ← Operation.call
      (DocumentStore.updateOne neighborhoods.collection (Document.single "_id" id) mutation false)
    pure outcome.modified
  | _, _ => pure 0

/-- stores the centres of documents, in order; the first failure ends it -/
def setCentroidsOf : List Document → Operation σ Nat
  | [] => pure 0
  | d :: rest => do
    let one ← setCentroid d
    let more ← setCentroidsOf rest
    pure (one + more)

/-- stores the centre of every neighborhood that has one; gives the number of changes -/
def setCentroids : Operation σ Nat := do
  let documents ← Operation.call (DocumentStore.find neighborhoods.collection [])
  setCentroidsOf documents

/-- removes every stored centre; gives the number of changes -/
def unsetCentroids : Operation σ Nat := do
  let mutation := Document.single "$unset" (.obj (Document.single centroidField (.str "")))
  let outcome ← Operation.call (DocumentStore.updateMany neighborhoods.collection [] mutation false)
  pure outcome.modified

end Neighborhood

end DocumentQuery
