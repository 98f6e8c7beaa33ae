/-
THE PROXIMITY STAGE: documents within a range of distances from a point, nearest first.

A document takes part when some value at the location field reads as a point; the first such value counts. It then has
to be within range and to satisfy the embedded query, and it receives its distance.
-/
import DocumentQuery.Evaluation.Predicate
import DocumentQuery.Geometry.Distance

namespace DocumentQuery

/-- a search around a point as a store understands it -/
structure ProximitySearch where
  center : Point
  distanceField : String
  maxDistance : Option Float
  minDistance : Option Float
  spherical : Bool
  key : String
  query : Document

namespace ProximitySearch

/-- reads a search from the body of a stage; the store's own location field stands in for a missing key -/
def ofBody (body : Document) (geoKey : Option String) : Except StoreError ProximitySearch := do
  let get (key : String) : Option Json := Document.find? body key
  match (get "near").bind Point.ofJson? with
  | none => .error (.invalidPipeline .missingNear)
  | some center =>
    match (get "distanceField").bind Json.str? with
    | none => .error (.invalidPipeline .missingDistanceField)
    | some distanceField =>
      match ((get "key").bind Json.str?).or geoKey with
      | none => .error (.invalidPipeline .missingGeoKey)
      | some key =>
        let query ← match get "query" with
          | none => .ok []
          | some (.obj fields) => .ok fields
          | some _ => .error (.invalidPipeline (.bodyShape "$geoNear query"))
        .ok {
          center, distanceField, key, query
          maxDistance := (get "maxDistance").bind Json.float?
          minDistance := (get "minDistance").bind Json.float?
          spherical := ((get "spherical").bind Json.bool?).getD false }

/-- distance of a point from the center -/
def distance (s : ProximitySearch) (p : Point) : Float :=
  if s.spherical then sphericalDistance s.center.2 s.center.1 p.2 p.1 else planarDistance s.center.2 s.center.1 p.2 p.1

/-- first value at the location field that reads as a point -/
def location? (s : ProximitySearch) (d : Document) : Option Point := (Document.resolve d s.key).findSome? Point.ofJson?

/-- whether a distance is in range; one that is undefined always is -/
def inRange (s : ProximitySearch) (x : Float) : Bool :=
  s.maxDistance.all (fun most => x.isNaN || floatPlace x ≤ floatPlace most) &&
    (x.isNaN || floatPlace (s.minDistance.getD 0.0) ≤ floatPlace x)

/-- the document with its distance, if the search finds it -/
def visit? (s : ProximitySearch) (d : Document) : Except StoreError (Option (Float × Document)) :=
  match s.location? d with
  | none => .ok none
  | some p =>
    let x := s.distance p
    if s.inRange x then do
      let ok ← satisfies d s.query
      .ok (if ok then some (x, Document.insert d s.distanceField (.float x)) else none)
    else .ok none

/-- place of a distance in the total order of floats: minus infinity to infinity, minus zero before zero. An undefined
distance stands below all others: the root of a negative number is the NaN with a sign, and that is its place there. -/
def distanceRank (x : Float) : Int :=
  if x.isNaN then -Int.pow 2 64 else if isNegative x then -(magnitudeBits x : Int) - 1 else magnitudeBits x

/-- the documents that the search finds, nearest first -/
def run (s : ProximitySearch) (documents : List Document) : Except StoreError (List Document) := do
  let found ← documents.mapM s.visit?
  .ok (((found.filterMap id).mergeSort fun a b => distanceRank a.1 ≤ distanceRank b.1).map (·.2))

end ProximitySearch

end DocumentQuery
