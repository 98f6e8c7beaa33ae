/-
THE PROXIMITY ANCHOR. A store accepts a search by distance only at the head of a pipeline, so every other condition of
the same query travels inside of it: `fold` and `constrain` add to the embedded query and leave the search as it is.
-/
import DocumentQuery.Filter.Config
import DocumentQuery.Filter.Operator

namespace DocumentQuery

/-- a search around a point -/
structure ProximityAnchor where
  lng : Float
  lat : Float
  maxDistance : Float
  minDistance : Option Float := none
  distanceField : String
  spherical : Bool
  key : Option String
  /-- conditions on the documents within range -/
  query : Document := []

namespace ProximityAnchor

/-- a search with the settings' distance field, metric and location field -/
def new (lng lat maxDistance : Float) (config : Config) : ProximityAnchor :=
  { lng, lat, maxDistance, distanceField := config.distanceField, spherical := config.spherical, key := config.geoKey }

/-- adds one predicate to the embedded query -/
def constrain (a : ProximityAnchor) (predicate : Document) : ProximityAnchor :=
  { a with query := conjoin a.query predicate }

/-- adds predicates to the embedded query, joined by a combinator -/
def fold (a : ProximityAnchor) (c : Combinator) (fragments : List Document) : ProximityAnchor :=
  a.constrain (c.combine fragments)

/-- the field of the document when there is a value for it -/
def optionalField (key : String) (value : Option Json) : Document :=
  match value with
  | some v => [(key, v)]
  | none => []

/-- the search as the body of a stage -/
def stageBody (a : ProximityAnchor) : Document :=
  [("distanceField", .str a.distanceField)] ++ optionalField "key" (a.key.map .str) ++
    [("maxDistance", .float a.maxDistance)] ++ optionalField "minDistance" (a.minDistance.map .float) ++
    [("near", .obj [("coordinates", .arr [.float a.lng, .float a.lat]), ("type", .str "Point")]),
      ("query", .obj a.query), ("spherical", .bool a.spherical)]

/-- the search as a stage -/
def toDocument (a : ProximityAnchor) : Document := Document.single "$geoNear" (.obj a.stageBody)

end ProximityAnchor

end DocumentQuery
