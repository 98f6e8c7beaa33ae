/-
RESTAURANTS: addresses, cuisines and grades. `Restaurant.nearest` lists them by distance from a point, narrowed by the
filter of the request.
-/
import DocumentQuery.Payload.Record
import DocumentQuery.Resource.Query

namespace DocumentQuery

/-! ## Documents -/

structure Address where
  building : String
  /-- longitude and latitude -/
  coord : List Float
  street : String
  zipcode : String
  deriving DecidableEq

namespace Address

def declared : List (List String) := [["building"], ["coord"], ["street"], ["zipcode"]]

def ofFields? : List (Option Json) → Option Address
  | [building, coord, street, zipcode] => do
    let building ← Payload.required Json.str? building
    let coord ← Payload.required (Payload.list? Json.float?) coord
    let street ← Payload.required Json.str? street
    let zipcode ← Payload.required Json.str? zipcode
    some ⟨building, coord, street, zipcode⟩
  | _ => none

def ofJson? (v : Json) : Option Address := (Payload.record? declared v).bind ofFields?

def toJson (a : Address) : Json :=
  .obj [("building", .str a.building), ("coord", .arr (a.coord.map .float)), ("street", .str a.street),
    ("zipcode", .str a.zipcode)]

end Address

/-- result of an inspection -/
structure Grade where
  date : String
  grade : String
  score : Option Int64
  deriving DecidableEq, Repr

namespace Grade

def declared : List (List String) := [["date"], ["grade"], ["score"]]

/-- an integer of 64 bits -/
def score? (v : Json) : Option Int64 := v.int?.map Int64.ofInt

def ofFields? : List (Option Json) → Option Grade
  | [date, grade, score] => do
    let date ← Payload.required Json.str? date
    let grade ← Payload.required Json.str? grade
    let score ← Payload.optional score? score
    some ⟨date, grade, score⟩
  | _ => none

/-- in an object the score may be missing; an array has all three fields -/
def ofJson? : Json → Option Grade
  | .obj fields => (Payload.object? declared fields).bind ofFields?
  | .arr [date, grade, score] => ofFields? [some date, some grade, some score]
  | _ => none

def toJson (g : Grade) : Json :=
  .obj [("date", .str g.date), ("grade", .str g.grade), ("score", Json.ofOption (fun n => .int n.toInt) g.score)]

end Grade

structure Restaurant where
  address : Address
  borough : String
  cuisine : String
  grades : List Grade
  name : String
  identifier : String
  deriving DecidableEq

namespace Restaurant

def declared : List (List String) :=
  [["address"], ["borough"], ["cuisine"], ["grades"], ["name"], ["restaurant_id"]]

def ofFields? : List (Option Json) → Option Restaurant
  | [address, borough, cuisine, grades, name, identifier] => do
    let address ← Payload.required Address.ofJson? address
    let borough ← Payload.required Json.str? borough
    let cuisine ← Payload.required Json.str? cuisine
    let grades ← Payload.orElse [] (Payload.list? Grade.ofJson?) grades
    let name ← Payload.required Json.str? name
    let identifier ← Payload.required Json.str? identifier
    some ⟨address, borough, cuisine, grades, name, identifier⟩
  | _ => none

def ofJson? (v : Json) : Option Restaurant := (Payload.record? declared v).bind ofFields?

def toDocument (r : Restaurant) : Document :=
  [("address", r.address.toJson), ("borough", .str r.borough), ("cuisine", .str r.cuisine),
    ("grades", .arr (r.grades.map Grade.toJson)), ("name", .str r.name), ("restaurant_id", .str r.identifier)]

/-- what a distinct name is listed with: where its restaurants are and what they serve -/
def nameExtras : List Column :=
  [⟨"borough", "borough", .addToSet⟩, ⟨"cuisine", "cuisine", .addToSet⟩, ⟨"street", "address.street", .addToSet⟩,
    ⟨"coord", "address.coord", .addToSet⟩]

end Restaurant

/-- restaurants, found by their identifier -/
def restaurants : Resource :=
  { collection := "restaurants", name := "Restaurant", keyField := "restaurant_id"
    distinctExtras := fun field => if field = "name" then Restaurant.nameExtras else [] }

/-! ## By distance -/

namespace Restaurant

/-- a proximity filter in front of what a request filters by; a combined filter keeps its combinator -/
def withNear (near : SingleFilter) : Option FilterDescriptor → FilterDescriptor
  | none => .single near
  | some (.single f) => .combined ⟨.and, [near, f]⟩
  | some (.combined f) => .combined { f with elements := near :: f.elements }

/-- the restaurants within range of a point, nearest first unless the request sorts otherwise -/
def nearest {σ : Type} [DocumentStore σ] (config : Config) (params : QueryParams) (lng lat : Float)
    (minDistance : Option Float) (maxDistance : Float) : Operation σ Listing := do
  let near := SingleFilter.around lng lat minDistance maxDistance
  let descriptor ← Operation.judge params.descriptor
  let i ← Operation.judge params.interpret
  let filter ← Operation.judge (compileFilter (some (withNear near descriptor)) config)
  restaurants.answer (restaurants.listPipeline config filter i) params

end Restaurant

end DocumentQuery
