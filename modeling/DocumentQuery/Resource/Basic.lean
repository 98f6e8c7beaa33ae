/-
RESOURCES: collections that clients query and change. A resource names its collection and the fields with a meaning of
their own; the operations are the same for all resources and all stores.
-/
import DocumentQuery.Pipeline.Distinct
import DocumentQuery.Resource.Failure
import DocumentQuery.Store.Basic

namespace DocumentQuery

/-- a collection as clients see it -/
structure Resource where
  collection : String
  /-- what one document is called in messages -/
  name : String
  /-- field that identifies a document -/
  keyField : String
  /-- lists leave out the documents where this field is the empty text -/
  requiredField : Option String := some "name"
  /-- field with the area of a document -/
  geometryField : Option String := none
  /-- what the distinct values of a field are listed with -/
  distinctExtras : String → List Column := fun _ => []

/-- an operation on a store: a result or a failure, and the store afterwards -/
abbrev Operation (σ α : Type) := ExceptT Failure (StateM σ) α

/-- a call on the store as part of an operation -/
def Operation.call {σ α : Type} (x : StoreM σ α) : Operation σ α := fun s =>
  match x.run s with
  | (.ok a, s) => (.ok a, s)
  | (.error e, s) => (.error (.ofStore e), s)

/-- a judgement on the request as part of an operation -/
def Operation.judge {σ α : Type} (x : Except FilterError α) : Operation σ α := fun s =>
  match x with
  | .ok a => (.ok a, s)
  | .error e => (.error (.invalidFilter e), s)

/-- the result when there is one -/
def Operation.expect {σ α : Type} (failure : Failure) : Option α → Operation σ α
  | some a => pure a
  | none => throw failure

/-- the document without some of its fields -/
def Document.strip (d : Document) (fields : List String) : Document := fields.foldl erase d

/-- rows that answer a list request, with the page that was asked for -/
structure Listing where
  rows : List Document
  page : Option Count

def Listing.toJson (l : Listing) : Json :=
  .obj [("data", .arr (l.rows.map .obj)), ("page_number", Json.ofOption .count l.page)]

namespace Resource

/-- the operator object that asks for a field not to be the empty text -/
def notEmptyText : Json := .obj (Document.single "$ne" (.str ""))

/-- what every row of a list satisfies -/
def listConstraint (r : Resource) : Document :=
  match r.requiredField with
  | some field => Document.single field notEmptyText
  | none => []

/-- the predicate on the key -/
def keyPredicate (r : Resource) (key : String) : Document := Document.single r.keyField (.str key)

/-- failure of an operation that matched nothing -/
def missing (r : Resource) (key : Option String) : Failure := .notFound r.name key

end Resource

/-- the predicate of a request that cannot search by distance -/
def QueryParams.predicate (params : QueryParams) (config : Config) : Except FilterError Document := do
  let filter ← params.filter config
  filter.toPredicate

end DocumentQuery
