/-
CHANGING resources. A document is created, updated and deleted by its key; fields are set, renamed and unset on all
documents that a request selects. An operation that changes nothing fails.
-/
import DocumentQuery.Resource.Basic

namespace DocumentQuery

/-- an update of the documents that a request selects: the field and what was done -/
structure UpdateSummary where
  field : String
  outcome : UpdateOutcome
  deriving DecidableEq, Repr

def UpdateSummary.toJson (s : UpdateSummary) : Json :=
  .obj [("field", .str s.field), ("matched", .nat s.outcome.matched), ("modified", .nat s.outcome.modified)]

/-- a deletion by key, with the number of documents deleted -/
structure DeleteSummary where
  key : String
  deleted : Nat
  deriving DecidableEq, Repr

def DeleteSummary.toJson (s : DeleteSummary) : Json := .obj [("deleted", .nat s.deleted), ("key", .str s.key)]

namespace Resource

variable {σ : Type} [DocumentStore σ]

/-! ## Single documents -/

/-- stores a new document, which has to have a key -/
def create (r : Resource) (config : Config) (d : Document) : Operation σ Document := do
  if (Document.find? d r.keyField).all Json.isNull then
    throw (.badRequest (r.name ++ " requires `" ++ r.keyField ++ "`"))
  else
    let stored ← Operation.call (DocumentStore.insertOne r.collection d)
    pure (Document.strip stored config.excludeFields)

/-- what is wrong with the changes of an update -/
def changesFault? (changes : Document) : Option String :=
  if changes.isEmpty then some "No changes supplied"
  else (List.find? (fun f => Text.isOperatorKey f.1) changes).map fun f => "Field names cannot start with '$': " ++ f.1

/-- the key of a document after changes to it -/
def newKey (r : Resource) (changes : Document) (key : String) : String :=
  ((Document.find? changes r.keyField).bind Json.str?).getD key

/-- the mutation that sets fields -/
def setting (values : Document) : Document := Document.single "$set" (.obj values)

/-- changes the document with a key; gives it as it is afterwards -/
def update (r : Resource) (config : Config) (key : String) (changes : Document) : Operation σ Document := do
  match changesFault? changes with
  | some reason => throw (.badRequest reason)
  | none =>
    let outcome ← Operation.call (DocumentStore.updateOne r.collection (r.keyPredicate key) (setting changes) false)
    if outcome.matched = 0 then throw (r.missing (some key))
    else
      let key := r.newKey changes key
      let found ← Operation.call (DocumentStore.findOne r.collection (r.keyPredicate key))
      let d ← Operation.expect (r.missing (some key)) found
      pure (Document.strip d config.excludeFields)

/-- deletes every document with a key -/
def deleteByKey (r : Resource) (key : String) : Operation σ DeleteSummary := do
  let deleted ← Operation.call (DocumentStore.deleteMany r.collection (r.keyPredicate key))
  if deleted = 0 then throw (r.missing (some key)) else pure ⟨key, deleted⟩

/-! ## Fields of all selected documents -/

/-- the summary of an update that changed something -/
def summarize (r : Resource) (field : String) (outcome : UpdateOutcome) : Operation σ UpdateSummary :=
  if outcome.modified = 0 then throw (r.missing none) else pure ⟨field, outcome⟩

/-- updates all documents that satisfy a predicate -/
def updateField (r : Resource) (field : String) (predicate mutation : Document) (upsert : Bool) :
    Operation σ UpdateSummary := do
  let outcome ← Operation.call (DocumentStore.updateMany r.collection predicate mutation upsert)
  r.summarize field outcome

/-- sets fields; when no document is selected, one is made for them -/
def setField (r : Resource) (config : Config) (params : QueryParams) (values : Document) :
    Operation σ UpdateSummary := do
  if values.isEmpty then throw (.badRequest "No values supplied")
  else
    let predicate ← Operation.judge (params.predicate config)
    r.updateField (", ".intercalate (values.map (·.1))) predicate (setting values) true

/-- renames a field where it is present -/
def renameField (r : Resource) (config : Config) (params : QueryParams) (field newField : String) :
    Operation σ UpdateSummary := do
  if field = "" ∨ newField = "" ∨ field = newField then
    throw (.badRequest ("Cannot rename `" ++ field ++ "` to `" ++ newField ++ "`"))
  else
    let predicate ← Operation.judge (params.predicate config)
    let present := Document.single field (.obj (Document.single "$exists" (.bool true)))
    let mutation := Document.single "$rename" (.obj (Document.single field (.str newField)))
    r.updateField newField (conjoin predicate present) mutation false

/-- removes a field -/
def unsetField (r : Resource) (config : Config) (params : QueryParams) (field : String) :
    Operation σ UpdateSummary := do
  let predicate ← Operation.judge (params.predicate config)
  let mutation := Document.single "$unset" (.obj (Document.single field (.str "")))
  r.updateField field predicate mutation false

end Resource

end DocumentQuery
