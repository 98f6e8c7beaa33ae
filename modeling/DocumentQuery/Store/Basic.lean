/-
DOCUMENT STORES. `DocumentStore` lists what the operations on resources need of a store; `Store` is one in memory, and
`Unreachable` one whose every call fails.

A call changes the store on the way to its result. Updates work on copies and write them back at the end, so a failure
on a later row leaves the collection as it was.
-/
import DocumentQuery.Evaluation.Mutation
import DocumentQuery.Evaluation.Run

namespace DocumentQuery

/-- a call on a store: a result or a failure, and the store afterwards -/
abbrev StoreM (σ α : Type) := ExceptT StoreError (StateM σ) α

/-- rows that an update found, and how many of them it changed -/
structure UpdateOutcome where
  matched : Nat := 0
  modified : Nat := 0
  deriving DecidableEq, Repr

/-- what a document store can be asked -/
class DocumentStore (σ : Type) where
  findOne : String → Document → StoreM σ (Option Document)
  find : String → Document → StoreM σ (List Document)
  aggregate : String → List Document → StoreM σ (List Document)
  insertOne : String → Document → StoreM σ Document
  /-- predicate, mutation, and whether to insert a document when nothing matches -/
  updateOne : String → Document → Document → Bool → StoreM σ UpdateOutcome
  updateMany : String → Document → Document → Bool → StoreM σ UpdateOutcome
  deleteOne : String → Document → StoreM σ Nat
  deleteMany : String → Document → StoreM σ Nat

/-! ## Rows of one collection -/

/-- first row that satisfies a predicate; rows behind it are not judged -/
def firstRow (predicate : Document) : List Document → Except StoreError (Option Document)
  | [] => .ok none
  | row :: rest => do
    if ← satisfies row predicate then .ok (some row) else firstRow predicate rest

/-- one row under a mutation: its new content if anything changed -/
def mutated? (mutation row : Document) : Except StoreError (Option Document) :=
  match (applyMutation mutation).run row with
  | (.ok true, updated) => .ok (some updated)
  | (.ok false, _) => .ok none
  | (.error e, _) => .error e

/-- rows under a mutation, all that match or only the first, with what was done -/
def updateRows (predicate mutation : Document) (many : Bool) :
    List Document → Except StoreError (UpdateOutcome × List Document)
  | [] => .ok ({}, [])
  | row :: rest => do
    if ← satisfies row predicate then
      let change ← mutated? mutation row
      let (outcome, rest) ← if many then updateRows predicate mutation many rest else .ok ({}, rest)
      .ok (⟨outcome.matched + 1, outcome.modified + change.isSome.toNat⟩, change.getD row :: rest)
    else
      let (outcome, rest) ← updateRows predicate mutation many rest
      .ok (outcome, row :: rest)

/-- rows without those that match, all of them or only the first, with how many were dropped -/
def deleteRows (predicate : Document) (many : Bool) : List Document → Except StoreError (Nat × List Document)
  | [] => .ok (0, [])
  | row :: rest => do
    if ← satisfies row predicate then
      if many then
        let (n, rest) ← deleteRows predicate many rest
        .ok (n + 1, rest)
      else .ok (1, rest)
    else
      let (n, rest) ← deleteRows predicate many rest
      .ok (n, row :: rest)

/-! ## The store in memory -/

/-- collections by name, the location field of each, and the supply of identifiers, with how many of them were given
out -/
structure Store where
  collections : List (String × List Document) := []
  geoFields : List (String × String) := []
  /-- for documents that come without one, in the order in which they are given out -/
  identifiers : Nat → String
  issued : Nat := 0

namespace Store

/-- a store without collections, with its supply of identifiers -/
def empty (identifiers : Nat → String) : Store := { identifiers }

/-- rows of a collection, in order of insertion -/
def rows (s : Store) (collection : String) : List Document := (s.collections.lookup collection).getD []

/-- replaces the rows of a collection -/
def putRows (name : String) (rows : List Document) :
    List (String × List Document) → List (String × List Document)
  | [] => [(name, rows)]
  | (n, r) :: rest => if n = name then (n, rows) :: rest else (n, r) :: putRows name rows rest

def setRows (s : Store) (collection : String) (rows : List Document) : Store :=
  { s with collections := putRows collection rows s.collections }

/-- location field of a collection -/
def geoField? (s : Store) (collection : String) : Option String := s.geoFields.lookup collection

/-- declares the location field of a collection -/
def withGeoField (s : Store) (collection field : String) : Store :=
  { s with geoFields := (collection, field) :: s.geoFields }

/-- the document with an identifier, the next one of the supply if it has none -/
def identify (s : Store) (d : Document) : Document × Store :=
  if Document.hasKey d "_id" then (d, s)
  else (Document.insert d "_id" (.str (s.identifiers s.issued)), { s with issued := s.issued + 1 })

/-- appends a document to a collection, with an identifier -/
def append (s : Store) (collection : String) (d : Document) : Document × Store :=
  let (d, s) := s.identify d
  (d, s.setRows collection (s.rows collection ++ [d]))

/-- appends documents to a collection -/
def seed (s : Store) (collection : String) (documents : List Document) : Store :=
  documents.foldl (fun s d => (s.append collection d).2) (s.setRows collection (s.rows collection))

def count (s : Store) (collection : String) : Nat := (s.rows collection).length

/-- runs a judgement on the store that changes nothing -/
def ask {α : Type} (f : Store → Except StoreError α) : StoreM Store α := fun s => (f s, s)

/-- an update of all matching rows, or of the first one; when none matches it may insert a document -/
def update (collection : String) (predicate mutation : Document) (upsert many : Bool) : StoreM Store UpdateOutcome :=
  fun s =>
    match updateRows predicate mutation many (s.rows collection) with
    | .error e => (.error e, s.setRows collection (s.rows collection))
    | .ok (outcome, rows) =>
      let s := s.setRows collection rows
      if outcome.matched = 0 ∧ upsert then
        match upsertDocument predicate mutation with
        | .error e => (.error e, s)
        | .ok d => (.ok ⟨0, 1⟩, (s.append collection d).2)
      else (.ok outcome, s)

/-- a deletion of all matching rows, or of the first one -/
def delete (collection : String) (predicate : Document) (many : Bool) : StoreM Store Nat :=
  fun s =>
    match deleteRows predicate many (s.rows collection) with
    | .error e => (.error e, s)
    | .ok (n, rows) => (.ok n, if n = 0 then s else s.setRows collection rows)

instance : DocumentStore Store where
  findOne collection predicate := ask fun s => firstRow predicate (s.rows collection)
  find collection predicate := ask fun s => selectRows predicate (s.rows collection)
  aggregate collection pipeline := ask fun s => runPipeline (s.rows collection) pipeline (s.geoField? collection)
  insertOne collection d := fun s =>
    let (d, s) := s.append collection d
    (.ok d, s)
  updateOne collection predicate mutation upsert := update collection predicate mutation upsert false
  updateMany collection predicate mutation upsert := update collection predicate mutation upsert true
  deleteOne collection predicate := delete collection predicate false
  deleteMany collection predicate := delete collection predicate true

end Store

/-! ## A store that does not answer -/

/-- a store that answers every call with the same failure -/
structure Unreachable where
  reason : String

/-- the failure of every call -/
def Unreachable.fail {α : Type} : StoreM Unreachable α := fun s => (.error (.backend s.reason), s)

instance : DocumentStore Unreachable where
  findOne _ _ := Unreachable.fail
  find _ _ := Unreachable.fail
  aggregate _ _ := Unreachable.fail
  insertOne _ _ := Unreachable.fail
  updateOne _ _ _ _ := Unreachable.fail
  updateMany _ _ _ _ := Unreachable.fail
  deleteOne _ _ := Unreachable.fail
  deleteMany _ _ := Unreachable.fail

end DocumentQuery
