/-
THE SORT STAGE: documents ordered by the first values at some fields, in the order of the fields' names. Documents
that no field tells apart stay as they are.
-/
import DocumentQuery.Json.Order
import DocumentQuery.Path.Basic
import DocumentQuery.Store.Error

namespace DocumentQuery

/-- a field to sort by, from high to low if `descending` -/
structure SortKey where
  field : String
  descending : Bool
  deriving DecidableEq, Repr

/-- reads the keys of a sort stage: each direction is the integer 1 or -1 -/
def SortKey.ofField (field : String × Json) : Except StoreError SortKey :=
  match field.2.int? with
  | some 1 => .ok ⟨field.1, false⟩
  | some (-1) => .ok ⟨field.1, true⟩
  | _ => .error (.invalidPipeline (.sortDirection field.1))

/-- value that a document is sorted by: the first one at the field, null when there is none -/
def sortValue (d : Document) (field : String) : Json := (Document.first? d field).getD .null

/-- order of two documents under one key -/
def SortKey.compare (k : SortKey) (a b : Document) : Ordering :=
  let o := (sortValue a k.field).compare (sortValue b k.field)
  if k.descending then o.swap else o

/-- order of two documents under keys of falling weight -/
def compareBy (keys : List SortKey) (a b : Document) : Ordering :=
  keys.foldr (fun k o => (k.compare a b).then o) .eq

/-- documents in order; those that no key tells apart stay as they are -/
def sortBy (keys : List SortKey) (documents : List Document) : List Document :=
  documents.mergeSort fun a b => (compareBy keys a b).isLE

/-- the sort stage -/
def runSort (body : Document) (documents : List Document) : Except StoreError (List Document) := do
  let keys ← body.mapM SortKey.ofField
  .ok (sortBy keys documents)

end DocumentQuery
