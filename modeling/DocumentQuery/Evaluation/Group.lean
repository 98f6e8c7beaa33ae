/-
THE GROUP STAGE: one row for each text of the key, in the order in which the keys first appear. A column collects the
values of its expression over the documents of the group.
-/
import DocumentQuery.Json.Order
import DocumentQuery.Json.Printer
import DocumentQuery.Path.Basic
import DocumentQuery.Pipeline.Kind
import DocumentQuery.Store.Error

namespace DocumentQuery

/-- value of an expression on a document: a text with a dollar sign in front names a path, all else stands for itself -/
def evaluate? (d : Document) : Json → Option Json
  | .str s =>
    match s.toList with
    | '$' :: path => Document.first? d (String.ofList path)
    | _ => some (.str s)
  | v => some v

/-- value of a column after one more document; `none` before the first one and for a missing value -/
def Accumulation.add (a : Accumulation) (sofar value : Option Json) : Json :=
  match a with
  | first => sofar.getD (value.getD .null)
  | push =>
    match sofar.getD (.arr []), value with
    | .arr items, some v => .arr (items ++ [v])
    | column, _ => column
  | addToSet =>
    match sofar.getD (.arr []), value with
    | .arr items, some v => if items.any (·.equal v) then .arr items else .arr (items ++ [v])
    | column, _ => column
  | sum =>
    let add := (value.bind Json.float?).getD 0.0
    let current := ((sofar.getD (.float 0.0)).float?).getD 0.0
    .float (current + add)

/-- a column: its name, how it collects, and what -/
structure GroupColumn where
  name : String
  accumulation : Accumulation
  expression : Json

/-- a group stage as a store understands it -/
structure GroupSpec where
  key : Json
  columns : List GroupColumn

/-- the column that a field of the body describes -/
def GroupColumn.ofField (field : String × Json) : Except StoreError GroupColumn :=
  match field.2 with
  | .obj [(tag, expression)] =>
    match Accumulation.ofTag? tag with
    | some a => .ok ⟨field.1, a, expression⟩
    | none => .error (.unsupportedOperator tag)
  | _ => .error (.invalidPipeline (.columnShape field.1))

namespace GroupSpec

/-- reads a group stage from its body -/
def ofBody (body : Document) : Except StoreError GroupSpec := do
  match Document.find? body "_id" with
  | none => .error (.invalidPipeline .missingGroupKey)
  | some key =>
    let columns ← (body.filter fun f => f.1 != "_id").mapM GroupColumn.ofField
    .ok ⟨key, columns⟩

/-- key of a document, null when it has none -/
def keyOf (s : GroupSpec) (d : Document) : Json := (evaluate? d s.key).getD .null

/-- a row after one more document -/
def addTo (s : GroupSpec) (row d : Document) : Document :=
  s.columns.foldl
    (fun row c =>
      Document.insert row c.name (c.accumulation.add (Document.find? row c.name) (evaluate? d c.expression)))
    row

/-- rows with the texts of their keys, after one more document -/
def place (s : GroupSpec) (d : Document) (text : String) (fresh : Document) :
    List (String × Document) → List (String × Document)
  | [] => [(text, s.addTo fresh d)]
  | (t, row) :: rest => if t = text then (t, s.addTo row d) :: rest else (t, row) :: s.place d text fresh rest

/-- the groups of documents -/
def run (s : GroupSpec) (documents : List Document) : List Document :=
  (documents.foldl (fun rows d => s.place d (s.keyOf d).compact (Document.single "_id" (s.keyOf d)) rows) []).map (·.2)

end GroupSpec

end DocumentQuery
