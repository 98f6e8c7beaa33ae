/-
DISTINCT VALUES of one field: documents where it is not the empty text, grouped by its value and sorted by it. Further
columns may collect other paths over the documents of each value.
-/
import DocumentQuery.Pipeline.Builder

namespace DocumentQuery

/-- which field's values are wanted, in which order, and what to collect beside them -/
structure DistinctQuery where
  field : String
  direction : SortDirection
  extras : List Column := []
  deriving DecidableEq, Repr

namespace DistinctQuery

/-- the field and direction of a sort, which has to have both -/
def ofSort (sort : Option SortPayload) : Except FilterError DistinctQuery :=
  match sort with
  | none => .error (.incompleteSort none none)
  | some payload => do
    let spec ← payload.require
    .ok { field := spec.field, direction := spec.direction }

/-- a path as a name of its own: dots become underscores -/
def columnName (path : String) : String := String.ofList (path.toList.map fun c => if c = '.' then '_' else c)

/-- column that holds the value -/
def outputKey (q : DistinctQuery) : String := columnName q.field

/-- the group of each value; no further column takes the place of the value -/
def grouping (q : DistinctQuery) : Grouping :=
  ⟨q.field, ⟨q.outputKey, q.field, .first⟩ :: q.extras.filter fun c => c.name != q.outputKey⟩

/-- the field is not the empty text -/
def nonEmpty (q : DistinctQuery) : Document :=
  Document.single q.field (.obj (Document.single Operator.notEquals.tag (.str "")))

/-- the pipeline that answers the query -/
def pipeline (q : DistinctQuery) (filter : CompiledFilter) (window : Window) (exclude : List String) : Pipeline :=
  let b := ((PipelineBuilder.ofFilter filter).constrain q.nonEmpty).group q.grouping
  ((b.sort (some ⟨"_id", q.direction⟩)).window window).exclude exclude |>.build

end DistinctQuery

end DocumentQuery
