/-
BUILDING PIPELINES. A builder has one slot for each kind of stage, so the order in which the slots are filled does not
show in the pipeline: the filter comes first, then group, sort, skip, limit and projection. The pipeline of a request is
built of its parts once they are judged: page and sort first, then the filter.
-/
import DocumentQuery.Filter.Compile
import DocumentQuery.Pipeline.Stage
import DocumentQuery.Request.Envelope

namespace DocumentQuery

namespace CompiledFilter

/-- adds a predicate to a filter; an anchor takes it into its query -/
def constrain (f : CompiledFilter) (extra : Document) : CompiledFilter :=
  if extra.isEmpty then f
  else
    match f with
    | unconstrained => predicate extra
    | predicate p => predicate (conjoin p extra)
    | anchored a => anchored (a.constrain extra)

/-- the stage that selects what the filter accepts, if there is anything to select by -/
def stage? : CompiledFilter → Option Stage
  | unconstrained => none
  | predicate p => some (.select p)
  | anchored a => some (.near a)

end CompiledFilter

/-- a pipeline in the making -/
structure PipelineBuilder where
  filter : CompiledFilter := .unconstrained
  grouping : Option Grouping := none
  order : Option SortSpec := none
  skipped : Option Count := none
  limited : Option Count := none
  projection : Option Document := none

namespace PipelineBuilder

/-- a pipeline that starts with a filter -/
def ofFilter (filter : CompiledFilter) : PipelineBuilder := { filter }

def constrain (b : PipelineBuilder) (predicate : Document) : PipelineBuilder :=
  { b with filter := b.filter.constrain predicate }

def group (b : PipelineBuilder) (grouping : Grouping) : PipelineBuilder := { b with grouping := some grouping }

def sort (b : PipelineBuilder) (order : Option SortSpec) : PipelineBuilder := { b with order }

/-- zero is no skip -/
def skip (b : PipelineBuilder) (count : Option Count) : PipelineBuilder :=
  { b with skipped := PageSpec.positive? count }

/-- zero is no limit -/
def limit (b : PipelineBuilder) (count : Option Count) : PipelineBuilder :=
  { b with limited := PageSpec.positive? count }

def window (b : PipelineBuilder) (w : Window) : PipelineBuilder := (b.skip w.skip).limit w.limit

/-- a projection; one without fields is none -/
def project (b : PipelineBuilder) (projection : Document) : PipelineBuilder :=
  { b with projection := if projection.isEmpty then none else some projection }

/-- the projection that drops some fields -/
def exclusion (fields : List String) : Document := Document.ofList (fields.map fun f => (f, .nat 0))

/-- drops fields from the rows -/
def exclude (b : PipelineBuilder) (fields : List String) : PipelineBuilder := b.project (exclusion fields)

/-- the stages of the filled slots, in their fixed order -/
def build (b : PipelineBuilder) : Pipeline :=
  b.filter.stage?.toList ++ (b.grouping.map Stage.group).toList ++ (b.order.map Stage.sort).toList ++
    (b.skipped.map Stage.skip).toList ++ (b.limited.map Stage.limit).toList ++
    (b.projection.map Stage.project).toList

end PipelineBuilder

/-- filter, sort, window and the fields to drop, as one pipeline -/
def Pipeline.assemble (filter : CompiledFilter) (sort : Option SortSpec) (window : Window) (exclude : List String) :
    Pipeline :=
  (((PipelineBuilder.ofFilter filter).sort sort).window window).exclude exclude |>.build

/-! ## Pipelines of requests -/

namespace QueryParams

/-- what the request filters by, compiled -/
def filter (p : QueryParams) (config : Config) : Except FilterError CompiledFilter := do
  let descriptor ← p.descriptor
  compileFilter descriptor config

/-- the pipeline that answers a request -/
def pipeline (p : QueryParams) (config : Config) : Except FilterError Pipeline := do
  let i ← p.interpret
  let filter ← p.filter config
  .ok (Pipeline.assemble filter i.sort i.window config.excludeFields)

end QueryParams

end DocumentQuery
