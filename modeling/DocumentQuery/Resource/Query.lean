/-
READING resources: one document, a list, the distinct values of a field, and the document around a point. Lists have the
settings' limit when the request has no page size; all answers leave the excluded fields out.
-/
import DocumentQuery.Resource.Basic

namespace DocumentQuery.Resource

variable {σ : Type} [DocumentStore σ]

/-- the pipeline of a query for one document -/
def onePipeline (config : Config) (params : QueryParams) : Except FilterError Pipeline := do
  let i ← params.interpret
  let filter ← params.filter config
  .ok (Pipeline.assemble filter i.sort ⟨i.skip, some 1⟩ config.excludeFields)

/-- the first document of the answer to a request -/
def getOne (r : Resource) (config : Config) (params : QueryParams) : Operation σ Document := do
  let pipeline ← Operation.judge (onePipeline config params)
  let rows ← Operation.call (DocumentStore.aggregate r.collection pipeline.toDocuments)
  Operation.expect (r.missing none) rows.head?

/-- the pipeline of a list with a filter -/
def listPipeline (r : Resource) (config : Config) (filter : CompiledFilter) (i : Interpretation) : Pipeline :=
  let window : Window := ⟨i.skip, i.limit.or config.defaultListLimit⟩
  Pipeline.assemble (filter.constrain r.listConstraint) i.sort window config.excludeFields

/-- runs a pipeline that answers a list request -/
def answer (r : Resource) (pipeline : Pipeline) (params : QueryParams) : Operation σ Listing := do
  let rows ← Operation.call (DocumentStore.aggregate r.collection pipeline.toDocuments)
  pure ⟨rows, params.page.number⟩

/-- the documents that a request asks for, apart from those without the required field -/
def getList (r : Resource) (config : Config) (params : QueryParams) : Operation σ Listing := do
  let i ← Operation.judge params.interpret
  let filter ← Operation.judge (params.filter config)
  r.answer (r.listPipeline config filter i) params

/-- the pipeline of a query for distinct values; the sort is judged before the page and the filter -/
def distinctPipeline (r : Resource) (config : Config) (params : QueryParams) : Except FilterError Pipeline := do
  let query ← DistinctQuery.ofSort params.sort
  let window ← params.page.window
  let filter ← params.filter config
  .ok ({ query with extras := r.distinctExtras query.field }.pipeline filter window config.excludeFields)

/-- the distinct values of the field that the sort of the request names -/
def getDistinct (r : Resource) (config : Config) (params : QueryParams) : Operation σ Listing := do
  let pipeline ← Operation.judge (r.distinctPipeline config params)
  r.answer pipeline params

/-- the predicate on areas that hold a point -/
def aroundPoint (geometry : String) (lng lat : Float) : Document :=
  let point : Json := .obj [("coordinates", .arr [.float lng, .float lat]), ("type", .str "Point")]
  Document.single geometry (.obj (Document.single "$geoIntersects" (.obj (Document.single "$geometry" point))))

/-- whether a longitude and a latitude are in range -/
def inRange (lng lat : Float) : Bool := SingleFilter.between (-180) lng 180 && SingleFilter.between (-90) lat 90

/-- the first document whose area holds a point -/
def locatePoint (r : Resource) (config : Config) (lng lat : Float) : Operation σ Document := do
  match r.geometryField with
  | none => throw (.badRequest (r.name ++ " has no geometry"))
  | some geometry =>
    if inRange lng lat then
      let found ← Operation.call (DocumentStore.findOne r.collection (aroundPoint geometry lng lat))
      let d ← Operation.expect (r.missing none) found
      pure (d.strip config.excludeFields)
    else
      throw (.badRequest ("Coordinates out of range: [" ++ plainText lng ++ ", " ++ plainText lat ++ "]"))

end DocumentQuery.Resource
