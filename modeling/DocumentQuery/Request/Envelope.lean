/-
THE ENVELOPE of a request: a page, a filter and a sort, each of which may be missing. `interpret` judges page and sort,
`descriptor` the filter.
-/
import DocumentQuery.Filter.Descriptor
import DocumentQuery.Request.Page
import DocumentQuery.Request.Sort

namespace DocumentQuery

/-- page and sort, judged -/
structure Interpretation where
  skip : Option Count := none
  limit : Option Count := none
  sort : Option SortSpec := none
  deriving DecidableEq, Repr

def Interpretation.window (i : Interpretation) : Window := ⟨i.skip, i.limit⟩

/-- the page is judged before the sort -/
def interpret (page : PageSpec) (sort : Option SortPayload) : Except FilterError Interpretation := do
  let window ← page.window
  match sort with
  | none => .ok ⟨window.skip, window.limit, none⟩
  | some payload =>
    let spec ← payload.resolve
    .ok ⟨window.skip, window.limit, spec⟩

/-- what every query operation is asked with -/
structure QueryParams where
  page : PageSpec := {}
  filters : Option FilterPayload := none
  sort : Option SortPayload := none

namespace QueryParams

def declared : List (List String) := PageSpec.declared ++ [["filters", "filter"], ["sort"]]

def ofFields? : List (Option Json) → Option QueryParams
  | [number, size, filters, sort] => do
    let page ← PageSpec.ofFields? [number, size]
    let filters ← Payload.optional FilterPayload.ofJson? filters
    let sort ← Payload.optional SortPayload.ofJson? sort
    some ⟨page, filters, sort⟩
  | _ => none

/-- an envelope is an object -/
def ofJson? : Json → Option QueryParams
  | .obj fields => (Payload.object? declared fields).bind ofFields?
  | _ => none

/-- an envelope with nothing but a page -/
def paged (number size : Count) : QueryParams := { page := ⟨some number, some size⟩ }

/-- what the request filters by -/
def descriptor (p : QueryParams) : Except FilterError (Option FilterDescriptor) :=
  match p.filters with
  | some payload => payload.descriptor
  | none => .ok none

def interpret (p : QueryParams) : Except FilterError Interpretation := DocumentQuery.interpret p.page p.sort

end QueryParams

end DocumentQuery
