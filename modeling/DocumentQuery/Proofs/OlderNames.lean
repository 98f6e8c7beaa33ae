/-
OLDER NAMES. Requests may be written with the older names of their keys. Whichever of the keys of a request are written
that way, the request is read as before and means the same:

- `Payload.pick?_respell`: a field is picked under whichever of its two names it has;
- `ElementPayload.ofJson?_respell`, `SortPayload.ofJson?_respell`: elements and sorts are read as the same payload;
- `FilterPayload.map_descriptor_respell`: the payload of a filter may differ, but not the descriptor that it means;
- `QueryParams.ofJson?_request`: whole requests.
-/
import DocumentQuery.Pipeline.Builder
import DocumentQuery.Proofs.Fields
import DocumentQuery.Proofs.Payloads

namespace DocumentQuery

/-! ## Moved fields -/

namespace Document

variable {d : Document} {older : Bool} {key historical : String} {f : Json → Json}

/-- writes the value of a field, if it is there, anew, and moves it to the older name of its key if that is asked for -/
def respell (d : Document) (older : Bool) (key historical : String) (f : Json → Json) : Document :=
  match find? d key with
  | some v => insert (erase d key) (if older then historical else key) (f v)
  | none => d

theorem ordered_respell (hd : d.Ordered) : (respell d older key historical f).Ordered := by
  unfold respell
  split
  · exact ordered_insert (ordered_erase hd key) _ _
  · exact hd

theorem find?_respell_of_ne (hd : d.Ordered) {k : String} (hkey : key ≠ k) (hhistorical : historical ≠ k) :
    find? (respell d older key historical f) k = find? d k := by
  unfold respell
  split
  · have htarget : (if older then historical else key) ≠ k := by split <;> assumption
    rw [find?_insert, if_neg htarget, find?_erase hd, if_neg hkey]
  · rfl

theorem find?_respell_value (d : Document) (key : String) (f : Json → Json) :
    find? (respell d false key key f) key = (find? d key).map f := by
  unfold respell
  split
  · next v hv => rw [if_neg Bool.false_ne_true, find?_insert_self, hv, Option.map_some]
  · next hv => rw [hv, Option.map_none]

theorem find?_respell_self (older : Bool) (f : Json → Json) (hd : d.Ordered) (hne : key ≠ historical)
    (hnone : find? d historical = none) :
    find? (respell d older key historical f) key = (if older then none else (find? d key).map f) ∧
      find? (respell d older key historical f) historical = if older then (find? d key).map f else none := by
  unfold respell
  split
  · next v hv => cases older <;> simp [find?_insert, find?_erase hd, hne, hne.symm, hnone, hv]
  · next hv => cases older <;> simp [hnone, hv]

end Document

namespace Payload

variable {d : Document} {older : Bool} {key historical : String} {f : Json → Json}

/-- a field is picked under whichever of its names it has -/
theorem pick?_respell (hd : d.Ordered) (hne : key ≠ historical) (hnone : Document.find? d historical = none) :
    pick? (Document.respell d older key historical f) [key, historical] = some ((Document.find? d key).map f) := by
  obtain ⟨hkey, hhistorical⟩ := Document.find?_respell_self older f hd hne hnone
  unfold pick?
  cases older <;> cases h : Document.find? d key <;> simp [hkey, hhistorical, h]

/-- other fields are picked as before -/
theorem pick?_respell_of_notMem {names : List String} (hd : d.Ordered) (hkey : key ∉ names)
    (hhistorical : historical ∉ names) : pick? (Document.respell d older key historical f) names = pick? d names := by
  have hfind : names.filterMap (Document.find? (Document.respell d older key historical f)) =
      names.filterMap (Document.find? d) := by
    refine List.filterMap_congr fun name hname => ?_
    exact Document.find?_respell_of_ne hd (fun h => hkey (h ▸ hname)) fun h => hhistorical (h ▸ hname)
  rw [pick?, hfind, ← pick?]

/-- an object with a field under the older name of its key has the same declared fields -/
theorem object?_respell {declared : List (List String)} (hd : d.Ordered) (hne : key ≠ historical)
    (hnone : Document.find? d historical = none)
    (hdeclared : ∀ names ∈ declared, names = [key, historical] ∨ (key ∉ names ∧ historical ∉ names)) :
    object? declared (Document.respell d older key historical id) = object? declared d := by
  refine mapM_congr fun names hnames => ?_
  rcases hdeclared names hnames with rfl | ⟨hkey, hhistorical⟩
  · rw [pick?_respell hd hne hnone, pick?_pair hnone, Option.map_id_fun, id]
  · exact pick?_respell_of_notMem hd hkey hhistorical

end Payload

/-! ## Respelled requests -/

/-- which keys of a request are written under their older names -/
structure Spelling where
  pageNumber : Bool
  pageSize : Bool
  filters : Bool
  direction : Bool
  elements : Bool
  /-- the operator of a filter without elements -/
  operator : Bool
  /-- the operator of each element, counted from zero -/
  elementOperator : Nat → Bool

namespace Spelling

variable (s : Spelling)

/-- an element, whose operator may have its older name -/
def element (older : Bool) : Json → Json
  | .obj fields => .obj (Document.respell fields older "operator" "operator_field" id)
  | v => v

/-- the elements of a filter, each in a spelling of its own -/
def elementList : Json → Json
  | .arr items => .arr (items.mapIdx fun i v => element (s.elementOperator i) v)
  | v => v

/-- a filter: its elements or, if it has none, its operator -/
def filter : Json → Json
  | .obj fields =>
    let alone := (Document.find? fields "elements").all Json.isNull
    let fields := Document.respell fields s.elements "elements" "filter_elements" s.elementList
    .obj (Document.respell fields (s.operator && alone) "operator" "operator_field" id)
  | .arr items => .arr (items.modify 4 s.elementList)
  | v => v

/-- a sort, whose direction may have its older name -/
def sort : Json → Json
  | .obj fields => .obj (Document.respell fields s.direction "direction" "way" id)
  | v => v

/-- a whole request -/
def request (fields : Document) : Document :=
  let fields := Document.respell fields false "sort" "sort" s.sort
  let fields := Document.respell fields s.filters "filters" "filter" s.filter
  let fields := Document.respell fields s.pageSize "page_size" "nbr" id
  Document.respell fields s.pageNumber "page_number" "page_nbr" id

end Spelling

/-! ## Elements -/

/-- an element is written without older names -/
def ElementPayload.Current : Json → Prop
  | .obj fields => Document.find? fields "operator_field" = none
  | _ => True

theorem ElementPayload.ofJson?_respell {v : Json} (hv : v.Ordered) (h : Current v) (older : Bool) :
    ofJson? (Spelling.element older v) = ofJson? v := by
  cases v with
  | obj fields =>
    have hfields : Document.Ordered fields := hv.fields
    have hnone : Document.find? fields "operator_field" = none := h
    simp only [Spelling.element, ofJson?, Payload.record?]
    rw [Payload.object?_respell hfields (by decide) hnone (by decide)]
  | _ => rfl

/-- the elements of a filter are written without older names -/
def ElementPayload.CurrentList : Json → Prop
  | .arr items => ∀ v ∈ items, ElementPayload.Current v
  | _ => True

theorem ElementPayload.list?_respell {v : Json} (hv : v.Ordered) (h : CurrentList v) (s : Spelling) :
    Payload.optional (Payload.list? ofJson?) (some (s.elementList v)) =
      Payload.optional (Payload.list? ofJson?) (some v) := by
  cases v with
  | arr items =>
    have hitems : ∀ i, ∀ w ∈ items, ofJson? (Spelling.element (s.elementOperator i) w) = ofJson? w := fun i w hw =>
      ofJson?_respell (Json.ordered_arr_iff.1 hv w hw) (h w hw) _
    rw [Spelling.elementList, Payload.optional_of_not_null rfl, Payload.optional_of_not_null rfl, Payload.list?,
      Payload.list?, Payload.mapM_mapIdx _ hitems]
  | _ => rfl

/-! ## Sorts -/

/-- a sort is written without older names -/
def SortPayload.Current : Json → Prop
  | .obj fields => Document.find? fields "way" = none
  | _ => True

theorem SortPayload.ofJson?_respell {v : Json} (hv : v.Ordered) (h : Current v) (s : Spelling) :
    ofJson? (s.sort v) = ofJson? v := by
  cases v with
  | obj fields =>
    have hfields : Document.Ordered fields := hv.fields
    have hnone : Document.find? fields "way" = none := h
    simp only [Spelling.sort, ofJson?, Payload.record?]
    rw [Payload.object?_respell hfields (by decide) hnone (by decide)]
  | _ => rfl

theorem SortPayload.isNull_respell (v : Json) (s : Spelling) : (s.sort v).isNull = v.isNull := by
  cases v <;> rfl

/-! ## Filters -/

namespace FilterPayload

/-- a filter is written without older names -/
def Current : Json → Prop
  | .obj fields =>
    Document.find? fields "operator_field" = none ∧ Document.find? fields "filter_elements" = none ∧
      ∀ v, Document.find? fields "elements" = some v → ElementPayload.CurrentList v
  | .arr items => ∀ v, items[4]? = some v → ElementPayload.CurrentList v
  | _ => True

/-- a filter without elements may have its operator under either name -/
theorem descriptor_operatorField (field : Option FilterField) (operator : Option String) (value : Json) :
    descriptor ⟨field, none, operator, value, none⟩ = descriptor ⟨field, operator, none, value, none⟩ := by
  cases operator with
  | none => rfl
  | some tag => simp [descriptor, isEmpty]

/-- filters of the same parts, but for elements that are read alike and the name of the operator of a single filter -/
theorem map_descriptor_ofFields? {field operator value elements elements' : Option Json} {moved : Bool}
    (helements : Payload.optional (Payload.list? ElementPayload.ofJson?) elements' =
      Payload.optional (Payload.list? ElementPayload.ofJson?) elements)
    (halone : moved = true → elements.all Json.isNull = true) :
    (ofFields? [field, if moved then none else operator, if moved then operator else none, value, elements']).map
        descriptor = (ofFields? [field, operator, none, value, elements]).map descriptor := by
  simp only [ofFields?, helements]
  cases moved with
  | false => rfl
  | true =>
    have hnone : Payload.optional (Payload.list? ElementPayload.ofJson?) elements = some none := by
      cases elements with
      | none => rfl
      | some v =>
        have hnull : v.isNull = true := halone rfl
        cases v <;> first | rfl | cases hnull
    have hmissing : Payload.optional Json.str? none = some none := rfl
    simp only [if_true, hnone, hmissing]
    cases Payload.optional FilterField.ofJson? field with
    | none => rfl
    | some f =>
      cases Payload.optional Json.str? operator with
      | none => rfl
      | some op => exact congrArg some (descriptor_operatorField f op _)

theorem object?_of_current {fields : Document} (helements : Document.find? fields "filter_elements" = none) :
    Payload.object? declared fields = some [Document.find? fields "field", Document.find? fields "operator",
      Document.find? fields "operator_field", Document.find? fields "value", Document.find? fields "elements"] := by
  simp only [Payload.object?, declared, List.mapM_cons, List.mapM_nil, Payload.pick?_single,
    Payload.pick?_pair helements]
  rfl

/-- the parts of a respelled filter -/
theorem object?_respell {fields : Document} (hfields : fields.Ordered)
    (hoperator : Document.find? fields "operator_field" = none)
    (helements : Document.find? fields "filter_elements" = none) (older moved : Bool) (f : Json → Json) :
    Payload.object? declared (Document.respell (Document.respell fields older "elements" "filter_elements" f) moved
      "operator" "operator_field" id) =
        some [Document.find? fields "field", if moved then none else Document.find? fields "operator",
          if moved then Document.find? fields "operator" else none, Document.find? fields "value",
          (Document.find? fields "elements").map f] := by
  have hinner : (Document.respell fields older "elements" "filter_elements" f).Ordered :=
    Document.ordered_respell hfields
  have hnone : Document.find? (Document.respell fields older "elements" "filter_elements" f) "operator_field" = none :=
    (Document.find?_respell_of_ne hfields (by decide) (by decide)).trans hoperator
  have hkept : Document.find? (Document.respell fields older "elements" "filter_elements" f) "operator" =
      Document.find? fields "operator" :=
    Document.find?_respell_of_ne hfields (by decide) (by decide)
  obtain ⟨hcurrent, hhistorical⟩ := Document.find?_respell_self moved id hinner
    (show "operator" ≠ "operator_field" by decide) hnone
  rw [hkept, Option.map_id_fun, id] at hcurrent hhistorical
  simp (disch := first | assumption | decide) only [Payload.object?, declared, List.mapM_cons, List.mapM_nil,
    Payload.pick?_respell_of_notMem, Payload.pick?_respell]
  rw [Payload.pick?_single, Payload.pick?_single, Payload.pick?_single, Payload.pick?_single, hcurrent, hhistorical]
  rfl

theorem map_descriptor_respell {v : Json} (hv : v.Ordered) (h : Current v) (s : Spelling) :
    (ofJson? (s.filter v)).map descriptor = (ofJson? v).map descriptor := by
  cases v with
  | obj fields =>
    obtain ⟨hoperator, helements, hlist⟩ := h
    have hfields : Document.Ordered fields := hv.fields
    have hread : Payload.optional (Payload.list? ElementPayload.ofJson?)
        ((Document.find? fields "elements").map s.elementList) =
          Payload.optional (Payload.list? ElementPayload.ofJson?) (Document.find? fields "elements") := by
      cases hfind : Document.find? fields "elements" with
      | none => rfl
      | some v => exact ElementPayload.list?_respell (hv.find? hfind) (hlist v hfind) s
    simp only [Spelling.filter, ofJson?, Payload.record?, object?_respell hfields hoperator helements,
      object?_of_current helements, hoperator, Option.bind_some]
    exact map_descriptor_ofFields? hread fun hmoved => (Bool.and_eq_true_iff.1 hmoved).2
  | arr items =>
    -- only the fifth item of an array is changed, and an array with more than five is no filter
    rcases items with
      _ | ⟨field, _ | ⟨operator, _ | ⟨operatorField, _ | ⟨value, _ | ⟨elements, _ | ⟨more, rest⟩⟩⟩⟩⟩⟩
    · rfl
    · rfl
    · rfl
    · rfl
    · rfl
    · have hread := ElementPayload.list?_respell (Json.ordered_arr_iff.1 hv elements (by simp)) (h elements rfl) s
      show (ofFields? [some field, some operator, some operatorField, some value,
          some (s.elementList elements)]).map descriptor =
        (ofFields? [some field, some operator, some operatorField, some value, some elements]).map descriptor
      simp only [ofFields?, hread]
    · rfl
  | _ => rfl

theorem isNull_respell (v : Json) (s : Spelling) : (s.filter v).isNull = v.isNull := by
  cases v <;> rfl

end FilterPayload

/-! ## Whole requests -/

namespace QueryParams

/-- a request is written without older names -/
structure Current (fields : Document) : Prop where
  pageNumber : Document.find? fields "page_nbr" = none
  pageSize : Document.find? fields "nbr" = none
  filters : Document.find? fields "filter" = none
  filter : ∀ v, Document.find? fields "filters" = some v → FilterPayload.Current v
  sort : ∀ v, Document.find? fields "sort" = some v → SortPayload.Current v

theorem object?_of_current {fields : Document} (h : Current fields) :
    Payload.object? declared fields = some [Document.find? fields "page_number", Document.find? fields "page_size",
      Document.find? fields "filters", Document.find? fields "sort"] := by
  simp only [Payload.object?, declared, PageSpec.declared, List.cons_append, List.nil_append, List.mapM_cons,
    List.mapM_nil, Payload.pick?_single, Payload.pick?_pair h.pageNumber, Payload.pick?_pair h.pageSize,
    Payload.pick?_pair h.filters]
  rfl

/-- the parts of a respelled request -/
theorem object?_request {fields : Document} (hfields : fields.Ordered) (h : Current fields) (s : Spelling) :
    Payload.object? declared (s.request fields) =
      some [Document.find? fields "page_number", Document.find? fields "page_size",
        (Document.find? fields "filters").map s.filter, (Document.find? fields "sort").map s.sort] := by
  dsimp only [Spelling.request]
  generalize hsorted : Document.respell fields false "sort" "sort" s.sort = sorted
  generalize hfiltered : Document.respell sorted s.filters "filters" "filter" s.filter = filtered
  generalize hsized : Document.respell filtered s.pageSize "page_size" "nbr" id = sized
  have hsortedOrdered : sorted.Ordered := hsorted ▸ Document.ordered_respell hfields
  have hfilteredOrdered : filtered.Ordered := hfiltered ▸ Document.ordered_respell hsortedOrdered
  have hsizedOrdered : sized.Ordered := hsized ▸ Document.ordered_respell hfilteredOrdered
  -- keys that neither the filter nor the sort has to do with
  have hkept : ∀ key, key ≠ "sort" → key ≠ "filters" → key ≠ "filter" →
      Document.find? filtered key = Document.find? fields key := by
    intro key hsort hfilters hfilter
    rw [← hfiltered, Document.find?_respell_of_ne hsortedOrdered hfilters.symm hfilter.symm, ← hsorted,
      Document.find?_respell_of_ne hfields hsort.symm hsort.symm]
  have hnumber : Document.find? filtered "page_nbr" = none := by
    rw [hkept _ (by decide) (by decide) (by decide), h.pageNumber]
  have hsize : Document.find? filtered "nbr" = none := by
    rw [hkept _ (by decide) (by decide) (by decide), h.pageSize]
  have hsizedNumber : Document.find? sized "page_nbr" = none := by
    rw [← hsized, Document.find?_respell_of_ne hfilteredOrdered (by decide) (by decide), hnumber]
  have hfilters : Payload.pick? filtered ["filters", "filter"] =
      some ((Document.find? fields "filters").map s.filter) := by
    have hnone : Document.find? sorted "filter" = none := by
      rw [← hsorted, Document.find?_respell_of_ne hfields (by decide) (by decide), h.filters]
    rw [← hfiltered, Payload.pick?_respell hsortedOrdered (by decide) hnone, ← hsorted,
      Document.find?_respell_of_ne hfields (by decide) (by decide)]
  have hsort : Document.find? filtered "sort" = (Document.find? fields "sort").map s.sort := by
    rw [← hfiltered, Document.find?_respell_of_ne hsortedOrdered (by decide) (by decide), ← hsorted,
      Document.find?_respell_value]
  rw [Payload.object?_respell hsizedOrdered (by decide) hsizedNumber (by decide), ← hsized,
    Payload.object?_respell hfilteredOrdered (by decide) hsize (by decide)]
  simp only [Payload.object?, declared, PageSpec.declared, List.cons_append, List.nil_append, List.mapM_cons,
    List.mapM_nil, Payload.pick?_single, Payload.pick?_pair hnumber, Payload.pick?_pair hsize, hfilters, hsort,
    hkept "page_number" (by decide) (by decide) (by decide), hkept "page_size" (by decide) (by decide) (by decide)]
  rfl

theorem optional_sort {fields : Document} (hv : (Json.obj fields).Ordered) (h : Current fields) (s : Spelling) :
    Payload.optional SortPayload.ofJson? ((Document.find? fields "sort").map s.sort) =
      Payload.optional SortPayload.ofJson? (Document.find? fields "sort") := by
  cases hfind : Document.find? fields "sort" with
  | none => rfl
  | some v =>
    rw [Option.map_some, Payload.optional_some, Payload.optional_some, SortPayload.isNull_respell,
      SortPayload.ofJson?_respell (hv.find? hfind) (h.sort v hfind)]

theorem map_descriptor_optional_filter {fields : Document} (hv : (Json.obj fields).Ordered) (h : Current fields)
    (s : Spelling) :
    (Payload.optional FilterPayload.ofJson? ((Document.find? fields "filters").map s.filter)).map
        (Option.map FilterPayload.descriptor) =
      (Payload.optional FilterPayload.ofJson? (Document.find? fields "filters")).map
        (Option.map FilterPayload.descriptor) := by
  cases hfind : Document.find? fields "filters" with
  | none => rfl
  | some v =>
    have hread := FilterPayload.map_descriptor_respell (hv.find? hfind) (h.filter v hfind) s
    have hwrapped := congrArg (Option.map some) hread
    rw [Option.map_map, Option.map_map] at hwrapped
    rw [Option.map_some, Payload.optional_some, Payload.optional_some, FilterPayload.isNull_respell]
    split
    · rfl
    · rw [Option.map_map, Option.map_map]
      exact hwrapped

/-- what a request asks: its page and its sort as they are, and the descriptor that its filter means -/
def asked (p : QueryParams) : PageSpec × Option SortPayload × Option (Except FilterError (Option FilterDescriptor)) :=
  (p.page, p.sort, p.filters.map FilterPayload.descriptor)

theorem map_asked_request {fields : Document} (hv : (Json.obj fields).Ordered) (h : Current fields) (s : Spelling) :
    (ofJson? (.obj (s.request fields))).map asked = (ofJson? (.obj fields)).map asked := by
  have hfilter := map_descriptor_optional_filter hv h s
  simp only [ofJson?, object?_of_current h, object?_request hv.fields h, Option.bind_some, ofFields?,
    optional_sort hv h]
  generalize PageSpec.ofFields? [Document.find? fields "page_number", Document.find? fields "page_size"] = page
  generalize Payload.optional SortPayload.ofJson? (Document.find? fields "sort") = sort
  generalize Payload.optional FilterPayload.ofJson? (Document.find? fields "filters") = filters at hfilter ⊢
  generalize Payload.optional FilterPayload.ofJson? ((Document.find? fields "filters").map s.filter) = respelled
    at hfilter ⊢
  cases page with
  | none => rfl
  | some page =>
    cases respelled <;> cases filters
    · rfl
    · cases hfilter
    · cases hfilter
    · cases sort with
      | none => rfl
      | some sort => exact congrArg (fun f => some (page, sort, f)) (Option.some.inj hfilter)

theorem descriptor_of_asked {p q : QueryParams} (h : q.asked = p.asked) : q.descriptor = p.descriptor := by
  have hfilters : q.filters.map FilterPayload.descriptor = p.filters.map FilterPayload.descriptor :=
    congrArg (fun a => a.2.2) h
  have hmeans : ∀ r : QueryParams, r.descriptor = (r.filters.map FilterPayload.descriptor).getD (.ok none) := by
    intro r
    unfold descriptor
    cases r.filters <;> rfl
  rw [hmeans, hmeans, hfilters]

theorem interpret_of_asked {p q : QueryParams} (h : q.asked = p.asked) : q.interpret = p.interpret := by
  have hpage : q.page = p.page := congrArg (fun a => a.1) h
  have hsort : q.sort = p.sort := congrArg (fun a => a.2.1) h
  rw [interpret, interpret, hpage, hsort]

/-- **Older names mean the same.** A request that is written with the current names only, and the same request with any
choice of its keys under their older names: either both are read or neither is, and if they are, their pages and sorts,
their descriptors and their pipelines are the same, errors included. -/
theorem ofJson?_request {fields : Document} (hv : (Json.obj fields).Ordered) (h : Current fields) (s : Spelling) :
    (ofJson? (.obj (s.request fields))).isSome = (ofJson? (.obj fields)).isSome ∧
      ∀ p q, ofJson? (.obj fields) = some p → ofJson? (.obj (s.request fields)) = some q →
        q.interpret = p.interpret ∧ q.descriptor = p.descriptor ∧ ∀ config, q.pipeline config = p.pipeline config := by
  have hasked := map_asked_request hv h s
  constructor
  · rw [← Option.isSome_map (f := asked), hasked, Option.isSome_map]
  · intro p q hp hq
    rw [hp, hq] at hasked
    have hsame : q.asked = p.asked := Option.some.inj hasked
    have hinterpret := interpret_of_asked hsame
    have hdescriptor := descriptor_of_asked hsame
    refine ⟨hinterpret, hdescriptor, fun config => ?_⟩
    rw [pipeline, pipeline, filter, filter, hinterpret, hdescriptor]

/-- restaurants by name or street, sorted -/
def byNameOrStreet : Document :=
  [("filters", .obj [("elements", .arr [
      .obj [("field", .str "name"), ("operator", .str "regex"), ("value", .str "pizza")],
      .obj [("field", .str "address.street"), ("operator", .str "eq"), ("value", .str "Broadway")]]),
      ("operator", .str "or")]),
    ("page_number", .nat 2), ("page_size", .nat 5), ("sort", .obj [("direction", .str "desc"), ("field", .str "name")])]

/-- restaurants on one street -/
def byStreet : Document :=
  [("filters", .obj [("field", .str "address.street"), ("operator", .str "eq"), ("value", .str "Broadway")])]

/-- everything but the operator of the first element under its older name -/
def mostlyOlder : Spelling where
  pageNumber := true
  pageSize := true
  filters := true
  direction := true
  elements := true
  operator := true
  elementOperator := fun i => i != 0

/-- two requests: elements are read alike in both spellings; an operator without elements is read into another slot, and
the pipeline is the same -/
theorem ofJson?_request_byNameOrStreet :
    let regex : ElementPayload := { field := some (.path "name"), operator := some "regex", value := .str "pizza" }
    let equal : ElementPayload :=
      { field := some (.path "address.street"), operator := some "eq", value := .str "Broadway" }
    let p : QueryParams := {
      page := ⟨some 2, some 5⟩
      filters := some { operator := some "or", elements := some [regex, equal] }
      sort := some ⟨some "name", some (.str "desc")⟩ }
    let alone : QueryParams := {
      filters := some { field := equal.field, operator := equal.operator, value := equal.value } }
    let older : QueryParams := {
      filters := some { field := equal.field, operatorField := equal.operator, value := equal.value } }
    let onBroadway := Document.single "address.street" (.str "Broadway")
    (Json.obj byNameOrStreet).Ordered ∧ Current byNameOrStreet ∧
      mostlyOlder.request byNameOrStreet =
        [("filter", .obj [("filter_elements", .arr [
            .obj [("field", .str "name"), ("operator", .str "regex"), ("value", .str "pizza")],
            .obj [("field", .str "address.street"), ("operator_field", .str "eq"), ("value", .str "Broadway")]]),
            ("operator", .str "or")]),
          ("nbr", .nat 5), ("page_nbr", .nat 2), ("sort", .obj [("field", .str "name"), ("way", .str "desc")])] ∧
      ofJson? (.obj byNameOrStreet) = some p ∧ ofJson? (.obj (mostlyOlder.request byNameOrStreet)) = some p ∧
      p.pipeline {} = .ok [
        .select [("$or", .arr [.obj [("name", .obj [("$options", .str "i"), ("$regex", .str ".*pizza.*")])],
          .obj onBroadway])],
        .sort ⟨"name", .descending⟩, .skip 5, .limit 5, .project [("_id", .int 0)]] ∧
      (Json.obj byStreet).Ordered ∧ Current byStreet ∧
      mostlyOlder.request byStreet =
        [("filter",
          .obj [("field", .str "address.street"), ("operator_field", .str "eq"), ("value", .str "Broadway")])] ∧
      ofJson? (.obj byStreet) = some alone ∧ ofJson? (.obj (mostlyOlder.request byStreet)) = some older ∧
      older.interpret = alone.interpret ∧ older.descriptor = alone.descriptor ∧ older.pipeline {} = alone.pipeline {} ∧
      alone.pipeline {} = .ok [.select onBroadway, .project [("_id", .int 0)]] := by
  have hordered : (Json.obj byNameOrStreet).Ordered := by
    simp only [byNameOrStreet, Json.nat, Json.Ordered, Json.OrderedFields, Json.OrderedItems, and_true, true_and]
    decide
  have hcurrent : Current byNameOrStreet := by
    refine ⟨rfl, rfl, rfl, ?_, ?_⟩
    · rintro v ⟨⟩
      refine ⟨rfl, rfl, ?_⟩
      rintro w ⟨⟩
      intro e he
      rcases List.mem_pair.1 he with rfl | rfl <;> rfl
    · rintro v ⟨⟩
      rfl
  have hordered' : (Json.obj byStreet).Ordered := by
    simp only [byStreet, Json.Ordered, Json.OrderedFields, and_true]
    decide
  have hcurrent' : Current byStreet := by
    refine ⟨rfl, rfl, rfl, ?_, ?_⟩
    · rintro v ⟨⟩
      refine ⟨rfl, rfl, ?_⟩
      rintro w ⟨⟩
    · rintro v ⟨⟩
  obtain ⟨-, hsame⟩ := ofJson?_request hordered' hcurrent' mostlyOlder
  obtain ⟨hinterpret, hdescriptor, hpipeline⟩ := hsame _ _ rfl rfl
  exact ⟨hordered, hcurrent, rfl, rfl, rfl, rfl, hordered', hcurrent', rfl, rfl, rfl, hinterpret, hdescriptor,
    hpipeline {}, rfl⟩

end QueryParams

end DocumentQuery
