/-
FILTER DESCRIPTORS, from the payload of a request to their validated form.

A descriptor is single, `field operator value`, or combined, a combinator over single ones. `FilterPayload.descriptor`
decides which of the two a payload means and refuses what is neither; an empty payload means no filter.
-/
import DocumentQuery.Filter.Operator
import DocumentQuery.Payload.Record

namespace DocumentQuery

/-! ## Descriptors -/

/-- what a single filter looks at: a dotted path, or the point `[lng, lat]` of a proximity filter -/
inductive FilterField where
  | path (path : String)
  | coordinates (numbers : List Float)
  deriving DecidableEq

namespace FilterField

def path? : FilterField → Option String
  | path p => some p
  | coordinates _ => none

def toJson : FilterField → Json
  | path p => .str p
  | coordinates numbers => .arr (numbers.map .float)

/-- a text is a path, an array of numbers gives coordinates -/
def ofJson? : Json → Option FilterField
  | .str p => some (path p)
  | .arr items => (items.mapM Json.float?).map coordinates
  | _ => none

end FilterField

/-- one condition on one field -/
structure SingleFilter where
  field : FilterField
  operator : Operator
  value : Json

namespace SingleFilter

/-- documents at most `maxDistance` metres from a point -/
def near (lng lat maxDistance : Float) : SingleFilter :=
  ⟨.coordinates [lng, lat], .near, .float maxDistance⟩

/-- documents between two distances in metres from a point -/
def within (lng lat minDistance maxDistance : Float) : SingleFilter :=
  ⟨.coordinates [lng, lat], .near, .obj [("max", .float maxDistance), ("min", .float minDistance)]⟩

/-- documents at most `maxDistance` metres from a point, and not nearer than `minDistance` if there is one -/
def around (lng lat : Float) (minDistance : Option Float) (maxDistance : Float) : SingleFilter :=
  match minDistance with
  | some least => within lng lat least maxDistance
  | none => near lng lat maxDistance

end SingleFilter

/-- conditions under one combinator -/
structure CombinedFilter where
  combinator : Combinator
  elements : List SingleFilter

/-- what a request filters by; no filter is the absence of a descriptor -/
inductive FilterDescriptor where
  | single (filter : SingleFilter)
  | combined (filter : CombinedFilter)

/-! ## Payloads -/

/-- one element of a combined filter as it comes in -/
structure ElementPayload where
  field : Option FilterField := none
  operator : Option String := none
  value : Json := .null

namespace ElementPayload

def declared : List (List String) := [["field"], ["operator", "operator_field"], ["value"]]

def ofFields? : List (Option Json) → Option ElementPayload
  | [field, operator, value] => do
    let field ← Payload.optional FilterField.ofJson? field
    let operator ← Payload.optional Json.str? operator
    some ⟨field, operator, value.getD .null⟩
  | _ => none

def ofJson? (v : Json) : Option ElementPayload := (Payload.record? declared v).bind ofFields?

/-- the filter that an element means; the operator is judged before the field -/
def single (e : ElementPayload) : Except FilterError SingleFilter := do
  match e.operator with
  | none => .error (.missingPart "operator")
  | some tag =>
    let operator ← Operator.parse tag
    match e.field with
    | none => .error (.missingPart "field")
    | some field => .ok ⟨field, operator, e.value⟩

end ElementPayload

/-- a filter as it comes in: the keys of both shapes -/
structure FilterPayload where
  field : Option FilterField := none
  /-- operator of a single filter, combinator of a combined one -/
  operator : Option String := none
  operatorField : Option String := none
  value : Json := .null
  elements : Option (List ElementPayload) := none

namespace FilterPayload

def declared : List (List String) :=
  [["field"], ["operator"], ["operator_field"], ["value"], ["elements", "filter_elements"]]

def ofFields? : List (Option Json) → Option FilterPayload
  | [field, operator, operatorField, value, elements] => do
    let field ← Payload.optional FilterField.ofJson? field
    let operator ← Payload.optional Json.str? operator
    let operatorField ← Payload.optional Json.str? operatorField
    let elements ← Payload.optional (Payload.list? ElementPayload.ofJson?) elements
    some ⟨field, operator, operatorField, value.getD .null, elements⟩
  | _ => none

def ofJson? (v : Json) : Option FilterPayload := (Payload.record? declared v).bind ofFields?

/-- whether nothing was given at all -/
def isEmpty (p : FilterPayload) : Bool :=
  p.field.isNone && p.operator.isNone && p.operatorField.isNone && p.value.isNull && p.elements.isNone

/-- the descriptor that a payload means, if it means any -/
def descriptor (p : FilterPayload) : Except FilterError (Option FilterDescriptor) :=
  if p.isEmpty then .ok none
  else
    match p.elements with
    | some elements => do
      if p.field.isSome || p.operatorField.isSome || !p.value.isNull then .error .mixedShapes
      else
        match p.operator with
        | none => .error (.missingPart "operator")
        | some tag =>
          let combinator ← Combinator.parse tag
          let singles ← elements.mapM ElementPayload.single
          .ok (some (.combined ⟨combinator, singles⟩))
    | none => do
      let filter ← ElementPayload.single ⟨p.field, p.operatorField.or p.operator, p.value⟩
      .ok (some (.single filter))

end FilterPayload

/-- the descriptor in any JSON payload; null means no filter -/
def FilterDescriptor.ofJson (v : Json) : Except FilterError (Option FilterDescriptor) :=
  if v.isNull then .ok none
  else
    match FilterPayload.ofJson? v with
    | some p => p.descriptor
    | none => .error (.malformed "the payload is not written like a filter")

/-! ## Writing -/

namespace SingleFilter

/-- a single filter as a payload -/
def toJson (f : SingleFilter) : Json :=
  .obj [("field", f.field.toJson), ("operator", .str f.operator.tag), ("value", f.value)]

end SingleFilter

/-- a descriptor as a payload -/
def FilterDescriptor.toJson : FilterDescriptor → Json
  | .single f => f.toJson
  | .combined c =>
    .obj [("elements", .arr (c.elements.map SingleFilter.toJson)), ("operator", .str c.combinator.tag)]

end DocumentQuery
