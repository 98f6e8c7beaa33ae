/-
COMPILING FILTERS to the query shapes of a document store: a predicate, or a proximity anchor with the other conditions
inside of it. Everything that can be wrong with a filter is found here.
-/
import DocumentQuery.Filter.Descriptor
import DocumentQuery.Filter.Proximity
import DocumentQuery.Pattern.Escape

namespace DocumentQuery

/-! ## Single filters -/

/-- what a compiled single filter demands of the values of its field -/
inductive Constraint where
  | equals (value : Json)
  | compare (operator : Operator) (value : Json)
  | pattern (text : String) (ignoreCase : Bool)

/-- the constraint as the condition of a predicate -/
def Constraint.toJson : Constraint → Json
  | equals value => value
  | compare operator value => .obj [(operator.tag, value)]
  | pattern text true => .obj [("$options", .str "i"), ("$regex", .str text)]
  | pattern text false => .obj [("$regex", .str text)]

/-- a condition on one field -/
structure FieldCondition where
  field : String
  constraint : Constraint

def FieldCondition.toDocument (c : FieldCondition) : Document := Document.single c.field c.constraint.toJson

/-- a compiled single filter -/
inductive Fragment where
  | condition (c : FieldCondition)
  | anchor (a : ProximityAnchor)

def Fragment.toDocument : Fragment → Document
  | condition c => c.toDocument
  | anchor a => a.toDocument

/-- text of a value that can be searched for -/
def searchText? : Json → Option String
  | .str s => some s
  | .num n => some n.text
  | .bool b => some (if b then "true" else "false")
  | _ => none

/-- pattern that finds a value anywhere in a line -/
def containsPattern? (value : Json) (mode : ContainsMode) : Option String :=
  (searchText? value).map fun text =>
    ".*" ++ (match mode with
      | .literal => Pattern.escape text
      | .pattern => text) ++ ".*"

namespace SingleFilter

/-- the field as it is shown in messages -/
def shownField (f : SingleFilter) : String :=
  match f.field with
  | .path p => p
  | .coordinates _ => f.field.toJson.compact

def shapeError (f : SingleFilter) (expected : String) : FilterError :=
  .valueShape f.shownField f.operator.tag f.value expected

def fieldError (f : SingleFilter) : FilterError := .fieldKind f.operator.tag f.field.toJson

/-- the path of a filter that needs one; blanks alone are no path -/
def fieldPath (f : SingleFilter) : Except FilterError String :=
  match f.field with
  | .path p => if (Text.trimChars p.toList).isEmpty then .error f.fieldError else .ok p
  | .coordinates _ => .error f.fieldError

/-- a distance: a finite number, not below zero -/
def distance? (v : Json) : Option Float := v.float?.filter fun x => isFinite x && 0 ≤ floatPlace x

/-- least and greatest distance of a proximity filter: the greatest alone, or an object with `max` and perhaps `min` -/
def distances? : Json → Option (Option Float × Float)
  | .obj range => do
    let most ← (Document.find? range "max").bind distance?
    match Document.find? range "min" with
    | none => some (none, most)
    | some .null => some (none, most)
    | some v =>
      let least ← distance? v
      if floatPlace least ≤ floatPlace most then some (some least, most) else none
  | v => (distance? v).map fun most => (none, most)

/-- whether a float lies between two others, ends included -/
def between (low x high : Float) : Bool := floatPlace low ≤ floatPlace x && floatPlace x ≤ floatPlace high

/-- the point of a proximity filter: two numbers, a longitude and a latitude in degrees -/
def point? (f : SingleFilter) : Option (Float × Float) :=
  match f.field with
  | .coordinates [lng, lat] => if between (-180) lng 180 && between (-90) lat 90 then some (lng, lat) else none
  | _ => none

/-- compiles a proximity filter; the point is judged before the distances -/
def compileNear (f : SingleFilter) (config : Config) : Except FilterError ProximityAnchor :=
  match f.point? with
  | none => .error f.fieldError
  | some (lng, lat) =>
    match distances? f.value with
    | none => .error (f.shapeError "a non-negative number or \x7b\"min\", \"max\"\x7d")
    | some (least, most) => .ok { ProximityAnchor.new lng lat most config with minDistance := least }

/-- the constraint that an operator other than proximity makes of the value -/
def constraint (f : SingleFilter) (config : Config) : Except FilterError Constraint :=
  match f.operator with
  | .equals => .ok (.equals f.value)
  | .contains =>
    match containsPattern? f.value config.containsMode with
    | some text => .ok (.pattern text true)
    | none => .error (f.shapeError "a string, number or boolean")
  | .oneOf | .noneOf => if f.value.isArr then .ok (.compare f.operator f.value) else .error (f.shapeError "an array")
  | .negate =>
    match f.value with
    | .obj fields =>
      if isOperatorObject fields then .ok (.compare f.operator f.value) else .error (f.shapeError "an operator object")
    | _ => .error (f.shapeError "an operator object")
  | _ => .ok (.compare f.operator f.value)

/-- compiles a single filter; the value is judged before the field -/
def compile (f : SingleFilter) (config : Config) : Except FilterError Fragment :=
  if f.operator.isProximity then do
    let a ← f.compileNear config
    .ok (.anchor a)
  else do
    let constraint ← f.constraint config
    let field ← f.fieldPath
    .ok (.condition ⟨field, constraint⟩)

end SingleFilter

/-! ## Descriptors -/

/-- a compiled filter -/
inductive CompiledFilter where
  /-- there was no filter -/
  | unconstrained
  | predicate (p : Document)
  | anchored (a : ProximityAnchor)

namespace CompiledFilter

def isAnchored : CompiledFilter → Bool
  | anchored _ => true
  | _ => false

/-- the predicate for operations that cannot search by distance -/
def toPredicate : CompiledFilter → Except FilterError Document
  | unconstrained => .ok []
  | predicate p => .ok p
  | anchored _ => .error .anchorNotAllowed

/-- the predicate on single documents: the embedded query of an anchor -/
def query : CompiledFilter → Document
  | unconstrained => []
  | predicate p => p
  | anchored a => a.query

end CompiledFilter

/-- predicates of the fragments, and the last anchor among them -/
def sortFragments (fragments : List Fragment) : List Document × Option ProximityAnchor :=
  fragments.foldr (fun fragment (documents, anchor) =>
    match fragment with
    | .condition c => (c.toDocument :: documents, anchor)
    | .anchor a => (documents, anchor.or (some a))) ([], none)

/-- compiles a combined filter: too many anchors are found first, then the first wrong element -/
def CombinedFilter.compile (f : CombinedFilter) (config : Config) : Except FilterError CompiledFilter := do
  let anchors := f.elements.countP fun e => e.operator.isProximity
  if 1 < anchors then .error (.severalAnchors anchors)
  else
    let fragments ← f.elements.mapM (SingleFilter.compile · config)
    match sortFragments fragments with
    | (documents, some a) => .ok (.anchored (a.fold f.combinator documents))
    | (documents, none) => .ok (.predicate (f.combinator.combine documents))

/-- a compiled single filter on its own -/
def Fragment.toFilter : Fragment → CompiledFilter
  | condition c => .predicate c.toDocument
  | anchor a => .anchored a

/-- compiles what a request filters by -/
def compileFilter (descriptor : Option FilterDescriptor) (config : Config) : Except FilterError CompiledFilter :=
  match descriptor with
  | none => .ok .unconstrained
  | some (.single f) => (f.compile config).map Fragment.toFilter
  | some (.combined f) => f.compile config

end DocumentQuery
