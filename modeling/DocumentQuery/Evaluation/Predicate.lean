/-
PREDICATES on documents. A predicate is a document: a field names a path and the condition on its values, or joins other
predicates. Fields are judged in order, and the first one that fails, or cannot be judged, ends the evaluation.

- a condition that is an object of operators asks for all of them; any other value asks for equality;
- conditions look at the values of a path and at the items of those that are arrays.
-/
import DocumentQuery.Filter.Operator
import DocumentQuery.Geometry.Area
import DocumentQuery.Json.Order
import DocumentQuery.Path.Basic
import DocumentQuery.Pattern.Occurrence
import DocumentQuery.Pattern.Reader
import DocumentQuery.Store.Error

namespace DocumentQuery

/-- the result of judging something about a document -/
abbrev Verdict := Except StoreError Bool

/-! ## Conditions -/

/-- each value, followed by its items if it is an array -/
def expand (values : List Json) : List Json := values.flatMap fun v => v :: v.arr?.getD []

/-- whether some value equals the target; when there is none, whether the target is null -/
def equalsAny (values : List Json) (target : Json) : Bool :=
  if values.isEmpty then target.isNull else (expand values).any fun v => v.equal target

/-- whether some value of the target's kind stands to it as asked -/
def comparesAny (accept : Ordering → Bool) (values : List Json) (target : Json) : Bool :=
  (expand values).any fun v => v.rank == target.rank && accept (v.compare target)

/-- whether some value equals some item of the operand, which has to be an array -/
def memberOf (values : List Json) : Json → Verdict
  | .arr items => .ok (items.any (equalsAny values))
  | _ => .error (.invalidPipeline .membershipList)

/-- flag letters for a pattern, from the field beside it -/
def optionsOf (siblings : Document) : String := ((Document.find? siblings "$options").bind Json.str?).getD ""

/-- whether the pattern occurs in some value that is a text -/
def matchesPattern (values : List Json) (operand : Json) (options : String) : Verdict :=
  match operand with
  | .str text =>
    match Pattern.read? (Flags.ofOptions options) text with
    | some p => .ok ((expand values).any fun v => v.str?.any p.occursIn)
    | none => .error (.invalidPattern text .refused)
  | v => .error (.invalidPattern v.compact .notText)

/-- whether some value is a geometry that holds the point of the operand -/
def holdsPoint (values : List Json) (operand : Json) : Verdict :=
  match (operand.field? "$geometry").bind Point.ofJson? with
  | some p => .ok (values.any (containsPoint · p))
  | none => .error (.unsupportedOperator "$geoIntersects without a Point")

/-- operators of a condition, apart from negation -/
inductive ConditionOperator where
  | eq
  | ne
  | gt
  | gte
  | lt
  | lte
  | oneOf
  | noneOf
  | regex
  /-- belongs to `regex` and holds by itself -/
  | options
  | present
  | intersects
  deriving DecidableEq, Repr

def ConditionOperator.ofKey? : String → Option ConditionOperator
  | "$eq" => some eq
  | "$ne" => some ne
  | "$gt" => some gt
  | "$gte" => some gte
  | "$lt" => some lt
  | "$lte" => some lte
  | "$in" => some oneOf
  | "$nin" => some noneOf
  | "$regex" => some regex
  | "$options" => some options
  | "$exists" => some present
  | "$geoIntersects" => some intersects
  | _ => none

/-- one operator on the values of a path -/
def ConditionOperator.holds (op : ConditionOperator) (values : List Json) (operand : Json) (siblings : Document) :
    Verdict :=
  match op with
  | eq => .ok (equalsAny values operand)
  | ne => .ok (!equalsAny values operand)
  | gt => .ok (comparesAny Ordering.isGT values operand)
  | gte => .ok (comparesAny Ordering.isGE values operand)
  | lt => .ok (comparesAny Ordering.isLT values operand)
  | lte => .ok (comparesAny Ordering.isLE values operand)
  | oneOf => memberOf values operand
  | noneOf => (memberOf values operand).map (!·)
  | regex => matchesPattern values operand (optionsOf siblings)
  | options => .ok true
  | present => .ok (values.isEmpty != operand.truthy)
  | intersects => holdsPoint values operand

mutual

/-- whether values meet a condition -/
def meets (values : List Json) : Json → Verdict
  | .obj fields =>
    if isOperatorObject fields then meetsAll values fields fields else .ok (equalsAny values (.obj fields))
  | v => .ok (equalsAny values v)

/-- whether values meet every operator of a list, which stands beside the given siblings -/
def meetsAll (values : List Json) (siblings : Document) : List (String × Json) → Verdict
  | [] => .ok true
  | (key, operand) :: rest => do
    let ok ←
      if key = "$not" then do
        let inner ← meets values operand
        .ok (!inner)
      else
        match ConditionOperator.ofKey? key with
        | some op => op.holds values operand siblings
        | none => .error (.unsupportedOperator key)
    if ok then meetsAll values siblings rest else .ok false

end

/-! ## Predicates -/

/-- a combinator by its tag in a predicate -/
def Combinator.ofKey? : String → Option Combinator
  | "$and" => some .and
  | "$or" => some .or
  | "$nor" => some .nor
  | _ => none

/-- branches under a combinator have to be an array of objects -/
def branchFault? : Json → Option PipelineFault
  | .arr items => if items.all Json.isObj then none else some .branchShape
  | _ => some .branchList

mutual

/-- whether a document satisfies a predicate -/
def satisfies (d : Document) : List (String × Json) → Verdict
  | [] => .ok true
  | (key, condition) :: rest => do
    let ok ←
      match Combinator.ofKey? key with
      | some c =>
        match branchFault? condition with
        | some fault => .error (.invalidPipeline fault)
        | none => satisfiesJoined d c condition
      | none =>
        if Text.isOperatorKey key then .error (.unsupportedOperator key)
        else meets (Document.resolve d key) condition
    if ok then satisfies d rest else .ok false

/-- whether a document satisfies branches under a combinator -/
def satisfiesJoined (d : Document) (c : Combinator) : Json → Verdict
  | .arr branches =>
    match c with
    | .and => satisfiesEvery d branches
    | .or => satisfiesSome d branches
    | .nor => (satisfiesSome d branches).map (!·)
  | _ => .ok true

/-- whether a document satisfies one branch -/
def satisfiesBranch (d : Document) : Json → Verdict
  | .obj fields => satisfies d fields
  | _ => .ok true

/-- whether every branch is satisfied; the first that is not ends the evaluation -/
def satisfiesEvery (d : Document) : List Json → Verdict
  | [] => .ok true
  | branch :: rest => do
    let ok ← satisfiesBranch d branch
    if ok then satisfiesEvery d rest else .ok false

/-- whether some branch is satisfied; the first that is ends the evaluation -/
def satisfiesSome (d : Document) : List Json → Verdict
  | [] => .ok false
  | branch :: rest => do
    let ok ← satisfiesBranch d branch
    if ok then .ok true else satisfiesSome d rest

end

end DocumentQuery
