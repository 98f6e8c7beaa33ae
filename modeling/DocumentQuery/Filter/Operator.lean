/-
OPERATORS of single filters and COMBINATORS of combined ones. Each has one tag in compiled queries and several names in
requests; a name counts with or without the dollar sign, in any case, with blanks around it.
-/
import DocumentQuery.Filter.Error
import DocumentQuery.Text

namespace DocumentQuery

/-! ## Operators -/

/-- how a single filter compares its field with its value -/
inductive Operator where
  | equals
  | notEquals
  /-- the text contains the value, whatever the case of letters -/
  | contains
  /-- the value is an array and holds the field -/
  | oneOf
  | noneOf
  | greater
  | greaterOrEqual
  | less
  | lessOrEqual
  /-- the value is an object of operators that must not all hold -/
  | negate
  /-- the field is a point, the value a greatest distance from it -/
  | near
  deriving DecidableEq, Repr

namespace Operator

/-- every operator -/
def all : List Operator :=
  [equals, notEquals, contains, oneOf, noneOf, greater, greaterOrEqual, less, lessOrEqual, negate, near]

/-- tag in compiled queries -/
def tag : Operator → String
  | equals => "$eq"
  | notEquals => "$ne"
  | contains => "$regex"
  | oneOf => "$in"
  | noneOf => "$nin"
  | greater => "$gt"
  | greaterOrEqual => "$gte"
  | less => "$lt"
  | lessOrEqual => "$lte"
  | negate => "$not"
  | near => "$geoNear"

def isProximity : Operator → Bool
  | near => true
  | _ => false

/-- the operator with a plain name -/
def ofName? : String → Option Operator
  | "eq" | "equals" => some equals
  | "ne" | "neq" | "not_equals" => some notEquals
  | "regex" | "contains" | "like" => some contains
  | "in" => some oneOf
  | "nin" | "not_in" => some noneOf
  | "gt" => some greater
  | "gte" => some greaterOrEqual
  | "lt" => some less
  | "lte" => some lessOrEqual
  | "not" => some negate
  | "geonear" | "geo_near" | "near" => some near
  | _ => none

/-- the operator that a request names -/
def parse (tag : String) : Except FilterError Operator :=
  match ofName? (Text.plainTag tag) with
  | some op => .ok op
  | none => .error (.unknownOperator tag)

end Operator

/-! ## Combinators -/

/-- how a combined filter joins its elements -/
inductive Combinator where
  | and
  | or
  /-- none of the elements holds -/
  | nor
  deriving DecidableEq, Repr

namespace Combinator

def all : List Combinator := [and, or, nor]

/-- tag in compiled queries -/
def tag : Combinator → String
  | and => "$and"
  | or => "$or"
  | nor => "$nor"

/-- the combinator with a plain name -/
def ofName? : String → Option Combinator
  | "and" => some and
  | "or" => some or
  | "nor" => some nor
  | _ => none

/-- the combinator that a request names -/
def parse (tag : String) : Except FilterError Combinator :=
  match ofName? (Text.plainTag tag) with
  | some c => .ok c
  | none => .error (.unknownCombinator tag)

/-- the predicates joined under the combinator; nothing to join leaves the empty predicate, which always holds -/
def combine (c : Combinator) (fragments : List Document) : Document :=
  if fragments.isEmpty then [] else Document.single c.tag (.arr (fragments.map .obj))

end Combinator

/-! ## Objects of operators -/

/-- whether all keys of an object, and at least one, are written like operators -/
def isOperatorObject (fields : Document) : Bool := !fields.isEmpty && fields.all fun f => Text.isOperatorKey f.1

/-! ## Conjunction -/

/-- both predicates; an empty one is left out -/
def conjoin (left right : Document) : Document :=
  if left.isEmpty then right
  else if right.isEmpty then left
  else Combinator.and.combine [left, right]

end DocumentQuery
