/-
THE ORDER OF VALUES: null, then numbers, strings, objects, arrays and booleans. Numbers compare as floats, whatever
their kind; strings by code points; arrays and objects from front to back, a proper beginning first.
-/
import DocumentQuery.Json.Basic

namespace DocumentQuery

/-- numbers compare as the floats nearest to them -/
def Number.compare (a b : Number) : Ordering := Ord.compare (floatPlace a.toFloat) (floatPlace b.toFloat)

namespace Json

/-- place of a kind of value among the kinds -/
def rank : Json → Nat
  | .null => 0
  | .num _ => 1
  | .str _ => 2
  | .obj _ => 3
  | .arr _ => 4
  | .bool _ => 5

mutual

/-- order of two values -/
def compare : Json → Json → Ordering
  | .num a, .num b => a.compare b
  | .str a, .str b => Ord.compare a b
  | .bool a, .bool b => Ord.compare a b
  | .arr a, .arr b => compareItems a b
  | .obj a, .obj b => compareFields a b
  | a, b => Ord.compare a.rank b.rank

def compareItems : List Json → List Json → Ordering
  | [], [] => .eq
  | [], _ :: _ => .lt
  | _ :: _, [] => .gt
  | a :: as, b :: bs => (compare a b).then (compareItems as bs)

def compareFields : List (String × Json) → List (String × Json) → Ordering
  | [], [] => .eq
  | [], _ :: _ => .lt
  | _ :: _, [] => .gt
  | (j, a) :: as, (k, b) :: bs => (Ord.compare j k).then ((compare a b).then (compareFields as bs))

end

/-- equality under the order -/
def equal (a b : Json) : Bool := (compare a b).isEq

/-- whether a value counts as true: all but null, false and zero -/
def truthy : Json → Bool
  | .null => false
  | .bool b => b
  | .num n => floatPlace n.toFloat != 0
  | _ => true

end Json

end DocumentQuery
