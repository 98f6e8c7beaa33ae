/-
DOCUMENTS. A JSON value is a tree; a document is the list of the fields of an object, in increasing order of keys.

- integers and floats are different numbers even when they are equal in value;
- `Document.find?`, `insert` and `erase` read and write one field and keep the order;
- `Document.Ordered` and `Json.Ordered` say that keys increase, here and at every depth.
-/
import DocumentQuery.Decimal.Nearest

namespace DocumentQuery

/-! ## Values -/

/-- a number: an integer of 64 bits, signed or not, or a finite float -/
inductive Number where
  | int (n : Int)
  | float (x : Float)
  deriving DecidableEq

/-- how many rows or pages: a number of 64 bits without a sign -/
abbrev Count := UInt64

/-- a JSON value -/
inductive Json where
  | null
  | bool (b : Bool)
  | num (n : Number)
  | str (s : String)
  | arr (items : List Json)
  | obj (fields : List (String × Json))

instance : Inhabited Json := ⟨.null⟩

/-- the fields of an object, a predicate, a stage or a mutation -/
abbrev Document := List (String × Json)

namespace Json

/-- a natural number -/
def nat (n : Nat) : Json := .num (.int n)

/-- a count -/
def count (n : Count) : Json := nat n.toNat

/-- an integer -/
def int (n : Int) : Json := .num (.int n)

/-- a float; a value that is not finite has no JSON number and becomes null -/
def float (x : Float) : Json := if isFinite x then .num (.float x) else .null

/-- an optional value, null when absent -/
def ofOption {α : Type} (f : α → Json) : Option α → Json
  | some a => f a
  | none => .null

def isNull : Json → Bool
  | .null => true
  | _ => false

def isArr : Json → Bool
  | .arr _ => true
  | _ => false

def isObj : Json → Bool
  | .obj _ => true
  | _ => false

def isStr : Json → Bool
  | .str _ => true
  | _ => false

def str? : Json → Option String
  | .str s => some s
  | _ => none

def bool? : Json → Option Bool
  | .bool b => some b
  | _ => none

def arr? : Json → Option (List Json)
  | .arr items => some items
  | _ => none

def obj? : Json → Option Document
  | .obj fields => some fields
  | _ => none

end Json

/-! ## Numbers -/

namespace Number

/-- largest number of 64 bits -/
def maxNat64 : Nat := Nat.pow 2 64 - 1

/-- value as a float, an integer being rounded to the nearest one -/
def toFloat : Number → Float
  | .int n => nearestInt n
  | .float x => x

/-- equality of stored numbers: integers as integers, floats as floats, both zeros alike, never one kind with the
other -/
def same : Number → Number → Bool
  | .int a, .int b => a == b
  | .float x, .float y => floatPlace x == floatPlace y
  | _, _ => false

/-- an integer that fits 64 bits without a sign -/
def nat? : Number → Option Nat
  | .int n => if 0 ≤ n ∧ n ≤ maxNat64 then some n.toNat else none
  | .float _ => none

/-- an integer that fits 64 bits with a sign -/
def int? : Number → Option Int
  | .int n => if -Int.pow 2 63 ≤ n ∧ n < Int.pow 2 63 then some n else none
  | .float _ => none

end Number

namespace Json

def float? : Json → Option Float
  | .num n => some n.toFloat
  | _ => none

def nat? : Json → Option Nat
  | .num n => n.nat?
  | _ => none

def int? : Json → Option Int
  | .num n => n.int?
  | _ => none

def count? (v : Json) : Option Count := v.nat?.map UInt64.ofNat

/-! ## Equality of stored values -/

mutual

/-- equality of stored values: as trees, with numbers compared by `Number.same` -/
def same : Json → Json → Bool
  | .null, .null => true
  | .bool a, .bool b => a == b
  | .num a, .num b => a.same b
  | .str a, .str b => a == b
  | .arr a, .arr b => sameItems a b
  | .obj a, .obj b => sameFields a b
  | _, _ => false

def sameItems : List Json → List Json → Bool
  | [], [] => true
  | a :: as, b :: bs => same a b && sameItems as bs
  | _, _ => false

def sameFields : List (String × Json) → List (String × Json) → Bool
  | [], [] => true
  | (j, a) :: as, (k, b) :: bs => j == k && (same a b && sameFields as bs)
  | _, _ => false

end

end Json

/-! ## Fields -/

namespace Document

/-- value of a field -/
def find? : Document → String → Option Json
  | [], _ => none
  | (k, v) :: rest, key => if k = key then some v else find? rest key

def hasKey (d : Document) (key : String) : Bool := (find? d key).isSome

/-- sets a field, keeping the keys in order -/
def insert : Document → String → Json → Document
  | [], key, value => [(key, value)]
  | (k, v) :: rest, key, value =>
    if k = key then (key, value) :: rest
    else if key < k then (key, value) :: (k, v) :: rest
    else (k, v) :: insert rest key value

/-- drops a field -/
def erase : Document → String → Document
  | [], _ => []
  | (k, v) :: rest, key => if k = key then rest else (k, v) :: erase rest key

/-- the document with one field -/
def single (key : String) (value : Json) : Document := [(key, value)]

/-- fields in any order; of two with one key the later one wins -/
def ofList (fields : List (String × Json)) : Document := fields.foldl (fun d f => insert d f.1 f.2) []


/-- keys strictly increase -/
def Ordered (d : Document) : Prop := d.Pairwise (fun a b => a.1 < b.1)

instance (d : Document) : Decidable d.Ordered := inferInstanceAs (Decidable (List.Pairwise _ d))

end Document

namespace Json

/-- field of a value that is an object -/
def field? (v : Json) (key : String) : Option Json := v.obj?.bind (Document.find? · key)

mutual

/-- keys increase at every depth -/
def Ordered : Json → Prop
  | .arr items => OrderedItems items
  | .obj fields => Document.Ordered fields ∧ OrderedFields fields
  | _ => True

def OrderedItems : List Json → Prop
  | [] => True
  | v :: rest => Ordered v ∧ OrderedItems rest

def OrderedFields : List (String × Json) → Prop
  | [] => True
  | (_, v) :: rest => Ordered v ∧ OrderedFields rest

end

end Json

end DocumentQuery
