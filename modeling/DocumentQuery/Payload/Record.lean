/-
PAYLOADS with declared fields. An object gives each field under its name or one of its older names, but not under two of
them, and may hold other keys; an array gives the fields in the order of their declaration and may stop early. What a
missing field means is for the field to say: `optional` and `orElse` have an answer, `required` has none.
-/
import DocumentQuery.Json.Basic

namespace DocumentQuery.Payload

/-- value under one of the names of a field; refused when two of them are present -/
def pick? (fields : Document) (names : List String) : Option (Option Json) :=
  match names.filterMap (Document.find? fields) with
  | [] => some none
  | [v] => some (some v)
  | _ => none

/-- the declared fields of an object -/
def object? (declared : List (List String)) (fields : Document) : Option (List (Option Json)) :=
  declared.mapM (pick? fields)

/-- the declared fields of an array -/
def tuple? (declared : List (List String)) (items : List Json) : Option (List (Option Json)) :=
  if items.length ≤ declared.length then
    some (items.map some ++ List.replicate (declared.length - items.length) none)
  else none

/-- the declared fields of a payload, in either form -/
def record? (declared : List (List String)) : Json → Option (List (Option Json))
  | .obj fields => object? declared fields
  | .arr items => tuple? declared items
  | _ => none

/-! ## Fields -/

/-- a field that may be missing or null -/
def optional {α : Type} (read : Json → Option α) : Option Json → Option (Option α)
  | none => some none
  | some .null => some none
  | some v => (read v).map some

/-- a field that stands for a value when it is missing; null is a value of its own -/
def orElse {α : Type} (missing : α) (read : Json → Option α) : Option Json → Option α
  | none => some missing
  | some v => read v

/-- a field that has to be present -/
def required {α : Type} (read : Json → Option α) : Option Json → Option α
  | none => none
  | some v => read v

/-- an array of values of one kind -/
def list? {α : Type} (read : Json → Option α) : Json → Option (List α)
  | .arr items => items.mapM read
  | _ => none

end DocumentQuery.Payload
