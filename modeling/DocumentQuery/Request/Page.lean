/-
PAGES of requests, counted from one. Page `k` of size `s` leaves out the first `(k - 1) · s` rows and keeps the next
`s`; a size of zero, or none, means all rows.
-/
import DocumentQuery.Filter.Error
import DocumentQuery.Payload.Record

namespace DocumentQuery

/-- rows to leave out and rows to keep at most -/
structure Window where
  skip : Option Count := none
  limit : Option Count := none
  deriving DecidableEq, Repr

/-- a page as it comes in -/
structure PageSpec where
  number : Option Count := none
  size : Option Count := none
  deriving DecidableEq, Repr

namespace PageSpec

def declared : List (List String) := [["page_number", "page_nbr"], ["page_size", "nbr"]]

def ofFields? : List (Option Json) → Option PageSpec
  | [number, size] => do
    let number ← Payload.optional Json.count? number
    let size ← Payload.optional Json.count? size
    some ⟨number, size⟩
  | _ => none

def ofJson? (v : Json) : Option PageSpec := (Payload.record? declared v).bind ofFields?

/-- product that stops at the largest count -/
def boundedMul (a b : Count) : Count := UInt64.ofNatClamp (a.toNat * b.toNat)

/-- zero counts as absent -/
def positive? (n : Option Count) : Option Count := n.filter fun n => 0 < n

/-- rows of the page; page zero does not exist -/
def window (p : PageSpec) : Except FilterError Window :=
  if p.number = some 0 then .error (.pageNumber 0)
  else
    let limit := positive? p.size
    match p.number, limit with
    | some number, some size => .ok ⟨positive? (some (boundedMul (number - 1) size)), limit⟩
    | _, _ => .ok ⟨none, limit⟩

end PageSpec

end DocumentQuery
