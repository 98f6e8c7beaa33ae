/-
SORTS of requests: a field and a direction. A payload with only one of the two is no sort, unless one is required.
-/
import DocumentQuery.Filter.Error
import DocumentQuery.Payload.Record
import DocumentQuery.Text

namespace DocumentQuery

inductive SortDirection where
  | ascending
  | descending
  deriving DecidableEq, Repr

namespace SortDirection

/-- one or minus one -/
def toInt : SortDirection → Int
  | ascending => 1
  | descending => -1

def ofName? : String → Option SortDirection
  | "asc" | "ascending" | "1" => some ascending
  | "desc" | "descending" | "-1" => some descending
  | _ => none

def ofJson? : Json → Option SortDirection
  | .num n =>
    match n.int? with
    | some 1 => some ascending
    | some (-1) => some descending
    | _ => none
  | .str s => ofName? (Text.lower (Text.trim s))
  | _ => none

/-- the direction that a value stands for: the integers 1 and -1, or a name in any case with blanks around it -/
def parse (v : Json) : Except FilterError SortDirection :=
  match ofJson? v with
  | some d => .ok d
  | none => .error (.sortDirection v)

end SortDirection

/-- a sort by one field -/
structure SortSpec where
  field : String
  direction : SortDirection
  deriving DecidableEq, Repr

/-- the sort as the body of a stage -/
def SortSpec.toDocument (s : SortSpec) : Document := Document.single s.field (.int s.direction.toInt)

/-- a sort as it comes in -/
structure SortPayload where
  field : Option String := none
  direction : Option Json := none

namespace SortPayload

def declared : List (List String) := [["field"], ["direction", "way"]]

def ofFields? : List (Option Json) → Option SortPayload
  | [field, direction] => do
    let field ← Payload.optional Json.str? field
    let direction ← Payload.optional some direction
    some ⟨field, direction⟩
  | _ => none

def ofJson? (v : Json) : Option SortPayload := (Payload.record? declared v).bind ofFields?

/-- the field without blanks around it, if anything is left -/
def trimmedField? (p : SortPayload) : Option String := (p.field.map Text.trim).filter fun f => !f.isEmpty

/-- the direction, unless it is null -/
def givenDirection? (p : SortPayload) : Option Json := p.direction.filter fun d => !d.isNull

/-- the sort that a payload means; one part alone means none -/
def resolve (p : SortPayload) : Except FilterError (Option SortSpec) :=
  match p.trimmedField?, p.givenDirection? with
  | some field, some direction => do
    let direction ← SortDirection.parse direction
    .ok (some ⟨field, direction⟩)
  | _, _ => .ok none

/-- the sort of a payload that has to have both parts -/
def require (p : SortPayload) : Except FilterError SortSpec := do
  match ← p.resolve with
  | some s => .ok s
  | none => .error (.incompleteSort p.field p.direction)

end SortPayload

end DocumentQuery
