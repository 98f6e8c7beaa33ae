/-
WHAT CAN BE WRONG WITH A REQUEST: its filter, its sort or its page. All of these causes are found before any document is
looked at. `message` words a cause, and `details` echoes the part of the request that is at fault.
-/
import DocumentQuery.Json.Printer

namespace DocumentQuery

/-- a cause for refusing a request -/
inductive FilterError where
  /-- the value does not have the shape that the operator needs -/
  | valueShape (field operator : String) (value : Json) (expected : String)
  /-- a path where coordinates are needed, or the other way round -/
  | fieldKind (operator : String) (field : Json)
  | unknownOperator (tag : String)
  | unknownCombinator (tag : String)
  /-- more than one proximity element in a combined filter -/
  | severalAnchors (count : Nat)
  /-- keys of a single and of a combined filter together -/
  | mixedShapes
  | missingPart (part : String)
  /-- the payload is not written like a filter -/
  | malformed (reason : String)
  /-- a sort that has to be complete lacks its field or its direction -/
  | incompleteSort (field : Option String) (direction : Option Json)
  | sortDirection (direction : Json)
  | pageNumber (page : Nat)
  /-- a proximity filter where only a predicate can be used -/
  | anchorNotAllowed

namespace FilterError

/-- the cause in words -/
def message : FilterError → String
  | valueShape field operator _ expected =>
    "value for `" ++ field ++ "` with operator `" ++ operator ++ "` should be " ++ expected
  | fieldKind operator field => "operator `" ++ operator ++ "` cannot be applied to field " ++ field.compact
  | unknownOperator tag => "unknown operator `" ++ tag ++ "`"
  | unknownCombinator tag => "unknown combinator `" ++ tag ++ "`"
  | severalAnchors count =>
    "combined filter holds " ++ toString count ++ " proximity elements, at most one is allowed"
  | mixedShapes => "filter mixes single filter keys with combined filter elements"
  | missingPart part => "filter is missing `" ++ part ++ "`"
  | malformed reason => "malformed filter: " ++ reason
  | incompleteSort _ _ => "sort requires both a field and a direction"
  | sortDirection direction =>
    "sort direction " ++ direction.compact ++ " is not one of 1, -1, \"asc\", \"desc\""
  | pageNumber page => "page number must be at least 1, got " ++ toString page
  | anchorNotAllowed => "proximity filters can only be used in aggregation queries"

/-- the part of the request that is at fault, null when the cause is about its shape alone -/
def details : FilterError → Json
  | valueShape field operator value expected =>
    .obj [("expected", .str expected), ("field", .str field), ("operator", .str operator), ("value", value)]
  | fieldKind operator field => .obj [("field", field), ("operator", .str operator)]
  | unknownOperator tag => .obj [("operator", .str tag)]
  | unknownCombinator tag => .obj [("operator", .str tag)]
  | severalAnchors count => .obj [("geo_elements", .nat count)]
  | incompleteSort field direction =>
    .obj [("direction", direction.getD .null), ("field", Json.ofOption .str field)]
  | sortDirection direction => .obj [("direction", direction)]
  | pageNumber page => .obj [("page_number", .nat page)]
  | missingPart part => .obj [("missing", .str part)]
  | mixedShapes => .null
  | malformed _ => .null
  | anchorNotAllowed => .null

end FilterError

end DocumentQuery
