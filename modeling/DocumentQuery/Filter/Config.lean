/-
SETTINGS of the filter compiler and of the operations on resources. A payload may leave any of them out.
-/
import DocumentQuery.Payload.Record

namespace DocumentQuery

/-- how the value of `contains` goes into a pattern -/
inductive ContainsMode where
  /-- as the text it is -/
  | literal
  /-- as a pattern of its own -/
  | pattern
  deriving DecidableEq, Repr

namespace ContainsMode

def name : ContainsMode → String
  | literal => "literal"
  | pattern => "pattern"

def ofName? : String → Option ContainsMode
  | "literal" => some literal
  | "pattern" => some pattern
  | _ => none

/-- a mode is written as its name, or as an object with the name as its only key and null as its value -/
def ofJson? : Json → Option ContainsMode
  | .str s => ofName? s
  | .obj [(key, .null)] => ofName? key
  | _ => none

end ContainsMode

/-- settings of the compiler -/
structure Config where
  containsMode : ContainsMode := .literal
  /-- field that receives the distance of each document -/
  distanceField : String := "distance"
  spherical : Bool := true
  /-- field that holds the location, when the store has to be told -/
  geoKey : Option String := none
  /-- fields that answers leave out -/
  excludeFields : List String := ["_id"]
  /-- limit of lists whose request has no page size -/
  defaultListLimit : Option Count := some 30
  deriving DecidableEq, Repr

namespace Config

def declared : List (List String) :=
  [["contains_mode"], ["distance_field"], ["spherical"], ["geo_key"], ["exclude_fields"], ["default_list_limit"]]

/-- a field that may be missing or null, with different meanings -/
def nullable {α : Type} (missing : Option α) (read : Json → Option α) : Option Json → Option (Option α)
  | none => some missing
  | some v => Payload.optional read (some v)

def ofFields? : List (Option Json) → Option Config
  | [mode, distanceField, spherical, geoKey, excludeFields, defaultListLimit] => do
    let base : Config := {}
    some {
      containsMode := ← Payload.orElse base.containsMode ContainsMode.ofJson? mode
      distanceField := ← Payload.orElse base.distanceField Json.str? distanceField
      spherical := ← Payload.orElse base.spherical Json.bool? spherical
      geoKey := ← nullable base.geoKey Json.str? geoKey
      excludeFields := ← Payload.orElse base.excludeFields (Payload.list? Json.str?) excludeFields
      defaultListLimit := ← nullable base.defaultListLimit Json.count? defaultListLimit }
  | _ => none

def ofJson? (v : Json) : Option Config := (Payload.record? declared v).bind ofFields?

def toJson (c : Config) : Json :=
  .obj [("contains_mode", .str c.containsMode.name), ("default_list_limit", Json.ofOption .count c.defaultListLimit),
    ("distance_field", .str c.distanceField), ("exclude_fields", .arr (c.excludeFields.map .str)),
    ("geo_key", Json.ofOption .str c.geoKey), ("spherical", .bool c.spherical)]

end Config

end DocumentQuery
