/-
RUNNING PIPELINES. A pipeline is a list of documents, each with one key that names the kind of the stage. Every stage
takes the rows of the one before; a proximity stage can only be the first.
-/
import DocumentQuery.Evaluation.Group
import DocumentQuery.Evaluation.Projection
import DocumentQuery.Evaluation.Proximity
import DocumentQuery.Evaluation.Sort
import DocumentQuery.Pipeline.Kind

namespace DocumentQuery

/-- rows, or why there are none -/
abbrev Rows := Except StoreError (List Document)

/-- the documents that satisfy a predicate -/
def selectRows (predicate : Document) : List Document → Rows
  | [] => .ok []
  | d :: rest => do
    let ok ← satisfies d predicate
    let more ← selectRows predicate rest
    .ok (if ok then d :: more else more)

/-- the body of a stage that needs an object -/
def bodyFields (kind : String) : Json → Except StoreError Document
  | .obj fields => .ok fields
  | _ => .error (.invalidPipeline (.bodyShape kind))

/-- the body of a stage that needs a count -/
def bodyCount (kind : String) (body : Json) : Except StoreError Nat :=
  match body.nat? with
  | some n => .ok n
  | none => .error (.invalidPipeline (.bodyCount kind))

namespace StageKind

/-- one stage at a position of its pipeline -/
def run (kind : StageKind) (body : Json) (position : Nat) (geoKey : Option String) (rows : List Document) : Rows :=
  match kind with
  | select => do
    let predicate ← bodyFields kind.tag body
    selectRows predicate rows
  | near =>
    if position = 0 then do
      let fields ← bodyFields kind.tag body
      let search ← ProximitySearch.ofBody fields geoKey
      search.run rows
    else .error (.invalidPipeline (.misplacedAnchor position))
  | group => do
    let fields ← bodyFields kind.tag body
    let spec ← GroupSpec.ofBody fields
    .ok (spec.run rows)
  | sort => do
    let fields ← bodyFields kind.tag body
    runSort fields rows
  | skip => do
    let n ← bodyCount kind.tag body
    .ok (rows.drop n)
  | limit => do
    let n ← bodyCount kind.tag body
    .ok (rows.take n)
  | project => do
    let fields ← bodyFields kind.tag body
    runProject fields rows

end StageKind

/-- one stage, which has to have one key that names a kind -/
def runStage (stage : Document) (position : Nat) (geoKey : Option String) (rows : List Document) : Rows :=
  match stage with
  | [(tag, body)] =>
    match StageKind.ofTag? tag with
    | some kind => kind.run body position geoKey rows
    | none => .error (.unsupportedOperator tag)
  | _ => .error (.invalidPipeline (.stageKeys position))

/-- stages from a position on -/
def runFrom (geoKey : Option String) : Nat → List Document → List Document → Rows
  | _, [], rows => .ok rows
  | position, stage :: rest, rows => do
    let next ← runStage stage position geoKey rows
    runFrom geoKey (position + 1) rest next

/-- a whole pipeline -/
def runPipeline (documents : List Document) (pipeline : List Document) (geoKey : Option String) : Rows :=
  runFrom geoKey 0 pipeline documents

end DocumentQuery
