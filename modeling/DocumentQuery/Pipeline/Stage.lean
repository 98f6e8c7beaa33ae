/-
STAGES of a pipeline and their form as documents, which is the form that a store runs.
-/
import DocumentQuery.Filter.Proximity
import DocumentQuery.Pipeline.Kind
import DocumentQuery.Request.Sort

namespace DocumentQuery

/-! ## Groups -/

/-- a column of a group: what it is called and which path it collects -/
structure Column where
  name : String
  path : String
  accumulation : Accumulation
  deriving DecidableEq, Repr

/-- expression for the value at a path -/
def pathExpression (path : String) : Json := .str ("$" ++ path)

/-- what the column collects, as the store reads it -/
def Column.expression (c : Column) : Document := Document.single c.accumulation.tag (pathExpression c.path)

/-- rows by the value at a path -/
structure Grouping where
  key : String
  columns : List Column
  deriving DecidableEq, Repr

/-- the body of a group stage; of two columns with one name the later one counts -/
def Grouping.toDocument (g : Grouping) : Document :=
  g.columns.foldl (fun body c => Document.insert body c.name (.obj c.expression))
    (Document.single "_id" (pathExpression g.key))

/-! ## Stages -/

/-- one step of a pipeline -/
inductive Stage where
  | select (predicate : Document)
  | near (anchor : ProximityAnchor)
  | group (grouping : Grouping)
  | sort (spec : SortSpec)
  | skip (count : Count)
  | limit (count : Count)
  | project (projection : Document)

namespace Stage

def kind : Stage → StageKind
  | select _ => .select
  | near _ => .near
  | group _ => .group
  | sort _ => .sort
  | skip _ => .skip
  | limit _ => .limit
  | project _ => .project

def body : Stage → Json
  | select predicate => .obj predicate
  | near anchor => .obj anchor.stageBody
  | group grouping => .obj grouping.toDocument
  | sort spec => .obj spec.toDocument
  | skip count => .count count
  | limit count => .count count
  | project projection => .obj projection

/-- the stage with its tag as the only key -/
def toDocument (s : Stage) : Document := Document.single s.kind.tag s.body

end Stage

/-- stages in the order in which they run -/
abbrev Pipeline := List Stage

namespace Pipeline

/-- whether a search by distance comes first -/
def isAnchored (p : Pipeline) : Bool := p.head?.any fun s => s.kind = .near

def toDocuments (p : Pipeline) : List Document := p.map Stage.toDocument

end Pipeline

end DocumentQuery
