/-
KINDS of pipeline stages and of the columns of a group, each with its tag. What writes a pipeline and what runs one
share these tags: `ofTag?` reads what `tag` writes.
-/

namespace DocumentQuery

/-- kinds of stages -/
inductive StageKind where
  | select
  | near
  | group
  | sort
  | skip
  | limit
  | project
  deriving DecidableEq, Repr

namespace StageKind

def tag : StageKind → String
  | select => "$match"
  | near => "$geoNear"
  | group => "$group"
  | sort => "$sort"
  | skip => "$skip"
  | limit => "$limit"
  | project => "$project"

def ofTag? : String → Option StageKind
  | "$match" => some select
  | "$geoNear" => some near
  | "$group" => some group
  | "$sort" => some sort
  | "$skip" => some skip
  | "$limit" => some limit
  | "$project" => some project
  | _ => none

theorem ofTag?_tag (k : StageKind) : ofTag? k.tag = some k := by
  cases k <;> rfl

end StageKind

/-- how a column collects the values of a group -/
inductive Accumulation where
  /-- the value of the first document -/
  | first
  /-- values without repetition -/
  | addToSet
  | push
  | sum
  deriving DecidableEq, Repr

namespace Accumulation

def tag : Accumulation → String
  | first => "$first"
  | addToSet => "$addToSet"
  | push => "$push"
  | sum => "$sum"

def ofTag? : String → Option Accumulation
  | "$first" => some first
  | "$addToSet" => some addToSet
  | "$push" => some push
  | "$sum" => some sum
  | _ => none

theorem ofTag?_tag (a : Accumulation) : ofTag? a.tag = some a := by
  cases a <;> rfl

end Accumulation

end DocumentQuery
