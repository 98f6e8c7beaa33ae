/-
THE PROJECTION STAGE: it keeps the paths with a flag that counts as true, and the identifier unless told otherwise; when
no flag counts as true it drops the paths instead.
-/
import DocumentQuery.Json.Order
import DocumentQuery.Path.Edit

namespace DocumentQuery

/-- whether a projection drops the paths it names, rather than keeping them: no flag of it counts as true -/
def isExclusion (body : Document) : Bool := body.all fun f => !f.2.truthy

/-- the paths that a projection keeps, besides the identifier -/
def keptPaths (body : Document) : List String := (body.filter fun f => f.1 != "_id" && f.2.truthy).map (·.1)

/-- whether a projection keeps the identifier -/
def keepsId (body : Document) : Bool := (Document.find? body "_id").all Json.truthy

/-- writes the first value of each path into a document -/
def copyPaths (source : Document) : List String → Document → Except StoreError Document
  | [], target => .ok target
  | path :: rest, target =>
    match Document.first? source path with
    | none => copyPaths source rest target
    | some v =>
      match Document.setPath target path v with
      | (.ok _, target) => copyPaths source rest target
      | (.error e, _) => .error e

/-- one document under a projection -/
def projectOne (body : Document) (d : Document) : Except StoreError Document :=
  if isExclusion body then .ok (Document.without d (body.map (·.1)))
  else
    let start := match Document.find? d "_id" with
      | some id => if keepsId body then Document.single "_id" id else []
      | none => []
    copyPaths d (keptPaths body) start

/-- the projection stage -/
def runProject (body : Document) (documents : List Document) : Except StoreError (List Document) :=
  documents.mapM (projectOne body)

end DocumentQuery
