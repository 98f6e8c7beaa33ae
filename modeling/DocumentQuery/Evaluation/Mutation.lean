/-
MUTATIONS: documents of `$set`, `$unset` and `$rename`, applied in the order of their keys. Applying one tells whether
anything changed; a mutation that is not well-formed is refused before anything is.
-/
import DocumentQuery.Filter.Operator
import DocumentQuery.Path.Edit

namespace DocumentQuery

/-- a change of a document with a result, or a failure on the way -/
abbrev Edit (α : Type) := ExceptT StoreError (StateM Document) α

/-- operators of mutations -/
inductive MutationOperator where
  | set
  | unset
  | rename
  deriving DecidableEq, Repr

def MutationOperator.ofKey? : String → Option MutationOperator
  | "$set" => some set
  | "$unset" => some unset
  | "$rename" => some rename
  | _ => none

/-! ## Well-formed mutations -/

/-- what is wrong with one operator of a mutation -/
def operatorFault? (field : String × Json) : Option MutationFault :=
  match MutationOperator.ofKey? field.1 with
  | none => some (.unknownOperator field.1)
  | some _ => if field.2.isObj then none else some (.operandShape field.1)

/-- what is wrong with a renaming: targets are texts -/
def renameFault? (mutation : Document) : Option MutationFault :=
  match (Document.find? mutation "$rename").bind Json.obj? with
  | none => none
  | some renames => (List.find? (fun f => !f.2.isStr) renames).map fun f => .renameTarget f.1

/-- what is wrong with a mutation -/
def mutationFault? (mutation : Document) : Option MutationFault :=
  if mutation.isEmpty then some .empty else (mutation.findSome? operatorFault?).or (renameFault? mutation)

/-! ## Applying -/

/-- writes at a path; gives the value that was there -/
def setPath (path : String) (value : Json) : Edit (Option Json) := fun d => Document.setPath d path value

/-- removes at a path; gives the value that was there -/
def removePath (path : String) : Edit (Option Json) := fun d =>
  let (previous, e) := Document.removePath d path
  (.ok previous, e)

/-- sets every field; tells whether any value is new -/
def setFields : List (String × Json) → Edit Bool
  | [] => pure false
  | (path, value) :: rest => do
    let previous ← setPath path value
    let more ← setFields rest
    pure (!previous.any (·.same value) || more)

/-- removes every field; tells whether any was there -/
def unsetFields : List (String × Json) → Edit Bool
  | [] => pure false
  | (path, _) :: rest => do
    let previous ← removePath path
    let more ← unsetFields rest
    pure (previous.isSome || more)

/-- moves every field to its target; tells whether any was there -/
def renameFields : List (String × Json) → Edit Bool
  | [] => pure false
  | (source, .str target) :: rest => do
    match ← removePath source with
    | none => renameFields rest
    | some value =>
      let _ ← setPath target value
      let _ ← renameFields rest
      pure true
  | _ :: rest => renameFields rest

/-- one operator of a mutation -/
def applyOperator (field : String × Json) : Edit Bool :=
  match MutationOperator.ofKey? field.1, field.2 with
  | some .set, .obj fields => setFields fields
  | some .unset, .obj fields => unsetFields fields
  | some .rename, .obj fields => renameFields fields
  | _, _ => pure false

/-- operators in order -/
def applyOperators : Document → Edit Bool
  | [] => pure false
  | field :: rest => do
    let changed ← applyOperator field
    let more ← applyOperators rest
    pure (changed || more)

/-- a whole mutation -/
def applyMutation (mutation : Document) : Edit Bool :=
  match mutationFault? mutation with
  | some fault => throw (.invalidMutation fault)
  | none => applyOperators mutation

/-! ## Documents made by updates that match nothing -/

/-- writes every field of a list into a document -/
def setAll (d : Document) : List (String × Json) → Except StoreError Document
  | [] => .ok d
  | (path, value) :: rest =>
    match Document.setPath d path value with
    | (.ok _, e) => setAll e rest
    | (.error fault, _) => .error fault

/-- whether a field of a predicate asks for plain equality -/
def isPlainEquality (field : String × Json) : Bool :=
  !Text.isOperatorKey field.1 && !(field.2.obj?.any isOperatorObject)

/-- the document that the plain equalities of a predicate describe -/
def seedOf (predicate : Document) : Except StoreError Document := setAll [] (predicate.filter isPlainEquality)

/-- fields that a mutation sets -/
def settings (mutation : Document) : Document := ((Document.find? mutation "$set").bind Json.obj?).getD []

/-- the document to insert when an update matches nothing -/
def upsertDocument (predicate mutation : Document) : Except StoreError Document := do
  let seed ← seedOf predicate
  setAll seed (settings mutation)

end DocumentQuery
