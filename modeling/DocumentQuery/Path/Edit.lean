/-
WRITING AND REMOVING AT PATHS. Both walk through nested objects only; `set` creates the parents that are missing and is
blocked by a parent that is present and not an object.

An edit changes a document on the way to its result. After an edit that fails the document is as far as the walk came.
-/
import DocumentQuery.Path.Basic
import DocumentQuery.Store.Error

namespace DocumentQuery

namespace Document

/-- writes at segments; gives the value that was there, or the segment that blocks the way -/
def setAt (value : Json) : Document → List String → Except String (Option Json) × Document
  | d, [] => (.ok none, d)
  | d, [leaf] => (.ok (find? d leaf), insert d leaf value)
  | d, segment :: next :: rest =>
    match find? d segment with
    | none =>
      let (result, inner) := setAt value [] (next :: rest)
      (result, insert d segment (.obj inner))
    | some (.obj fields) =>
      let (result, inner) := setAt value fields (next :: rest)
      (result, insert d segment (.obj inner))
    | some _ => (.error segment, d)

/-- removes at segments; gives the value that was there -/
def removeAt : Document → List String → Option Json × Document
  | d, [] => (none, d)
  | d, [leaf] => (find? d leaf, erase d leaf)
  | d, segment :: next :: rest =>
    match find? d segment with
    | some (.obj fields) =>
      match removeAt fields (next :: rest) with
      | (some v, inner) => (some v, insert d segment (.obj inner))
      | (none, _) => (none, d)
    | _ => (none, d)

/-- writes at a dotted path -/
def setPath (d : Document) (path : String) (value : Json) : Except StoreError (Option Json) × Document :=
  match setAt value d (Path.segments path) with
  | (.ok previous, e) => (.ok previous, e)
  | (.error segment, e) => (.error (.invalidMutation (.blocked path segment)), e)

/-- removes at a dotted path -/
def removePath (d : Document) (path : String) : Option Json × Document := removeAt d (Path.segments path)

/-- the document without the values at some paths -/
def without (d : Document) (paths : List String) : Document := paths.foldl (fun d p => (removePath d p).2) d

end Document

end DocumentQuery
