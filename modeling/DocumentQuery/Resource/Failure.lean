/-
FAILURES of operations on resources, as a client sees them: a status code, a sentence, and for a refused request the
part of it that is at fault. What a store says about itself is kept apart and never sent.
-/
import DocumentQuery.Filter.Error
import DocumentQuery.Store.Error

namespace DocumentQuery

/-- why an operation on a resource has no result -/
inductive Failure where
  /-- nothing matched; the key that was looked up, if there was one -/
  | notFound (resource : String) (key : Option String)
  | badRequest (reason : String)
  | invalidFilter (error : FilterError)
  /-- the sentence for the client, and what the store said -/
  | storage (sentence : String) (cause : StoreError)
  | internal (sentence : String) (details : Option String)

namespace Failure

/-- a failed store, without its reasons -/
def ofStorage (cause : StoreError) : Failure := storage "A storage error occurred" cause

/-- a pattern comes from the filter of a request, so a bad one is the client's; all else is the store's -/
def ofStore : StoreError → Failure
  | .invalidPattern pattern fault => badRequest ("Invalid pattern '" ++ pattern ++ "'" ++ fault.suffix)
  | cause => ofStorage cause

/-- status code of the response -/
def status : Failure → Nat
  | notFound _ _ => 404
  | badRequest _ => 400
  | invalidFilter _ => 422
  | storage _ _ => 500
  | internal _ _ => 500

/-- the sentence for the client -/
def message : Failure → String
  | notFound resource (some key) => resource ++ " '" ++ key ++ "' not found"
  | notFound resource none => "No " ++ resource ++ " matched"
  | badRequest reason => reason
  | invalidFilter error => error.message
  | storage sentence _ => sentence
  | internal sentence _ => sentence

/-- body of the response -/
def body (f : Failure) : Json :=
  match f with
  | invalidFilter error => .obj [("details", error.details), ("error", .str f.message)]
  | _ => .obj [("error", .str f.message)]

end Failure

end DocumentQuery
