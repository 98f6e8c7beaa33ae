/-
WHAT CAN GO WRONG IN A STORE: a pipeline, a mutation, an operator or a pattern that it cannot use, or a store that does
not answer. Causes are values; `message` words them.
-/

namespace DocumentQuery

/-- what is wrong with a pipeline or a predicate -/
inductive PipelineFault where
  | membershipList
  | branchList
  | branchShape
  /-- the body of this kind of stage is not an object -/
  | bodyShape (kind : String)
  /-- the body of this kind of stage is not a count -/
  | bodyCount (kind : String)
  | missingNear
  | missingDistanceField
  | missingGeoKey
  | missingGroupKey
  | columnShape (name : String)
  | sortDirection (field : String)
  | stageKeys (position : Nat)
  | misplacedAnchor (position : Nat)
  /-- in the words of another store -/
  | stated (reason : String)
  deriving DecidableEq, Repr

def PipelineFault.message : PipelineFault → String
  | membershipList => "$in/$nin need an array"
  | branchList => "logical operators need an array"
  | branchShape => "logical operator branches must be objects"
  | bodyShape kind => kind ++ " expects an object"
  | bodyCount kind => kind ++ " expects a non-negative integer"
  | missingNear => "$geoNear needs a `near` point"
  | missingDistanceField => "$geoNear needs a `distanceField`"
  | missingGeoKey => "$geoNear needs a geo index or a `key`"
  | missingGroupKey => "$group needs an `_id`"
  | columnShape name => "$group column `" ++ name ++ "` needs one accumulator"
  | sortDirection field => "$sort direction for `" ++ field ++ "` must be 1 or -1"
  | stageKeys position => "stage " ++ toString position ++ " must have exactly one key"
  | misplacedAnchor position => "$geoNear is only valid as the first stage, found at " ++ toString position
  | stated reason => reason

/-- what is wrong with a mutation -/
inductive MutationFault where
  | empty
  | unknownOperator (operator : String)
  | operandShape (operator : String)
  | renameTarget (source : String)
  /-- the segment of the path holds something that is not an object -/
  | blocked (path segment : String)
  /-- in the words of another store -/
  | stated (reason : String)
  deriving DecidableEq, Repr

def MutationFault.message : MutationFault → String
  | empty => "empty mutation"
  | unknownOperator operator => "unsupported update operator " ++ operator
  | operandShape operator => operator ++ " expects an object"
  | renameTarget source => "$rename target for `" ++ source ++ "` must be a string"
  | blocked path segment => "cannot set `" ++ path ++ "`: `" ++ segment ++ "` is not an object"
  | stated reason => reason

/-- why a pattern is refused -/
inductive PatternFault where
  | notText
  /-- it does not follow the notation, or is too large; this is not explained further -/
  | refused
  /-- in the words of another store -/
  | stated (reason : String)
  deriving DecidableEq, Repr

/-- explanation behind the message, with its colon -/
def PatternFault.suffix : PatternFault → String
  | notText => ": pattern must be a string"
  | refused => ""
  | stated reason => ": " ++ reason

/-- why a store does not do what it is asked to -/
inductive StoreError where
  | invalidPipeline (fault : PipelineFault)
  | unsupportedOperator (operator : String)
  | invalidMutation (fault : MutationFault)
  | invalidPattern (pattern : String) (fault : PatternFault)
  | backend (reason : String)
  deriving DecidableEq, Repr

def StoreError.message : StoreError → String
  | invalidPipeline fault => "invalid pipeline: " ++ fault.message
  | unsupportedOperator operator => "unsupported operator: " ++ operator
  | invalidMutation fault => "invalid mutation: " ++ fault.message
  | invalidPattern pattern fault => "invalid pattern `" ++ pattern ++ "`" ++ fault.suffix
  | backend reason => "storage backend failure: " ++ reason

end DocumentQuery
