import RelationQuery.Text.Property
import RelationQuery.Wire.Coercion

/-!
# Failures

Why a query cannot be compiled or run. A cause has a text of its own and a kind; what is reported to
the outside is one message for all, and a code that depends on the operation and the cause.
-/

namespace RelationQuery

/-- The prefix of generated placeholder names, which no caller may bind. -/
def generatedPrefix : String := "_sift_"

inductive FilterFault where
  | boundTwice (name : String)
  | reservedName (name : String)
  | requestKey (key : String)
  | notAnObject (text : String)
  | described (reason : String)
  deriving DecidableEq, Repr

def FilterFault.message : FilterFault → String
  | .boundTwice name => "placeholder :" ++ name ++ " is bound to two different values"
  | .reservedName name =>
      "placeholder :" ++ name ++ " uses the reserved prefix " ++ generatedPrefix
  | .requestKey key => "invalid request key " ++ String.ofList (Text.shown key)
  | .notAnObject text => "filter is not a JSON object: " ++ text
  | .described reason => reason

inductive DatabaseError where
  /-- The server refuses a command with a message. -/
  | server (message : String)
  /-- The parameter at a place, counted from zero, does not fit its type. -/
  | parameter (index : Nat) (refusal : Refusal)
  | parameterCount (expected given : Nat)
  /-- The cell in a column, counted from zero, is malformed. -/
  | cell (index : Nat)
  deriving Repr

namespace DatabaseError

def message : DatabaseError → String
  | .server _ => "db error"
  | .parameter index _ => "error serializing parameter " ++ toString index
  | .parameterCount expected given =>
      "expected " ++ toString expected ++ " parameters but got " ++ toString given
  | .cell index => "error deserializing column " ++ toString index

/-- The text of what the error wraps, where that is shown. -/
def inner? : DatabaseError → Option String
  | .server message => some ("ERROR: " ++ message)
  | .parameter _ refusal => some refusal.message
  | .parameterCount .. => none
  | .cell _ => none

def chain (error : DatabaseError) : List String := error.message :: error.inner?.toList

end DatabaseError

inductive Cause where
  | database (error : DatabaseError)
  | pool (reason : String)
  | fieldNotAllowed (key : String)
  | malformedFilter (fault : FilterFault)
  | noFilterProvided
  | notFound
  | cardinality (count : Nat)
  | unsupportedType (name : String)
  | invariant (reason : String)
  deriving Repr

inductive CauseKind where
  | validationFailure
  | noFilterProvided
  | notFound
  | cardinalityViolation
  | transportFailure
  | internalInvariantViolation
  deriving DecidableEq, Repr

namespace Cause

def message : Cause → String
  | .database error => "postgres error: " ++ error.message
  | .pool reason => "connection pool error: " ++ reason
  | .fieldNotAllowed key => "key not allowed: " ++ key
  | .malformedFilter fault => "malformed filter: " ++ fault.message
  | .noFilterProvided => "no filter provided"
  | .notFound => "no row found"
  | .cardinality count => "expected exactly one row, got " ++ toString count
  | .unsupportedType name => "unsupported type: " ++ name
  | .invariant reason => "invariant violated: " ++ reason

def kind : Cause → CauseKind
  | .database _ => .transportFailure
  | .pool _ => .transportFailure
  | .fieldNotAllowed _ => .validationFailure
  | .malformedFilter _ => .validationFailure
  | .noFilterProvided => .noFilterProvided
  | .notFound => .notFound
  | .cardinality _ => .cardinalityViolation
  | .unsupportedType _ => .internalInvariantViolation
  | .invariant _ => .internalInvariantViolation

def chain (cause : Cause) : List String :=
  cause.message :: match cause with
    | .database error => error.chain
    | _ => []

end Cause

inductive Operation where
  | get
  | patch
  | delete
  | post
  | lastUpdate
  deriving DecidableEq, Repr

namespace Operation

def word : Operation → String
  | .get => "get"
  | .patch => "patch"
  | .delete => "delete"
  | .post => "post"
  | .lastUpdate => "last_update"

def errorCode : Operation → Cause → String
  | .get, .fieldNotAllowed _ => "a455f906-52af-5e1a-a004-37cf00cbcd8e"
  | .get, .invariant _ => "561c1368-5626-5ae3-af8d-a153eb59d499"
  | .get, _ => "98b4307f-79e0-5490-b5d0-bd5cf037ff5a"
  | .patch, _ => "be883d66-7121-53ae-be7e-e1bb588cc093"
  | .delete, .noFilterProvided => "cbbb7599-224f-527d-af13-62204f9b3648"
  | .delete, _ => "a455f906-52af-5e1a-a004-37cf00cbcd8e"
  | .post, .invariant _ => "923f61f0-a886-5274-83d1-f3ecd9f3fbe7"
  | .post, _ => "5b2aba0c-2c60-5f55-bb57-c4d0dbedd15a"
  | .lastUpdate, .invariant _ => "e7fd75b1-feb1-5080-9a6b-d9cb8ae4ad86"
  | .lastUpdate, .cardinality _ => "bc4d5693-58ac-5cf3-9a02-fc069b693838"
  | .lastUpdate, _ => "37a911f6-2506-538d-869d-f9d18189478a"

end Operation

/-- The message that every failure shows to the outside. -/
def publicMessage : String := "Internal server error"

structure Failure where
  operation : Operation
  scheme : String
  table : String
  cause : Cause
  deriving Repr

namespace Failure

def errorCode (failure : Failure) : String := failure.operation.errorCode failure.cause

def envelope (failure : Failure) : Json :=
  .ofMembers [("success", .bool false), ("message", .string publicMessage),
    ("error_code", .string failure.errorCode)]

end Failure

end RelationQuery
