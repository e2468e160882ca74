import ControlPlane.Store.Basic

/-!
# Errors of the control plane

Every failure of an operation is one of seventeen kinds with a message. The kind decides the
error's code, the words it is displayed with, whether it is a validation failure, a system
failure or worth retrying, and the HTTP status of an answer that carries it.

A failed store call becomes an error of the control plane by its status; the message is then
the caller's context, not the store's detail.
-/

namespace ControlPlane

/-- The kinds of failure. -/
inductive ErrorKind where
  | invalidName | invalidService | invalidZone | invalidAddress | invalidEndpoint
  | invalidParam | missingParam | invalidVersion | changedServiceDesc | nameDuplicated
  | tooManyAttempts | notFound | deleted | deadlineExceeded | canceled
  | damagedEndpointValue | systemError
  deriving Inhabited, BEq, DecidableEq

namespace ErrorKind

def all : List ErrorKind :=
  [.invalidName, .invalidService, .invalidZone, .invalidAddress, .invalidEndpoint,
   .invalidParam, .missingParam, .invalidVersion, .changedServiceDesc, .nameDuplicated,
   .tooManyAttempts, .notFound, .deleted, .deadlineExceeded, .canceled,
   .damagedEndpointValue, .systemError]

/-- The code of a kind, as answers carry it. -/
def code : ErrorKind → String
  | .invalidName => "INVALID_NAME"
  | .invalidService => "INVALID_SERVICE"
  | .invalidZone => "INVALID_ZONE"
  | .invalidAddress => "INVALID_ADDRESS"
  | .invalidEndpoint => "INVALID_ENDPOINT"
  | .invalidParam => "INVALID_PARAM"
  | .missingParam => "MISSING_PARAM"
  | .invalidVersion => "INVALID_VERSION"
  | .changedServiceDesc => "CHANGED_SERVICE_DESC"
  | .nameDuplicated => "NAME_DUPLICATED"
  | .tooManyAttempts => "TOO_MANY_ATTEMPTS"
  | .notFound => "NOT_FOUND"
  | .deleted => "DELETED"
  | .deadlineExceeded => "DEADLINE_EXCEEDED"
  | .canceled => "CANCELED"
  | .damagedEndpointValue => "DAMAGED_ENDPOINT_VALUE"
  | .systemError => "SYSTEM_ERROR"

def ofCode? (code : String) : Option ErrorKind :=
  all.find? (·.code == code)

/-- The words an error of the kind is displayed with, before its message. -/
def words : ErrorKind → String
  | .invalidName => "invalid name"
  | .invalidService => "invalid service"
  | .invalidZone => "invalid zone"
  | .invalidAddress => "invalid address"
  | .invalidEndpoint => "invalid endpoint"
  | .invalidParam => "invalid param"
  | .missingParam => "missing param"
  | .invalidVersion => "invalid version"
  | .changedServiceDesc => "changed service descriptor"
  | .nameDuplicated => "name duplicated"
  | .tooManyAttempts => "too many attempts"
  | .notFound => "not found"
  | .deleted => "deleted"
  | .deadlineExceeded => "deadline exceeded"
  | .canceled => "canceled"
  | .damagedEndpointValue => "damaged endpoint value"
  | .systemError => "system error"

def isSystem (k : ErrorKind) : Bool := k == .systemError

def isValidation : ErrorKind → Bool
  | .invalidName | .invalidService | .invalidZone | .invalidAddress | .invalidEndpoint
  | .invalidParam | .missingParam => true
  | _ => false

def isRetryable : ErrorKind → Bool
  | .deadlineExceeded | .tooManyAttempts | .systemError => true
  | _ => false

end ErrorKind

/-- A failed operation: its kind and its message. -/
structure Error where
  kind : ErrorKind
  message : String
  deriving Inhabited

namespace Error

def code (e : Error) : String := e.kind.code

def display (e : Error) : String := e.kind.words ++ ": " ++ e.message

def httpStatus (e : Error) : Nat := if e.kind.isSystem then 503 else 200

/-- A failed store call, seen by a caller with its context: the store's not-found, deadline
and cancellation keep their kind, every other failure is a system error. -/
def ofStore (e : StoreError) (context : String) : Error :=
  match e.status with
  | .notFound => ⟨.notFound, context⟩
  | .deadlineExceeded => ⟨.deadlineExceeded, context⟩
  | .canceled => ⟨.canceled, context⟩
  | _ => ⟨.systemError, context⟩

def ofIndex (context : String) : Error := ⟨.systemError, context⟩

end Error

def withContext {α : Type} (context : String) : Except StoreError α → Except Error α
  | .ok a => .ok a
  | .error e => .error (Error.ofStore e context)

end ControlPlane
