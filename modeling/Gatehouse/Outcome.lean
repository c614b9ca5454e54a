import Gatehouse.Time
import Gatehouse.RequestId
import Gatehouse.SocketAddress

namespace Gatehouse

inductive Severity where
  | info
  | warn
  | error
deriving DecidableEq

namespace Severity

def rank : Severity → Nat
  | .info => 0
  | .warn => 1
  | .error => 2

def name : Severity → String
  | .info => "info"
  | .warn => "warn"
  | .error => "error"

def max (s t : Severity) : Severity := if s.rank ≤ t.rank then t else s

def worst? : List Severity → Option Severity
  | [] => none
  | s :: ss => some (ss.foldl max s)

end Severity

inductive RpcCode where
  | ok
  | cancelled
  | unknown
  | invalidArgument
  | deadlineExceeded
  | notFound
  | alreadyExists
  | permissionDenied
  | resourceExhausted
  | failedPrecondition
  | aborted
  | outOfRange
  | unimplemented
  | internal
  | unavailable
  | dataLoss
  | unauthenticated
deriving DecidableEq

namespace RpcCode

def number : RpcCode → Nat
  | .ok => 0
  | .cancelled => 1
  | .unknown => 2
  | .invalidArgument => 3
  | .deadlineExceeded => 4
  | .notFound => 5
  | .alreadyExists => 6
  | .permissionDenied => 7
  | .resourceExhausted => 8
  | .failedPrecondition => 9
  | .aborted => 10
  | .outOfRange => 11
  | .unimplemented => 12
  | .internal => 13
  | .unavailable => 14
  | .dataLoss => 15
  | .unauthenticated => 16

def name : RpcCode → String
  | .ok => "OK"
  | .cancelled => "CANCELLED"
  | .unknown => "UNKNOWN"
  | .invalidArgument => "INVALID_ARGUMENT"
  | .deadlineExceeded => "DEADLINE_EXCEEDED"
  | .notFound => "NOT_FOUND"
  | .alreadyExists => "ALREADY_EXISTS"
  | .permissionDenied => "PERMISSION_DENIED"
  | .resourceExhausted => "RESOURCE_EXHAUSTED"
  | .failedPrecondition => "FAILED_PRECONDITION"
  | .aborted => "ABORTED"
  | .outOfRange => "OUT_OF_RANGE"
  | .unimplemented => "UNIMPLEMENTED"
  | .internal => "INTERNAL"
  | .unavailable => "UNAVAILABLE"
  | .dataLoss => "DATA_LOSS"
  | .unauthenticated => "UNAUTHENTICATED"

def all : List RpcCode :=
  [.ok, .cancelled, .unknown, .invalidArgument, .deadlineExceeded, .notFound, .alreadyExists,
    .permissionDenied, .resourceExhausted, .failedPrecondition, .aborted, .outOfRange,
    .unimplemented, .internal, .unavailable, .dataLoss, .unauthenticated]

/-- The code of a number; one outside the canonical range is `unknown`. -/
def ofInt (n : Int) : RpcCode := if n < 0 then .unknown else all.getD n.toNat .unknown

@[simp] theorem ofInt_number (c : RpcCode) : ofInt c.number = c := by cases c <;> rfl

theorem number_injective {c d : RpcCode} (h : c.number = d.number) : c = d := by
  rw [← ofInt_number c, h, ofInt_number]

end RpcCode

inductive OutcomeStatus where
  | http (code : UInt16)
  | rpc (code : RpcCode)
deriving DecidableEq

namespace OutcomeStatus

/-- Server errors and failed calls are errors, client errors are warnings. -/
def severity : OutcomeStatus → Severity
  | .http code => if code ≥ 500 then .error else if code ≥ 400 then .warn else .info
  | .rpc .ok => .info
  | .rpc _ => .error

def text : OutcomeStatus → String
  | .http code => Decimal.text code.toNat
  | .rpc code => code.name

end OutcomeStatus

structure RequestInfo where
  method : String
  target : String
  remoteAddr : Option SocketAddress := none
  userAgent : Option String := none
  query : Option String := none
deriving DecidableEq

structure RequestOutcome where
  request : RequestInfo
  status : OutcomeStatus
  elapsed : Duration
  requestId : Option RequestId
  error : Option String
deriving DecidableEq

def RequestOutcome.severity (o : RequestOutcome) : Severity := o.status.severity

end Gatehouse
