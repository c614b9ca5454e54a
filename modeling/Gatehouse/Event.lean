import Gatehouse.Outcome

namespace Gatehouse

inductive Level where
  | error
  | warn
  | info
  | debug
  | trace
deriving DecidableEq

namespace Level

/-- How verbose a level is; zero is left for silence. -/
def verbosity : Level → Nat
  | .error => 1
  | .warn => 2
  | .info => 3
  | .debug => 4
  | .trace => 5

def name : Level → String
  | .error => "error"
  | .warn => "warn"
  | .info => "info"
  | .debug => "debug"
  | .trace => "trace"

def upperName : Level → String
  | .error => "ERROR"
  | .warn => "WARN"
  | .info => "INFO"
  | .debug => "DEBUG"
  | .trace => "TRACE"

end Level

def Severity.level : Severity → Level
  | .info => .info
  | .warn => .warn
  | .error => .error

inductive FieldValue where
  | text (s : String)
  | number (n : Nat)
  | milliseconds (d : Duration)
deriving DecidableEq

/-- A log event: `spans` are the request spans around it, from the outermost in. -/
structure Event where
  level : Level
  target : String
  message : String
  fields : List (String × FieldValue) := []
  spans : List RequestId := []
deriving DecidableEq

def optionalField (name : String) : Option String → List (String × FieldValue)
  | some s => [(name, .text s)]
  | none => []

def Duration.milliseconds (d : Duration) : Float :=
  (d.secs.toUInt64.toFloat + d.subsecNanos.toUInt64.toFloat / 1000000000.0) * 1000.0

def accessTarget : String := "courier::access"

def RequestOutcome.event (o : RequestOutcome) (spans : List RequestId) : Event :=
  let requestId := optionalField "request_id" (o.requestId.map (·.text))
  match o.status with
  | .http code =>
    { level := o.severity.level
      target := accessTarget
      message := "request completed"
      fields := [("method", .text o.request.method), ("path", .text o.request.target)] ++
        optionalField "remote_addr" (o.request.remoteAddr.map (·.text)) ++
        [("status", .number code.toNat), ("duration_ms", .milliseconds o.elapsed)] ++
        requestId ++
        optionalField "user_agent" o.request.userAgent ++
        optionalField "query" o.request.query
      spans := spans }
  | .rpc code =>
    { level := o.severity.level
      target := accessTarget
      message := "rpc completed"
      fields := [("rpc_method", .text o.request.target), ("grpc_code", .number code.number),
          ("grpc_status", .text code.name), ("duration_ms", .milliseconds o.elapsed)] ++
        requestId ++
        optionalField "error" o.error
      spans := spans }

end Gatehouse
