import Gatehouse.Config.Arguments
import Gatehouse.Text.Quoted

namespace Gatehouse

structure ServerConfig where
  httpAddr : SocketAddress := .v4 ⟨0, 0, 0, 0⟩ 8080
  grpcAddr : SocketAddress := .v4 ⟨0, 0, 0, 0⟩ 50051
  middleware : MiddlewareConfig := {}
  logging : LoggingConfig := {}
deriving DecidableEq

inductive ConfigError where
  | invalidHeaderName (name : String)
  | addressConflict (address : SocketAddress)
deriving DecidableEq

namespace ConfigError

def headerNameReason : String := "invalid HTTP header name"

def message : ConfigError → String
  | .invalidHeaderName name =>
    "invalid request id header " ++ Quoted.text name ++ ": " ++ headerNameReason
  | .addressConflict address => "HTTP and gRPC listeners cannot share address " ++ address.text

def source? : ConfigError → Option String
  | .invalidHeaderName _ => some headerNameReason
  | .addressConflict _ => none

end ConfigError

namespace ServerConfig

/-- Checks the header name first, then that the listeners do not share an address. Port zero stands
for a port of the system's choice, so it is never shared. -/
def ofSettings (v : Settings) : Except ConfigError ServerConfig :=
  match HeaderName.ofText? v.requestIdHeader with
  | none => .error (.invalidHeaderName v.requestIdHeader)
  | some header =>
    if v.httpAddr = v.grpcAddr ∧ v.httpAddr.port ≠ 0 then .error (.addressConflict v.httpAddr)
    else .ok
      { httpAddr := v.httpAddr
        grpcAddr := v.grpcAddr
        middleware := ⟨effectiveTimeout (Duration.ofMillis v.handlerTimeout), header⟩
        logging := ⟨v.logFormat, v.logFilter⟩ }

def record (name : String) (fields : List (String × String)) : String :=
  name ++ " \x7b " ++ ", ".intercalate (fields.map fun (n, v) => n ++ ": " ++ v) ++ " \x7d"

def formatText : LogFormat → String
  | .pretty => "Pretty"
  | .json => "Json"

def text (c : ServerConfig) : String :=
  record "ServerConfig"
    [("http_addr", c.httpAddr.text), ("grpc_addr", c.grpcAddr.text),
      ("middleware", record "MiddlewareConfig"
        [("handler_timeout", c.middleware.handlerTimeout.text),
          ("request_id_header", Quoted.text c.middleware.requestIdHeader.text)]),
      ("logging", record "LoggingConfig"
        [("format", formatText c.logging.format), ("filter", Quoted.text c.logging.filter)])]

end ServerConfig

end Gatehouse
