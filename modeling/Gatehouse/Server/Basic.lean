import Gatehouse.Config.ServerConfig
import Gatehouse.Server.Lifecycle

/-!
The server opens both listeners or none, serves once they are open, and stops when it is told to.
What the system does with an attempt to open a listener is given.
-/
namespace Gatehouse

/-- What the system does when a listener is to be opened: it refuses, opens one that cannot tell its
address, or opens one at an address. -/
inductive Opening where
  | refused (reason : String)
  | unnamed (reason : String)
  | opened (address : SocketAddress)
deriving DecidableEq

structure Listeners where
  http : SocketAddress
  grpc : SocketAddress
deriving DecidableEq

inductive StartError where
  | http (configured : SocketAddress) (reason : String)
  | grpc (configured : SocketAddress) (reason : String)
  | unnamed (reason : String)
deriving DecidableEq

namespace StartError

def message : StartError → String
  | .http configured _ => "failed to bind HTTP listener on " ++ configured.text
  | .grpc configured _ => "failed to bind gRPC listener on " ++ configured.text
  | .unnamed reason => reason

def source? : StartError → Option String
  | .http _ reason | .grpc _ reason => some reason
  | .unnamed _ => none

end StartError

inductive ServeError where
  | notStarted
deriving DecidableEq

def ServeError.message : ServeError → String
  | .notStarted => "start() must be called before serve()"

/-- A server with the addresses of its listeners, each if it is open, and whether someone waits to
pass on the stop signal. -/
structure Server where
  config : ServerConfig
  lifecycle : Lifecycle := {}
  httpListener : Option SocketAddress := none
  grpcListener : Option SocketAddress := none
  awaitsSignal : Bool := false
deriving DecidableEq

def openListeners (config : ServerConfig) (http grpc : Opening) : Except StartError Listeners :=
  match http, grpc with
  | .refused reason, _ => .error (.http config.httpAddr reason)
  | _, .refused reason => .error (.grpc config.grpcAddr reason)
  | .unnamed reason, _ => .error (.unnamed reason)
  | _, .unnamed reason => .error (.unnamed reason)
  | .opened h, .opened g => .ok ⟨h, g⟩

namespace Server

def target : String := "courier_server::network::module"

def info (message : String) (fields : List (String × FieldValue)) : Event :=
  { level := .info, target := target, message := message, fields := fields }

def addressFields (l : Listeners) : List (String × FieldValue) :=
  [("http", .text l.http.text), ("grpc", .text l.grpc.text)]

/-- Keeps what it had unless both listeners could be opened. -/
def start (s : Server) (http grpc : Opening) : Except StartError (Listeners × List Event) × Server :=
  match openListeners s.config http grpc with
  | .ok l => (.ok (l, [info "listeners bound" (addressFields l)]),
      { s with httpListener := some l.http, grpcListener := some l.grpc })
  | .error e => (.error e, s)

def servingEvent (config : ServerConfig) : Event :=
  info "serving HTTP and gRPC"
    [("timeout", .text config.middleware.handlerTimeout.text),
      ("request_id_header", .text config.middleware.requestIdHeader.text)]

def listeners (s : Server) : Option Listeners :=
  match s.httpListener, s.grpcListener with
  | some http, some grpc => some ⟨http, grpc⟩
  | _, _ => none

/-- Begins to serve on the open listeners, which the server gives away. -/
def serve (s : Server) : Except ServeError (List Event) × Server :=
  match s.listeners with
  | none => (.error .notStarted, s)
  | some _ => (.ok [servingEvent s.config],
      { s with
        lifecycle := s.lifecycle.setReady
        httpListener := none
        grpcListener := none
        awaitsSignal := true })

def signal (s : Server) : List Event × Server :=
  ([info "shutdown signal received, draining listeners" []],
    { s with lifecycle := s.lifecycle.triggerShutdown, awaitsSignal := false })

def finish (s : Server) : List Event × Server :=
  ([info "server stopped" []], { s with lifecycle := s.lifecycle.markStopped })

def shutDown (s : Server) : List Event × Server :=
  let (drained, s) := s.signal
  let (stopped, s) := s.finish
  (drained ++ stopped, s)

end Server

end Gatehouse
