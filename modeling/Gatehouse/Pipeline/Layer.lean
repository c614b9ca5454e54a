import Gatehouse.Deadline
import Gatehouse.Protocol

/-!
Handlers, the layers that stand around them, and the stack that every request of the server passes.
-/
namespace Gatehouse

structure Scope where
  requestId : Option RequestId := none
  deadline : Option Deadline := none
deriving DecidableEq

/-- How serving a request ends: with a response, with an error of the service, or by a crash whose
message may not be its own. -/
inductive Ending where
  | responded (response : Response)
  | failed (message : String)
  | panicked (message : Option String)
deriving DecidableEq

inductive Step where
  | sleep (time : Duration)
  | note (label : String)
  | awaitCancelled
  | emit (target message : String)
  | hang
deriving DecidableEq

structure Script where
  steps : List Step
  ending : Ending
deriving DecidableEq

/-- A handler chooses its steps by the request and what is attached to it. -/
abbrev Handler := Request → Scope → Script

def Response.empty : Response := { status := .ok }

inductive Sink where
  | collect
  | log
deriving DecidableEq

inductive Layer where
  | accessLog (protocol : Protocol) (sink : Sink)
  | requestId (header : HeaderName)
  | deadline (protocol : Protocol) (configured : Duration)
deriving DecidableEq

def Layer.timeout? : Layer → Option Duration
  | .deadline _ configured => some (effectiveTimeout configured)
  | _ => none

structure MiddlewareConfig where
  handlerTimeout : Duration := defaultTimeout
  requestIdHeader : HeaderName := .requestId
deriving DecidableEq

/-- The standard stack, outermost first: the record covers the ID, and both cover the limit. -/
def pipeline (protocol : Protocol) (config : MiddlewareConfig) (sink : Sink) : List Layer :=
  [.accessLog protocol sink, .requestId config.requestIdHeader,
    .deadline protocol config.handlerTimeout]

end Gatehouse
