import Gatehouse.Pipeline.Run
import Gatehouse.Server.Health

namespace Gatehouse

namespace Router

def isAllowed (m : Method) : Bool := m = .get || m = .head

def respond (state : HealthState) (uptimeSecs : Nat) (request : Request) (scope : Scope) :
    Response :=
  match Probe.ofPath? request.uri.path with
  | none => { status := .notFound }
  | some probe =>
    if isAllowed request.method then probe.answer state uptimeSecs scope
    else { status := .methodNotAllowed }

def handler (state : HealthState) (uptimeSecs : Nat) : Handler := fun request scope =>
  ⟨[], .responded (respond state uptimeSecs request scope)⟩

def allowedValue : HeaderValue := ⟨Utf8.encode "GET,HEAD".toList, by decide⟩

/-- Tells the allowed methods where another one was tried, unless the header is taken. -/
def withAllowed (request : Request) (response : Response) : Response :=
  if (Probe.ofPath? request.uri.path).isSome && !isAllowed request.method &&
      (response.headers.get? .allow).isNone then
    { response with headers := response.headers.append .allow allowedValue }
  else response

def withoutBody (request : Request) (response : Response) : Response :=
  if request.method = .head then { response with body := "" } else response

def complete (request : Request) : Ending → Ending
  | .responded response => .responded (withoutBody request (withAllowed request response))
  | ending => ending

end Router

structure Answered where
  ending : Ending
  events : List Event
deriving DecidableEq

def eventsOf (effects : List (Moment × Effect)) : List Event :=
  effects.filterMap fun e =>
    match e.2 with
    | .event event => some event
    | _ => none

/-- Answers a request that arrives at a time. The probes themselves take no time. -/
def Router.answer (config : MiddlewareConfig) (state : HealthState) (uptimeSecs : Nat)
    (now : Instant) (request : Request) (ids : IdSource) : Answered × IdSource :=
  let layers := pipeline .http config .log
  match enter now (handler state uptimeSecs) request layers 0 {} ids with
  | (none, ids) => (⟨.panicked none, []⟩, ids)
  | (some entered, ids) =>
    let run := entered.call.run { start := .caller now 0 }
    let ending := match run.finish with
      | some (_, ending) => ending
      | none => .panicked none
    (⟨complete request ending, eventsOf run.effects⟩, ids)

structure Router where
  config : MiddlewareConfig
  ids : IdSource
  startedAt : Instant := 0
  lifecycle : Lifecycle := {}

namespace Router

inductive Op where
  | life (op : Lifecycle.Op)
  | request (now : Instant) (request : Request)

def step (r : Router) : Op → Option Answered × Router
  | .life op => (none, { r with lifecycle := r.lifecycle.step op })
  | .request now request =>
    let uptimeSecs := Instant.timeLeft r.startedAt now / 1000000000
    let (answered, ids) := answer r.config r.lifecycle.state uptimeSecs now request r.ids
    (some answered, { r with ids := ids })

def run (r : Router) (ops : List Op) : Router := ops.foldl (fun r op => (r.step op).2) r

@[simp] theorem run_nil (r : Router) : r.run [] = r := rfl

@[simp] theorem run_cons (r : Router) (op : Op) (ops : List Op) :
    r.run (op :: ops) = (r.step op).2.run ops := rfl

end Router

end Gatehouse
