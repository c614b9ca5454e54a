import Gatehouse.Pipeline.Run

/-!
Requests served one after the other on one clock. Handlers that outlive their requests go on beside
the later ones, and all effects end up on one timeline.
-/
namespace Gatehouse

structure Inherited where
  timeout : Option Duration := none
  /-- Whether the deadline that the last started handler saw takes its place. -/
  reuse : Bool := false

structure Arrival where
  request : Request
  handler : Handler
  requestId : Option RequestId := none
  inherited : Inherited := {}
  gap : Duration := Duration.zero
  abandonAfter : Option Duration := none

inductive Result where
  | ended (ending : Ending)
  | abandoned
  | unfinished
deriving DecidableEq

structure Served where
  start : Instant
  finish : Instant
  result : Result
  scope : Option Scope
deriving DecidableEq

structure SeenDeadline where
  deadline : Deadline
  cancelled : Bool
deriving DecidableEq

structure Entry where
  moment : Moment
  request : Nat
  effect : Effect

structure Simulation where
  layers : List Layer
  notReady : Option String := none
  ids : IdSource
  now : Moment := .caller 0 0
  /-- When the handlers start and the deadlines that they see, the last request first. -/
  started : List (Moment × Option SeenDeadline) := []
  served : List Served := []
  timeline : List Entry := []

namespace Simulation

def after (now : Moment) (time : Duration) : Moment :=
  if time.nanos = 0 then now else .caller (now.time + time.nanos) 0

def lastSeen (s : Simulation) : Option SeenDeadline :=
  let started := s.started.filter fun e => e.1.notAfter s.now
  (started.foldr (fun e last => match last with
    | some l => if e.1.before l.1 then some l else some e
    | none => some e) none).bind (·.2)

def inheritedDeadline (s : Simulation) (i : Inherited) : Option SeenDeadline :=
  let derived := (i.timeout.bind (Deadline.derive? s.now.time none)).map (⟨·, false⟩)
  if i.reuse then s.lastSeen <|> derived else derived

def refuse (s : Simulation) (ending : Ending) : Simulation :=
  { s with served := s.served ++ [⟨s.now.time, s.now.time, .ended ending, none⟩] }

def context (s : Simulation) (a : Arrival) (inherited : Option SeenDeadline) : Context :=
  { start := s.now
    number := s.served.length
    cancellation := inherited.bind fun i => if i.cancelled then some ⟨s.now, 0⟩ else none
    droppedAt := a.abandonAfter.map (after s.now) }

def runCall (s : Simulation) (a : Arrival) (inherited : Option SeenDeadline) (call : Call) :
    Simulation :=
  let ctx := s.context a inherited
  let run := call.run ctx
  let (last, result) : Moment × Result :=
    match run.finish, ctx.droppedAt with
    | some (m, ending), _ => (m, .ended ending)
    | none, some drop => (drop, .abandoned)
    | none, none => (s.now, .unfinished)
  let seen := call.scope.deadline.map fun d =>
    ⟨d, call.guards > 0 || inherited.any (·.cancelled)⟩
  { s with
    now := last
    started := (call.handlerStart ctx, seen) :: s.started
    served := s.served ++ [⟨s.now.time, last.time, result, some call.scope⟩]
    timeline := s.timeline ++ run.effects.map fun (m, e) => ⟨m, s.served.length, e⟩ }

def serve (s : Simulation) (a : Arrival) : Simulation :=
  let s := { s with now := after s.now a.gap }
  match s.notReady with
  | some message => s.refuse (.failed message)
  | none =>
    let inherited := s.inheritedDeadline a.inherited
    let scope : Scope := ⟨a.requestId, inherited.map (·.deadline)⟩
    let (entered, ids) := enter s.now.time a.handler a.request s.layers 0 scope s.ids
    let s := { s with ids := ids }
    match entered with
    | none => s.refuse (.panicked none)
    | some e => s.runCall a inherited e.call

def serveAll (s : Simulation) (arrivals : List Arrival) : Simulation := arrivals.foldl serve s

/-- What happens before the clock has moved on by `drain` after the last request, in order. -/
def drained (s : Simulation) (drain : Duration) : List Entry :=
  let final := after s.now drain
  (s.timeline.filter fun e => e.moment.notAfter final).mergeSort fun a b =>
    a.moment.notAfter b.moment

def recordsAt (position : Nat) (entries : List Entry) : List RequestOutcome :=
  entries.filterMap fun e =>
    match e.effect with
    | .record p o => if p = position then some o else none
    | _ => none

def events (entries : List Entry) : List Event :=
  entries.filterMap fun e =>
    match e.effect with
    | .event event => some event
    | _ => none

def notesOf (request : Nat) (entries : List Entry) : List Note :=
  entries.filterMap fun e =>
    match e.effect with
    | .note note => if e.request = request then some note else none
    | _ => none

def collecting (layers : List Layer) : List Nat :=
  (layers.zipIdx.filter fun (l, _) =>
    match l with
    | .accessLog _ .collect => true
    | _ => false).map (·.2)

end Simulation

/-- A request whose tasks are torn down after its future has been looked at once. -/
structure TornDown where
  torn : Bool
  result : Result
  scope : Option Scope
  entries : List Entry

def tearDown (layers : List Layer) (notReady : Option String) (ids : IdSource) (a : Arrival)
    (now : Instant := 0) : TornDown :=
  match notReady with
  | some message => ⟨false, .ended (.failed message), none, []⟩
  | none =>
    let deadline := a.inherited.timeout.bind (Deadline.derive? now none)
    let (entered, _) := enter now a.handler a.request layers 0 ⟨a.requestId, deadline⟩ ids
    match entered with
    | none => ⟨false, .ended (.panicked none), none, []⟩
    | some e =>
      let run := e.call.run { start := .caller now 0, tornDown := true }
      let result := match run.finish with
        | some (_, ending) => .ended ending
        | none => .unfinished
      ⟨run.torn, result, some e.call.scope,
        run.effects.map fun (m, e) => ⟨m, 0, e⟩⟩

end Gatehouse
