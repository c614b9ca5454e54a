import Gatehouse.Pipeline.Call
import Gatehouse.Pipeline.Moment

/-!
Running a call on a clock. Everything inside a guard runs in a task of its own. A guard sets its
timer before anything inside it can set one, so at one time guards act from the outermost in, and
then the handler: one that would end at the very expiry of its guard is too late.
-/
namespace Gatehouse

/-- The cancellation of a token: the run that does it, and how far the token hangs below the one
that is cancelled first. -/
structure Cancellation where
  moment : Moment
  distance : Nat
deriving DecidableEq

namespace Cancellation

def derived (c : Cancellation) : Cancellation := { c with distance := c.distance + 1 }

def tellsGuard (c : Cancellation) : Moment := .woken c.moment (.told (2 * c.distance))

def tellsHandler (c : Cancellation) : Moment := .woken c.moment (.told (2 * c.distance + 1))

end Cancellation

structure Note where
  label : String
  time : Instant
  deadline : Option (Nat × Bool)
deriving DecidableEq

inductive Effect where
  | record (position : Nat) (outcome : RequestOutcome)
  | event (event : Event)
  | note (note : Note)
deriving DecidableEq

/-- Where a call runs: from which moment, in the caller's own future or in a task, inside which
spans, and what will cancel its deadline or drop it. -/
structure Context where
  start : Moment
  inTask : Bool := false
  number : Nat := 0
  spans : List RequestId := []
  cancellation : Option Cancellation := none
  droppedAt : Option Moment := none
  tornDown : Bool := false

/-- What a call does: how it ends, if it does, and its effects. `torn` says that its task was gone
when it was looked at again. -/
structure Run where
  finish : Option (Moment × Ending)
  effects : List (Moment × Effect)
  torn : Bool := false

namespace Context

/-- A timer is assumed to be exact: what is set for a time runs at that time, where one that ticks
in whole milliseconds may run it up to one later. -/
def timerAt (ctx : Context) (now : Moment) (time : Instant) : Moment :=
  if ctx.inTask then .timer time now else .caller time 0

def afterEnd (ctx : Context) (m : Moment) : Moment :=
  if ctx.inTask then .woken m .ended else .caller m.time (m.round + 1)

def isCancelledAt (ctx : Context) (m : Moment) : Bool :=
  ctx.cancellation.any fun c => c.moment.notAfter m

/-- Whether a run still takes place: not once the future is dropped, and only the first look if its
tasks are torn down. -/
def reaches (ctx : Context) (m : Moment) : Bool :=
  if ctx.tornDown then m.notAfter ctx.start
  else ctx.droppedAt.all fun drop => m.notAfter drop

def note (ctx : Context) (scope : Scope) (m : Moment) (label : String) : Moment × Effect :=
  (m, .note
    { label := label, time := m.time
      deadline := scope.deadline.map fun d => (d.remaining m.time, ctx.isCancelledAt m) })

def wokenAt? (ctx : Context) (m : Moment) : Option Moment :=
  ctx.cancellation.map fun c => if c.moment.notAfter m then m else c.tellsHandler

def runSteps (ctx : Context) (scope : Scope) :
    Moment → List Step → List (Moment × Effect) × Option Moment
  | m, [] => ([], some m)
  | m, .sleep time :: rest =>
    ctx.runSteps scope (if time.nanos = 0 then m else ctx.timerAt m (m.time + time.nanos)) rest
  | m, .note label :: rest =>
    let (effects, last) := ctx.runSteps scope m rest
    (ctx.note scope m label :: effects, last)
  | m, .emit target message :: rest =>
    let (effects, last) := ctx.runSteps scope m rest
    let event := { level := .info, target := target, message := message, spans := ctx.spans }
    ((m, .event event) :: effects, last)
  | m, .awaitCancelled :: rest =>
    match scope.deadline, ctx.wokenAt? m with
    | none, _ => ctx.runSteps scope m rest
    | some _, none => ([], none)
    | some _, some woken =>
      let (effects, last) := ctx.runSteps scope woken rest
      (ctx.note scope woken "cancelled" :: effects, last)
  | _, .hang :: _ => ([], none)

def runHandler (ctx : Context) (scope : Scope) (script : Script) : Run :=
  let (effects, last) := ctx.runSteps scope ctx.start script.steps
  let ended := match last with
    | some m => [ctx.note scope m "end"]
    | none => []
  { finish := (last.filter ctx.reaches).map (·, script.ending)
    effects := (ctx.note scope ctx.start "start" :: effects ++ ended).filter fun e =>
      ctx.reaches e.1
    torn := ctx.tornDown && !last.any ctx.reaches }

/-- When a guard stops waiting at the latest: at its expiry, by an exact timer, or once it is told
that its token is cancelled. -/
def guardLimit (ctx : Context) (g : Guard) : Moment :=
  if g.deadline.expiresAt ≤ ctx.start.time || ctx.isCancelledAt ctx.start then ctx.start
  else
    let own := ctx.timerAt ctx.start g.deadline.expiresAt
    match ctx.cancellation with
    | some c => own.earlier c.derived.tellsGuard
    | none => own

def verdictAt (g : Guard) (limit : Moment) : Verdict :=
  if g.deadline.expiresAt ≤ limit.time then .expired else .cancelled

theorem verdict_of_none (g : Guard) (limit : Moment) :
    Verdict.of? none (g.deadline.expiresAt ≤ limit.time) true = some (verdictAt g limit) := by
  by_cases h : g.deadline.expiresAt ≤ limit.time <;> simp [Verdict.of?, verdictAt, h]

/-- When and how the token of a guard is cancelled, if its task does not end before: with the
guard's exit, with its drop, or with an enclosing token. -/
def tokenCancellation (ctx : Context) (g : Guard) : Cancellation :=
  let exit := ctx.guardLimit g
  let exit := (ctx.droppedAt.map exit.earlier).getD exit
  match ctx.cancellation with
  | some c => if c.moment.notAfter exit then c.derived else ⟨exit, 0⟩
  | none => ⟨exit, 0⟩

/-- Where the task of a guard runs. It is not dropped with the guard. -/
def inside (ctx : Context) (g : Guard) : Context :=
  { ctx with
    start := .woken ctx.start (.spawned ctx.number)
    inTask := true
    cancellation := some (ctx.tokenCancellation g)
    droppedAt := none }

def guardAnswers (ctx : Context) (g : Guard) (v : Verdict) (m : Moment)
    (effects : List (Moment × Effect)) : Run :=
  { finish := some (m, g.answer v)
    effects := effects ++ ((g.event? ctx.spans v).map fun e => (m, Effect.event e)).toList }

def runGuard (ctx : Context) (g : Guard) (task : Run) : Run :=
  let limit := ctx.guardLimit g
  if ctx.tornDown then
    if limit = ctx.start then ctx.guardAnswers g (verdictAt g limit) limit []
    else { ctx.guardAnswers g .aborted ctx.start [] with torn := true }
  else
    let answers (v : Verdict) (m : Moment) : Run :=
      if ctx.reaches m then ctx.guardAnswers g v m task.effects else { task with finish := none }
    match task.finish with
    | some (m, ending) =>
      if m.before limit then answers (.finished ending) ((ctx.afterEnd m).earlier limit)
      else answers (verdictAt g limit) limit
    | none => answers (verdictAt g limit) limit

end Context

/-- The record of how a call ended, if that leaves one: a crash leaves none, and so does a response
that cannot be classified, which is a crash itself. -/
def outcome? (protocol : Protocol) (request : RequestInfo) (slot : Option RequestId)
    (elapsed : Duration) : Ending → Except Grpc.ReadError (Option RequestOutcome)
  | .responded response => do
    let (status, error) ← protocol.classify response.status response.headers
    return some ⟨request, status, elapsed, response.requestId <|> slot, error⟩
  | .failed message => .ok (some ⟨request, protocol.transportFailure, elapsed, slot, message⟩)
  | .panicked _ => .ok none

def Sink.effect (sink : Sink) (position : Nat) (spans : List RequestId) (o : RequestOutcome) :
    Effect :=
  match sink with
  | .collect => .record position o
  | .log => .event (o.event spans)

namespace Context

def runLogged (ctx : Context) (position : Nat) (protocol : Protocol) (sink : Sink)
    (request : RequestInfo) (slot : Option RequestId) (inner : Run) : Run :=
  match inner.finish with
  | none => inner
  | some (m, ending) =>
    match outcome? protocol request slot (Duration.clamp (m.time - ctx.start.time)) ending with
    | .ok (some o) =>
      { inner with effects := inner.effects ++ [(m, sink.effect position ctx.spans o)] }
    | .ok none => inner
    | .error _ => { inner with finish := some (m, .panicked none) }

end Context

def Ending.publish (header : HeaderName) (id : RequestId) : Ending → Ending
  | .responded response => .responded (Gatehouse.publish header id response)
  | ending => ending

def Call.run : Call → Context → Run
  | .handler scope script, ctx => ctx.runHandler scope script
  | .logged position protocol sink request slot inner, ctx =>
    ctx.runLogged position protocol sink request slot (inner.run ctx)
  | .tagged header id inner, ctx =>
    let task := inner.run { ctx with spans := ctx.spans ++ [id] }
    { task with finish := task.finish.map fun (m, e) => (m, e.publish header id) }
  | .guarded g inner, ctx => ctx.runGuard g (inner.run (ctx.inside g))

def Call.handlerStart : Call → Context → Moment
  | .handler _ _, ctx => ctx.start
  | .logged _ _ _ _ _ inner, ctx => inner.handlerStart ctx
  | .tagged _ _ inner, ctx => inner.handlerStart ctx
  | .guarded g inner, ctx => inner.handlerStart (ctx.inside g)

end Gatehouse
