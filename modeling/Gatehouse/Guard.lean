import Gatehouse.Protocol
import Gatehouse.Pipeline.Layer
import Gatehouse.Event

/-!
The deadline guard answers its caller by the first of three: the end of the task that it started for
the handler, its own expiry, and the cancellation of an enclosing guard.
-/
namespace Gatehouse

inductive TaskEnd where
  | done (ending : Ending)
  | aborted
deriving DecidableEq

inductive Verdict where
  | finished (ending : Ending)
  | aborted
  | expired
  | cancelled
deriving DecidableEq

/-- What a guard decides when it looks at its task, its expiry and its cancellation. -/
def Verdict.of? (task : Option TaskEnd) (expired cancelled : Bool) : Option Verdict :=
  match task with
  | some (.done ending) => some (.finished ending)
  | some .aborted => some .aborted
  | none => if expired then some .expired else if cancelled then some .cancelled else none

/-- A guard around a handler: its deadline, and the limit of the enclosing deadline if any. -/
structure Guard where
  protocol : Protocol
  deadline : Deadline
  enclosingTimeout : Option Duration
deriving DecidableEq

namespace Guard

/-- The limit that a guard names when an enclosing one is cancelled. -/
def cancelledTimeout (g : Guard) : Duration := g.enclosingTimeout.getD g.deadline.timeout

def answer (g : Guard) : Verdict → Ending
  | .finished ending => ending
  | .aborted => .responded g.protocol.handlerAborted
  | .expired => .responded (g.protocol.deadlineExceeded g.deadline.timeout)
  | .cancelled => .responded (g.protocol.deadlineExceeded g.cancelledTimeout)

def target : String := "courier_server::middleware::deadline"

def event? (g : Guard) (spans : List RequestId) : Verdict → Option Event
  | .finished _ => none
  | .aborted => some
    { level := .warn, target := target, message := "handler task aborted before completing"
      fields := [("error", .text "task was cancelled")], spans := spans }
  | .expired => some
    { level := .debug, target := target, message := "deadline exceeded, handler left running"
      fields := [("timeout", .text g.deadline.timeout.text)], spans := spans }
  | .cancelled => some
    { level := .debug, target := target
      message := "enclosing deadline cancelled, handler left running"
      fields := [("timeout", .text g.cancelledTimeout.text)], spans := spans }

end Guard

end Gatehouse
