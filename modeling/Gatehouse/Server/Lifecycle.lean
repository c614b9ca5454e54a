namespace Gatehouse

inductive HealthState where
  | starting
  | ready
  | draining
  | stopped
deriving DecidableEq

namespace HealthState

def name : HealthState → String
  | .starting => "starting"
  | .ready => "ready"
  | .draining => "draining"
  | .stopped => "stopped"

def rank : HealthState → Nat
  | .starting => 0
  | .ready => 1
  | .draining => 2
  | .stopped => 3

end HealthState

/-- The health state, whether the stop signal was given, and for everyone who waits for it, in the
order of their arrival, whether their wait is over. -/
structure Lifecycle where
  state : HealthState := .starting
  triggered : Bool := false
  waiters : List Bool := []
deriving DecidableEq

namespace Lifecycle

def setReady (l : Lifecycle) : Lifecycle := { l with state := .ready }

def triggerShutdown (l : Lifecycle) : Lifecycle :=
  { state := .draining, triggered := true, waiters := l.waiters.map fun _ => true }

def markStopped (l : Lifecycle) : Lifecycle := { l with state := .stopped }

def addWaiter (l : Lifecycle) : Lifecycle := { l with waiters := l.waiters ++ [l.triggered] }

inductive Op where
  | setReady
  | triggerShutdown
  | markStopped
  | addWaiter
deriving DecidableEq

def step (l : Lifecycle) : Op → Lifecycle
  | .setReady => l.setReady
  | .triggerShutdown => l.triggerShutdown
  | .markStopped => l.markStopped
  | .addWaiter => l.addWaiter

def run (l : Lifecycle) (ops : List Op) : Lifecycle := ops.foldl step l

@[simp] theorem run_nil (l : Lifecycle) : l.run [] = l := rfl

@[simp] theorem run_cons (l : Lifecycle) (op : Op) (ops : List Op) :
    l.run (op :: ops) = (l.step op).run ops := rfl

theorem run_append (l : Lifecycle) (ops more : List Op) :
    l.run (ops ++ more) = (l.run ops).run more := List.foldl_append

end Lifecycle

end Gatehouse
