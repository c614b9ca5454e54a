import Gatehouse.Guard

/-!
The race that a guard settles. Its moves come in any order and number: the guard looks at what it
waits for, its task ends, time passes, an enclosing token is cancelled, the caller drops the guard.
-/
namespace Gatehouse

/-- Cancels the token at a place of a chain, each of whose tokens hangs below the next one, and so
all that hang below it. -/
def cancelAt (place : Nat) (tokens : List Bool) : List Bool :=
  if place < tokens.length then List.replicate (place + 1) true ++ tokens.drop (place + 1)
  else tokens

@[simp] theorem length_cancelAt (place : Nat) (tokens : List Bool) :
    (cancelAt place tokens).length = tokens.length := by
  unfold cancelAt
  split
  · simp only [List.length_append, List.length_replicate, List.length_drop]
    omega
  · rfl

@[simp] theorem cancelAt_zero_cons (own : Bool) (enclosing : List Bool) :
    cancelAt 0 (own :: enclosing) = true :: enclosing := by simp [cancelAt]

structure Settlement where
  task : Option TaskEnd
  expired : Bool
  cancelled : Bool
  answer : Ending
deriving DecidableEq

/-- A guard on its way: the clock, how its task ended, whether it has been looked at or dropped, the
tokens from its own out, and what it answered. -/
structure Race where
  now : Instant
  task : Option TaskEnd := none
  looked : Bool := false
  dropped : Bool := false
  tokens : List Bool
  settlements : List Settlement := []
deriving DecidableEq

namespace Race

def begin (now : Instant) (enclosing : List Bool) : Race where
  now := now
  tokens := enclosing.headD false :: enclosing

def isCancelled (r : Race) : Bool := r.tokens.headD false

def exited (r : Race) : Bool := r.dropped || !r.settlements.isEmpty

def isExpired (g : Guard) (r : Race) : Bool := g.deadline.expiresAt ≤ r.now

inductive Move where
  | look
  | taskEnds (task : TaskEnd)
  | advance (time : Duration)
  | cancelEnclosing (place : Nat)
  | drop
deriving DecidableEq

def exit (r : Race) : Race := { r with tokens := cancelAt 0 r.tokens }

/-- The first look starts the task; one that has a verdict is the last. -/
def look (g : Guard) (r : Race) : Race :=
  let r := { r with looked := true }
  match Verdict.of? r.task (r.isExpired g) r.isCancelled with
  | none => r
  | some verdict =>
    let settlement := ⟨r.task, r.isExpired g, r.isCancelled, g.answer verdict⟩
    { r.exit with settlements := r.settlements ++ [settlement] }

/-- A guard that was never looked at leaves no trace when it is dropped. -/
def drop (r : Race) : Race :=
  let r := { r with dropped := true }
  if r.looked then r.exit else r

def step (g : Guard) (r : Race) : Move → Race
  | .look => if r.exited then r else r.look g
  | .taskEnds task => if r.looked && r.task.isNone then { r with task := some task } else r
  | .advance time => { r with now := r.now + time.nanos }
  | .cancelEnclosing place => { r with tokens := cancelAt (place + 1) r.tokens }
  | .drop => if r.exited then r else r.drop

def run (g : Guard) (r : Race) (moves : List Move) : Race := moves.foldl (step g) r

@[simp] theorem run_nil (g : Guard) (r : Race) : r.run g [] = r := rfl

@[simp] theorem run_cons (g : Guard) (r : Race) (move : Move) (moves : List Move) :
    r.run g (move :: moves) = (r.step g move).run g moves := rfl

end Race

end Gatehouse
