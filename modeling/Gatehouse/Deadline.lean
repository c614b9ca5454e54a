import Gatehouse.Time

/-!
Deadlines, alone and as a growing forest in which a child never outlives its parent.
-/
namespace Gatehouse

/-- When the caller stops waiting, and the limit that set this time. -/
structure Deadline where
  expiresAt : Instant
  timeout : Duration
deriving DecidableEq

namespace Deadline

def alone? (now : Instant) (timeout : Duration) : Option Deadline :=
  (Instant.after? now timeout).map (⟨·, timeout⟩)

/-- A deadline under an enclosing one: an enclosing deadline that expires no later stays in force.
-/
def under (own : Deadline) : Option Deadline → Deadline
  | some p => if p.expiresAt ≤ own.expiresAt then p else own
  | none => own

def derive? (now : Instant) (parent : Option Deadline) (timeout : Duration) : Option Deadline :=
  (alone? now timeout).map (·.under parent)

@[simp] theorem expiresAt_under_some (own p : Deadline) :
    (own.under (some p)).expiresAt = min p.expiresAt own.expiresAt := by
  simp only [under, Nat.min_def]
  split <;> rfl

def remaining (d : Deadline) (now : Instant) : Nat := Instant.timeLeft now d.expiresAt

theorem derive?_expiresAt_le {now : Instant} {p d : Deadline} {timeout : Duration}
    (h : derive? now (some p) timeout = some d) : d.expiresAt ≤ p.expiresAt := by
  obtain ⟨own, _, rfl⟩ := Option.map_eq_some_iff.1 h
  rw [expiresAt_under_some]
  exact Nat.min_le_left _ _

end Deadline

/-- A deadline in force, the one that was asked for, the place of the parent, and whether it has
been cancelled. -/
structure DeadlineNode where
  deadline : Deadline
  own : Deadline
  parent : Option Nat
  cancelled : Bool
deriving DecidableEq

structure DeadlineForest where
  now : Instant := 0
  nodes : List DeadlineNode := []
deriving DecidableEq

namespace DeadlineForest

inductive Failure where
  | unknownParent
  | clockOverflow
deriving DecidableEq

def parent? (f : DeadlineForest) : Option Nat → Except Failure (Option DeadlineNode)
  | none => .ok none
  | some i =>
    match f.nodes[i]? with
    | some n => .ok (some n)
    | none => .error .unknownParent

/-- Adds a deadline after the others. A child of a cancelled deadline is cancelled. -/
def derive (f : DeadlineForest) (parent : Option Nat) (timeout : Duration) :
    Except Failure DeadlineForest :=
  match f.parent? parent, Deadline.alone? f.now timeout with
  | .error e, _ => .error e
  | .ok _, none => .error .clockOverflow
  | .ok above, some own =>
    let node :=
      { deadline := own.under (above.map (·.deadline)), own, parent
        cancelled := above.any (·.cancelled) }
    .ok { f with nodes := f.nodes ++ [node] }

def advance (f : DeadlineForest) (time : Duration) : Except Failure DeadlineForest :=
  match Instant.after? f.now time with
  | some later => .ok { f with now := later }
  | none => .error .clockOverflow

inductive Op where
  | derive (parent : Option Nat) (timeout : Duration)
  | advance (time : Duration)
deriving DecidableEq

def apply (f : DeadlineForest) : Op → Except Failure DeadlineForest
  | .derive parent timeout => f.derive parent timeout
  | .advance time => f.advance time

def step (f : DeadlineForest) (op : Op) : Except Failure Unit × DeadlineForest :=
  match f.apply op with
  | .ok f => (.ok (), f)
  | .error e => (.error e, f)

def run (f : DeadlineForest) (ops : List Op) : DeadlineForest :=
  ops.foldl (fun f op => (f.step op).2) f

@[simp] theorem run_nil (f : DeadlineForest) : f.run [] = f := rfl

@[simp] theorem run_cons (f : DeadlineForest) (op : Op) (ops : List Op) :
    f.run (op :: ops) = (f.step op).2.run ops := rfl

end DeadlineForest

end Gatehouse
