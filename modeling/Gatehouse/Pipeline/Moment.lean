import Gatehouse.Time

/-!
Moments: when something runs. At one time the caller's own future is looked at first, if a timer of
its own is due; then every task whose timer is due, in the order in which the timers were set; then
the tasks that those runs wake, in the order in which they are woken. Once no task is left to run,
the caller's future is looked at again, and so on in rounds.
-/
namespace Gatehouse

/-- Why one run makes a task run after it: it tells the task of a cancellation, it has spawned it,
or the task waited for its end. -/
inductive Wake where
  | told (place : Nat)
  | spawned (number : Nat)
  | ended
deriving DecidableEq

namespace Wake

def rank : Wake → Nat × Nat
  | .told place => (0, place)
  | .spawned number => (1, number)
  | .ended => (2, 0)

def cmp (v w : Wake) : Ordering :=
  (compare v.rank.1 w.rank.1).then (compare v.rank.2 w.rank.2)

end Wake

/-- A run: of the caller's own future in some round, of a task whose timer is due, with the run that
set it, or of a task that another run has woken. -/
inductive Moment where
  | caller (time : Instant) (round : Nat)
  | timer (time : Instant) (setAt : Moment)
  | woken (source : Moment) (wake : Wake)
deriving DecidableEq

namespace Moment

def time : Moment → Instant
  | .caller time _ => time
  | .timer time _ => time
  | .woken source _ => source.time

def round : Moment → Nat
  | .caller _ round => round
  | .timer _ _ => 0
  | .woken source _ => source.round

/-- How many runs of one time lie between a run and the look of the caller in its round. -/
def generation : Moment → Nat
  | .caller _ _ => 0
  | .timer _ _ => 1
  | .woken source _ => source.generation + 1

def cmp (m n : Moment) : Ordering :=
  (compare m.time n.time).then <| (compare m.round n.round).then <|
    (compare m.generation n.generation).then <|
      match m, n with
      | .timer _ a, .timer _ b => cmp a b
      | .timer _ _, _ => .lt
      | _, .timer _ _ => .gt
      | .woken a v, .woken b w => (cmp a b).then (v.cmp w)
      | _, _ => .eq

def before (m n : Moment) : Bool := m.cmp n = .lt

def notAfter (m n : Moment) : Bool := !n.before m

def earlier (m n : Moment) : Moment := if n.before m then n else m

theorem before_of_time_lt {m n : Moment} (h : m.time < n.time) : m.before n = true := by
  have : compare m.time n.time = .lt := Nat.compare_eq_lt.2 h
  rw [before, cmp.eq_def, this]
  rfl

theorem not_before_of_time_lt {m n : Moment} (h : n.time < m.time) : m.before n = false := by
  have : compare m.time n.time = .gt := Nat.compare_eq_gt.2 h
  rw [before, cmp.eq_def, this]
  rfl

theorem before_woken (m : Moment) (w : Wake) : m.before (.woken m w) = true := by
  rw [before, cmp.eq_def]
  simp [time, round, generation, Nat.compare_eq_lt.2 (Nat.lt_succ_self _)]

theorem time_le_of_before {m n : Moment} (h : m.before n = true) : m.time ≤ n.time := by
  rcases Nat.lt_or_ge n.time m.time with hlt | hge
  · rw [not_before_of_time_lt hlt] at h; cases h
  · exact hge

end Moment

end Gatehouse
