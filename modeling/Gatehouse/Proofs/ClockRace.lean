import Gatehouse.Proofs.Race
import Gatehouse.Proofs.Timing
import Mathlib.Algebra.GroupWithZero.Nat

/-!
The run of a guard on a clock is its race under one order of moves: that in which the clock has the
guard started, its task ended or its token cancelled, and the guard looked at again.
-/
namespace Gatehouse

namespace Race

variable {g : Guard} {r : Race}

theorem step_look_of_none (hr : r.exited = false) (hs : r.settlement? g = none) :
    r.step g .look = { r with looked := true } := by
  rw [step, if_neg (Bool.eq_false_iff.1 hr), look_of_none hs]

theorem step_look_of_some (hr : r.exited = false) {s : Settlement} (hs : r.settlement? g = some s) :
    r.step g .look = r.settle s := by
  rw [step, if_neg (Bool.eq_false_iff.1 hr), look_of_some hs]

theorem settlement?_of_verdict {verdict : Verdict}
    (hv : Verdict.of? r.task (r.isExpired g) r.isCancelled = some verdict) :
    r.settlement? g = some ⟨r.task, r.isExpired g, r.isCancelled, g.answer verdict⟩ :=
  Option.map_eq_some_iff.2 ⟨verdict, hv, rfl⟩

def Move.time : Move → Nat
  | .advance time => time.nanos
  | _ => 0

theorem Change.now_eq {r' : Race} {move : Move} (hc : Change g r move r') (h : move.time = 0) :
    r'.now = r.now := by
  cases hc with
  | advance time => exact congrArg (r.now + ·) h
  | _ => rfl

theorem now_step (g : Guard) (r : Race) (move : Move) : (r.step g move).now = r.now + move.time := by
  cases move with
  | advance time => rfl
  | _ => exact (change_step g r _).now_eq rfl

theorem now_run (g : Guard) (r : Race) (moves : List Move) :
    (r.run g moves).now = r.now + (moves.map Move.time).sum := by
  induction moves generalizing r with
  | nil => rfl
  | cons move moves ih =>
    rw [run_cons, ih, now_step, List.map_cons, List.sum_cons, Nat.add_assoc]

theorem answers_of_last_look {moves : List Move} (hr : (r.run g moves).exited = false)
    {verdict : Verdict}
    (hv : Verdict.of? (r.run g moves).task ((r.run g moves).isExpired g)
      (r.run g moves).isCancelled = some verdict) :
    (r.run g (moves ++ [.look])).settlements.map (·.answer) = [g.answer verdict] := by
  rw [run_append, run_cons, run_nil, step_look_of_some hr (settlement?_of_verdict hv), settle,
    settlements_of_not_exited hr]
  rfl

end Race

namespace Context

variable {ctx : Context} {g : Guard} {task : Run}

/-- Whether a guard answers at its first look. -/
def isLate (ctx : Context) (g : Guard) : Bool :=
  g.deadline.expiresAt ≤ ctx.start.time || ctx.isCancelledAt ctx.start

def since (ctx : Context) (m : Moment) : Duration := Duration.clamp (m.time - ctx.start.time)

def turnsAtLimit (ctx : Context) (g : Guard) : List Race.Move :=
  let limit := ctx.guardLimit g
  let told : List Race.Move :=
    if limit.time < g.deadline.expiresAt then [.cancelEnclosing 0] else []
  .look :: .advance (ctx.since limit) :: (told ++ [.look])

/-- The moves of a guard in the order in which a run on a clock takes them. -/
def turns (ctx : Context) (g : Guard) (task : Run) : List Race.Move :=
  if ctx.tornDown then [.look, .taskEnds .aborted, .look]
  else
    match task.finish with
    | some (m, ending) =>
      if m.before (ctx.guardLimit g) then
        [.look, .advance (ctx.since m), .taskEnds (.done ending), .look]
      else ctx.turnsAtLimit g
    | none => ctx.turnsAtLimit g

def race (ctx : Context) : Race := Race.begin ctx.start.time [ctx.isCancelledAt ctx.start]

@[simp] theorem now_race (ctx : Context) : ctx.race.now = ctx.start.time := rfl

theorem guardLimit_of_late (h : ctx.isLate g = true) : ctx.guardLimit g = ctx.start := if_pos h

theorem start_le_of_not_late (h : ctx.isLate g = false) :
    ctx.start.time ≤ (ctx.guardLimit g).time ∧
      (ctx.guardLimit g).time ≤ g.deadline.expiresAt ∧ ctx.guardLimit g ≠ ctx.start := by
  rw [isLate] at h
  have hne := Bool.eq_false_iff.1 h
  rw [Bool.or_eq_false_iff, decide_eq_false_iff_not, Nat.not_le] at h
  rw [guardLimit, if_neg hne]
  have hown (time : Instant) (ht : ctx.start.time < time) :
      ctx.timerAt ctx.start time ≠ ctx.start := by
    intro he
    have ht' := congrArg Moment.time he
    rw [time_timerAt] at ht'
    exact Nat.ne_of_gt ht ht'
  cases hc : ctx.cancellation with
  | none =>
    simp only [time_timerAt]
    exact ⟨Nat.le_of_lt h.1, Nat.le_refl _, hown _ h.1⟩
  | some c =>
    have hb : ctx.start.before c.moment = true := by
      have hn := h.2
      rw [isCancelledAt, hc, Option.any_some, Moment.notAfter, Bool.not_eq_false'] at hn
      exact hn
    have hle := Moment.time_le_of_before hb
    simp only [Moment.time_earlier, time_timerAt]
    -- the run that tells the guard comes after the one that cancels
    have htold : c.derived.tellsGuard ≠ ctx.start := by
      intro he
      have hw : c.moment.before c.derived.tellsGuard = true := Moment.before_woken _ _
      rw [he, Moment.not_before_of_before hb] at hw
      cases hw
    constructor
    · exact Nat.le_min.2 ⟨Nat.le_of_lt h.1, hle⟩
    constructor
    · exact Nat.min_le_left _ _
    · rw [Moment.earlier]
      split
      · exact htold
      · exact hown _ h.1

theorem since_add {m : Moment} (h : ctx.start.time ≤ m.time) (hm : m.time < Instant.limit) :
    ctx.start.time + (ctx.since m).nanos = m.time := by
  have hlt : m.time - ctx.start.time < 18446744073709551616000000000 :=
    Nat.lt_of_le_of_lt (Nat.sub_le _ _) (Nat.lt_trans hm (by decide))
  rw [since, Duration.clamp, dif_pos hlt]
  exact Nat.add_sub_cancel' h

theorem settle_of_late (h : ctx.isLate g = true) :
    ∃ s, ctx.race.step g .look = ctx.race.settle s ∧
      s.answer = g.answer (verdictAt g (ctx.guardLimit g)) := by
  have hl := guardLimit_of_late h
  rw [isLate, Bool.or_eq_true, decide_eq_true_eq] at h
  have hv : Verdict.of? none (decide (g.deadline.expiresAt ≤ ctx.start.time))
      (ctx.isCancelledAt ctx.start) = some (verdictAt g ctx.start) := by
    by_cases he : g.deadline.expiresAt ≤ ctx.start.time
    · simp [Verdict.of?, verdictAt, he]
    · have hc := h.resolve_left he
      simp [Verdict.of?, verdictAt, he, hc]
  rw [hl]
  exact ⟨_, Race.step_look_of_some rfl (Race.settlement?_of_verdict hv), rfl⟩

theorem wait_of_not_late (h : ctx.isLate g = false) :
    ctx.race.step g .look = { ctx.race with looked := true } := by
  rw [isLate, Bool.or_eq_false_iff] at h
  apply Race.step_look_of_none rfl
  apply Option.map_eq_none_iff.2
  change Verdict.of? none (decide (g.deadline.expiresAt ≤ ctx.start.time))
    (ctx.isCancelledAt ctx.start) = none
  rw [h.1, h.2]
  rfl

theorem answers_of_late (h : ctx.isLate g = true) (moves : List Race.Move) :
    (ctx.race.run g (.look :: moves)).settlements.map (·.answer) =
      [g.answer (verdictAt g (ctx.guardLimit g))] := by
  obtain ⟨s, hs, ha⟩ := settle_of_late h
  rw [Race.run_cons, hs, (Race.settlements_run_of_exited (Race.exited_settle _ s) moves).2]
  exact congrArg (· :: []) ha

theorem answers_of_task (h : ctx.isLate g = false) (moves : List Race.Move) {task : TaskEnd}
    {now : Instant}
    (hm : Race.run g { ctx.race with looked := true } moves =
      { ctx.race with looked := true, now := now, task := some task }) :
    (ctx.race.run g (.look :: (moves ++ [.look]))).settlements.map (·.answer) =
      [g.answer task.verdict] := by
  rw [Race.run_cons, wait_of_not_late h]
  apply Race.answers_of_last_look
  · rw [hm]
    rfl
  · rw [hm]
    cases task <;> rfl

theorem answers_at_limit (h : ctx.isLate g = false) (hm : (ctx.guardLimit g).time < Instant.limit) :
    (ctx.race.run g (ctx.turnsAtLimit g)).settlements.map (·.answer) =
      [g.answer (verdictAt g (ctx.guardLimit g))] := by
  have hsum := since_add (start_le_of_not_late h).1 hm
  have hc : ctx.isCancelledAt ctx.start = false := (Bool.or_eq_false_iff.1 h).2
  have hrace : ctx.race = { now := ctx.start.time, tokens := [false, false] } := by
    rw [race, Race.begin, hc]
    rfl
  rw [turnsAtLimit, Race.run_cons, wait_of_not_late h, Race.run_cons, Race.step, hrace]
  simp only [hsum]
  by_cases hlt : (ctx.guardLimit g).time < g.deadline.expiresAt
  · rw [if_pos hlt]
    apply Race.answers_of_last_look rfl
    exact verdict_of_none g (ctx.guardLimit g)
  · rw [if_neg hlt]
    apply Race.answers_of_last_look rfl
    rw [verdictAt, if_pos (Nat.le_of_not_lt hlt)]
    simp [Verdict.of?, Race.isExpired, Nat.le_of_not_lt hlt]

theorem start_le_guardLimit (ctx : Context) (g : Guard) :
    ctx.start.time ≤ (ctx.guardLimit g).time := by
  cases h : ctx.isLate g with
  | true => exact Nat.le_of_eq (congrArg Moment.time (guardLimit_of_late h).symm)
  | false => exact (start_le_of_not_late h).1

theorem turnsAtLimit_race (hm : (ctx.guardLimit g).time < Instant.limit) :
    let r := ctx.race.run g (ctx.turnsAtLimit g)
    r.now = (ctx.guardLimit g).time ∧
      r.settlements.map (·.answer) = [g.answer (verdictAt g (ctx.guardLimit g))] := by
  constructor
  · have hsum := since_add (start_le_guardLimit ctx g) hm
    rw [Race.now_run, turnsAtLimit]
    split <;> simpa [Race.Move.time] using hsum
  · cases h : ctx.isLate g with
    | true => exact answers_of_late h _
    | false => exact answers_at_limit h hm

theorem finish_of_reaches {verdict : Verdict} {m m' : Moment} {ending : Ending}
    {effects : List (Moment × Effect)}
    (h : (if ctx.reaches m' then ctx.guardAnswers g verdict m' effects
      else { task with finish := none }).finish = some (m, ending)) :
    m' = m ∧ g.answer verdict = ending := by
  split at h
  · cases h
    exact ⟨rfl, rfl⟩
  · cases h

/-- What a guard gives on a clock is what its race settles under the moves of that clock, and then.
-/
theorem runGuard_race
    (ht : ∀ m ending, task.finish = some (m, ending) → m.before ctx.start = false)
    {m : Moment} {ending : Ending} (h : (ctx.runGuard g task).finish = some (m, ending))
    (hm : m.time < Instant.limit) :
    let r := ctx.race.run g (ctx.turns g task)
    r.now = m.time ∧ r.settlements.map (·.answer) = [ending] := by
  rw [runGuard] at h
  rw [turns]
  by_cases htorn : ctx.tornDown = true
  · rw [if_pos htorn] at h ⊢
    constructor
    · rw [Race.now_run]
      split at h
      · rename_i hl
        cases h
        rw [hl]
        rfl
      · cases h
        rfl
    · cases hlate : ctx.isLate g with
      | true =>
        rw [if_pos (guardLimit_of_late hlate)] at h
        cases h
        exact answers_of_late hlate _
      | false =>
        rw [if_neg (start_le_of_not_late hlate).2.2] at h
        cases h
        exact answers_of_task hlate [.taskEnds .aborted] rfl
  · rw [if_neg htorn] at h ⊢
    cases hf : task.finish with
    | none =>
      simp only [hf] at h
      obtain ⟨rfl, rfl⟩ := finish_of_reaches h
      exact turnsAtLimit_race hm
    | some finish =>
      obtain ⟨m', ending'⟩ := finish
      simp only [hf] at h ⊢
      by_cases hb : m'.before (ctx.guardLimit g) = true
      · rw [if_pos hb] at h ⊢
        obtain ⟨hme, rfl⟩ := finish_of_reaches h
        have hstart := ht m' ending' hf
        have hlate : ctx.isLate g = false := by
          rw [← Bool.not_eq_true]
          intro hlate
          rw [guardLimit_of_late hlate, hstart] at hb
          cases hb
        have htime : m'.time = m.time := by
          rw [← hme, Moment.time_earlier, time_afterEnd]
          exact (Nat.min_eq_left (Moment.time_le_of_before hb)).symm
        have hle : ctx.start.time ≤ m'.time := by
          rw [← Nat.not_lt]
          intro hlt
          rw [Moment.before_of_time_lt hlt] at hstart
          cases hstart
        have hsum := since_add hle (htime ▸ hm)
        constructor
        · rw [Race.now_run, ← htime]
          simpa [Race.Move.time] using hsum
        · exact answers_of_task hlate [.advance (ctx.since m'), .taskEnds (.done ending')] rfl
      · rw [if_neg hb] at h ⊢
        obtain ⟨rfl, rfl⟩ := finish_of_reaches h
        exact turnsAtLimit_race hm

end Context

end Gatehouse
