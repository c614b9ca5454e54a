import Gatehouse.Proofs.ClockRace
import Gatehouse.Proofs.Parts
import Gatehouse.Simulation

namespace Gatehouse

theorem Instant.after?_eq_none_iff {now : Instant} {d : Duration} :
    Instant.after? now d = none ↔ Instant.limit ≤ now + d.nanos := by
  rw [after?, ite_eq_right_iff, ← Nat.not_lt]
  simp only [reduceCtorEq, imp_false]

theorem Deadline.derive?_eq_none_iff {now : Instant} {parent : Option Deadline}
    {timeout : Duration} :
    derive? now parent timeout = none ↔ Instant.limit ≤ now + timeout.nanos := by
  rw [derive?, alone?, Option.map_eq_none_iff, Option.map_eq_none_iff, Instant.after?_eq_none_iff]

theorem Deadline.derive?_expiresAt_le_own {now : Instant} {parent : Option Deadline}
    {timeout : Duration} {d : Deadline} (h : derive? now parent timeout = some d) :
    d.expiresAt ≤ now + timeout.nanos := by
  obtain ⟨own, ho, rfl⟩ := Option.map_eq_some_iff.1 h
  obtain ⟨expiresAt, he, rfl⟩ := Option.map_eq_some_iff.1 ho
  obtain ⟨rfl, _⟩ := Instant.after?_eq_some.1 he
  cases parent with
  | none => exact Nat.le_refl _
  | some p =>
    rw [expiresAt_under_some]
    exact Nat.min_le_right _ _

section

variable {now : Instant} {handler : Handler} {request : Request} {layers : List Layer}
  {position : Nat} {scope : Scope} {ids left : IdSource} {entered : Entered}
  {ctx within : Context} {call part inner : Call} {g : Guard}

theorem enter_eq_none_iff :
    (enter now handler request layers position scope ids).1 = none ↔
      ∃ timeout ∈ layers.filterMap Layer.timeout?, Instant.limit ≤ now + timeout.nanos := by
  induction layers generalizing position scope ids with
  | nil =>
    rw [List.filterMap_nil]
    simp only [enter, reduceCtorEq, List.not_mem_nil, false_and, exists_false]
  | cons layer layers ih =>
    cases layer with
    | accessLog protocol sink =>
      rw [enter, List.filterMap_cons_none rfl, Option.map_eq_none_iff]
      exact ih
    | requestId header =>
      rw [enter, List.filterMap_cons_none rfl, Option.map_eq_none_iff]
      exact ih
    | deadline protocol configured =>
      have hlimits : (Layer.deadline protocol configured :: layers).filterMap Layer.timeout? =
          effectiveTimeout configured :: layers.filterMap Layer.timeout? := rfl
      rw [enter, hlimits]
      simp only [List.mem_cons, exists_eq_or_imp]
      cases hd : Deadline.derive? now scope.deadline (effectiveTimeout configured) with
      | none =>
        have hlimit := Deadline.derive?_eq_none_iff.1 hd
        simp only [hlimit, true_or]
      | some deadline =>
        have hfits : ¬ Instant.limit ≤ now + (effectiveTimeout configured).nanos := by
          intro hlimit
          rw [Deadline.derive?_eq_none_iff.2 hlimit] at hd
          cases hd
        simp only [hfits, false_or, Option.map_eq_none_iff]
        exact ih

/-- Every guard of a stack keeps to a limit of one of its layers, and to the deadline that the
request has brought. -/
theorem enter_guard_le
    (h : enter now handler request layers position scope ids = (some entered, left))
    (hp : entered.call.Part ctx (.guarded g inner) within) :
    (∃ timeout ∈ layers.filterMap Layer.timeout?, g.deadline.expiresAt ≤ now + timeout.nanos) ∧
      ∀ parent, scope.deadline = some parent → g.deadline.expiresAt ≤ parent.expiresAt := by
  induction layers generalizing position scope ids entered ctx with
  | nil =>
    obtain ⟨_, rfl⟩ := enter_nil h
    cases hp
  | cons layer layers ih =>
    cases layer with
    | accessLog protocol sink =>
      obtain ⟨next, hn, rfl⟩ := enter_accessLog h
      cases hp with
      | logged hp => exact ih hn hp
    | requestId header =>
      obtain ⟨id, drawn, next, _, hn, rfl⟩ := enter_requestId h
      cases hp with
      | tagged hp =>
        have hin := ih hn hp
        exact hin
    | deadline protocol configured =>
      obtain ⟨deadline, next, hd, hn, rfl⟩ := enter_deadline h
      have hparent : ∀ parent, scope.deadline = some parent →
          deadline.expiresAt ≤ parent.expiresAt := by
        intro parent hs
        rw [hs] at hd
        exact Deadline.derive?_expiresAt_le hd
      cases hp with
      | self =>
        exact ⟨⟨_, List.mem_cons_self, Deadline.derive?_expiresAt_le_own hd⟩, hparent⟩
      | guarded _ hp =>
        obtain ⟨⟨timeout, ht, hle⟩, hin⟩ := ih hn hp
        constructor
        · exact ⟨timeout, List.mem_cons_of_mem _ ht, hle⟩
        · intro parent hs
          exact Nat.le_trans (hin deadline rfl) (hparent parent hs)

theorem Call.Part.stays (h : call.Part ctx part within) (kept : ctx.tornDown = false)
    (waits : ctx.droppedAt = none) : within.tornDown = false ∧ within.droppedAt = none := by
  induction h with
  | self => exact ⟨kept, waits⟩
  | logged _ ih => exact ih kept waits
  | tagged _ ih => exact ih kept waits
  | guarded _ _ ih => exact ih kept rfl

theorem Context.time_guardLimit_le (ctx : Context) (g : Guard) :
    (ctx.guardLimit g).time ≤ max ctx.start.time g.deadline.expiresAt := by
  cases h : ctx.isLate g with
  | true =>
    rw [guardLimit_of_late h]
    exact Nat.le_max_left _ _
  | false => exact Nat.le_trans (start_le_of_not_late h).2.1 (Nat.le_max_right _ _)

/-- The answer of a guard to its caller: the end of what it guards, or that the time is up. It comes
by the expiry, or at once if the guard starts later than that. -/
def Context.AnswersInTime (ctx : Context) (g : Guard) (task : Run) : Prop :=
  ∃ m ending, (ctx.runGuard g task).finish = some (m, ending) ∧
    m.time ≤ max ctx.start.time g.deadline.expiresAt ∧
    ((∃ m', task.finish = some (m', ending)) ∨
      ending = .responded (g.protocol.deadlineExceeded g.deadline.timeout) ∨
      ending = .responded (g.protocol.deadlineExceeded g.cancelledTimeout))

theorem Context.answersInTime (kept : ctx.tornDown = false) (waits : ctx.droppedAt = none)
    (g : Guard) (task : Run) : ctx.AnswersInTime g task := by
  have hlimit := ctx.time_guardLimit_le g
  have reaches (m : Moment) : ctx.reaches m = true := by
    rw [Context.reaches, kept, waits]
    rfl
  have exceeded : g.answer (verdictAt g (ctx.guardLimit g)) =
        .responded (g.protocol.deadlineExceeded g.deadline.timeout) ∨
      g.answer (verdictAt g (ctx.guardLimit g)) =
        .responded (g.protocol.deadlineExceeded g.cancelledTimeout) := by
    rw [verdictAt]
    split
    · exact .inl rfl
    · exact .inr rfl
  rw [AnswersInTime, runGuard, kept]
  simp only [Bool.false_eq_true, if_false, reaches, if_true]
  cases hf : task.finish with
  | none => exact ⟨_, _, rfl, hlimit, .inr exceeded⟩
  | some finish =>
    obtain ⟨m, ending⟩ := finish
    simp only
    by_cases hb : m.before (ctx.guardLimit g) = true
    · rw [if_pos hb]
      refine ⟨_, _, rfl, ?_, .inl ⟨m, rfl⟩⟩
      rw [Moment.time_earlier]
      exact Nat.le_trans (Nat.min_le_right _ _) hlimit
    · rw [if_neg hb]
      exact ⟨_, _, rfl, hlimit, .inr exceeded⟩

end

/-- A request gets through a stack exactly if the clock can hold the expiry of each limit by itself.
Its guards then expire no later than the deadline it brings, and answer a caller who waits. -/
theorem guards_hold_within_clock_range (now : Instant) (handler : Handler) (request : Request)
    (layers : List Layer) (position : Nat) (scope : Scope) (ids : IdSource) :
    ((enter now handler request layers position scope ids).1 = none ↔
      ∃ timeout ∈ layers.filterMap Layer.timeout?, Instant.limit ≤ now + timeout.nanos) ∧
    ∀ entered left,
      enter now handler request layers position scope ids = (some entered, left) →
      ∀ ctx g inner within, entered.call.Part ctx (.guarded g inner) within →
        (∀ parent, scope.deadline = some parent → g.deadline.expiresAt ≤ parent.expiresAt) ∧
        (∃ timeout ∈ layers.filterMap Layer.timeout?,
          g.deadline.expiresAt ≤ now + timeout.nanos) ∧
        (ctx.tornDown = false → ctx.droppedAt = none →
          within.AnswersInTime g (inner.run (within.inside g))) := by
  constructor
  · exact enter_eq_none_iff
  · intro entered left h ctx g inner within hp
    obtain ⟨hown, hparent⟩ := enter_guard_le h hp
    have answered (kept : ctx.tornDown = false) (waits : ctx.droppedAt = none) :
        within.AnswersInTime g (inner.run (within.inside g)) := by
      obtain ⟨kept, waits⟩ := hp.stays kept waits
      exact Context.answersInTime kept waits g _
    exact ⟨hparent, hown, answered⟩

def promptHandler : Handler := fun _ _ => ⟨[], .responded .empty⟩

def orderRequest : Request where
  uri := ⟨"/orders/7", none⟩

theorem guards_hold_within_clock_range_at_end :
    (enter 0 promptHandler orderRequest [.deadline .http ⟨Instant.limit - 1, by decide⟩] 0 {}
      (.random 7)).1 ≠ none ∧
    (enter 0 promptHandler orderRequest [.deadline .http ⟨Instant.limit, by decide⟩] 0 {}
      (.random 7)).1 = none := by
  constructor
  · intro h
    obtain ⟨timeout, ht, hlimit⟩ :=
      (guards_hold_within_clock_range 0 promptHandler orderRequest _ 0 {} (.random 7)).1.1 h
    obtain rfl := List.mem_singleton.1 ht
    exact absurd hlimit (by decide)
  · apply (guards_hold_within_clock_range 0 promptHandler orderRequest _ 0 {} (.random 7)).1.2
    exact ⟨_, List.mem_singleton.2 rfl, by decide⟩

/-- A request that brings a second of time crashes under a guard with the longest limit there is. -/
theorem longest_limit_breaks_guard :
    let carried : Deadline := ⟨1000000000, .ofMillis 1000⟩
    effectiveTimeout .longest = .longest ∧
    Deadline.derive? 0 none (.ofMillis 1000) = some carried ∧
    Deadline.derive? 0 (some carried) .longest = none ∧
    (Simulation.serve { layers := [.deadline .http .longest], ids := .random 7 }
      { request := orderRequest, handler := promptHandler
        inherited := { timeout := some (.ofMillis 1000) } }).served =
      [⟨0, 0, .ended (.panicked none), none⟩] := by
  decide

end Gatehouse
