import Gatehouse.Pipeline.Run

/-!
When a guard answers that nobody drops, tears down or cancels.
-/
namespace Gatehouse

theorem Wake.cmp_swap (v w : Wake) : (v.cmp w).swap = w.cmp v := by
  simp only [cmp, Ordering.swap_then, Nat.compare_swap]

theorem Moment.cmp_swap (m n : Moment) : (m.cmp n).swap = n.cmp m := by
  induction m generalizing n with
  | caller t r => cases n <;> simp [cmp, Ordering.swap_then, Nat.compare_swap]
  | timer t a ih => cases n <;> simp [cmp, Ordering.swap_then, Nat.compare_swap, ih]
  | woken a v ih => cases n <;> simp [cmp, Ordering.swap_then, Nat.compare_swap, ih, Wake.cmp_swap]

theorem Moment.not_before_of_before {m n : Moment} (h : m.before n = true) :
    n.before m = false := by
  rw [before, decide_eq_true_eq] at h
  rw [before, ← cmp_swap, h]
  rfl

theorem Moment.time_earlier (m n : Moment) : (m.earlier n).time = min m.time n.time := by
  rw [earlier]
  split
  · rename_i h
    exact (Nat.min_eq_right (time_le_of_before h)).symm
  · rename_i h
    have hle : m.time ≤ n.time := by
      rcases Nat.lt_or_ge n.time m.time with hlt | hge
      · exact absurd (before_of_time_lt hlt) h
      · exact hge
    exact (Nat.min_eq_left hle).symm

namespace Context

variable {ctx : Context} {g : Guard} {task : Run}

theorem time_timerAt (ctx : Context) (now : Moment) (time : Instant) :
    (ctx.timerAt now time).time = time := by
  rw [timerAt]
  split <;> rfl

theorem time_afterEnd (ctx : Context) (m : Moment) : (ctx.afterEnd m).time = m.time := by
  rw [afterEnd]
  split <;> rfl

theorem time_le_of_wokenAt? {m woken : Moment} (h : ctx.wokenAt? m = some woken) :
    m.time ≤ woken.time := by
  obtain ⟨c, _, rfl⟩ := Option.map_eq_some_iff.1 h
  split
  · exact Nat.le_refl _
  · rename_i hb
    rw [Moment.notAfter, Bool.not_eq_true', Bool.not_eq_false] at hb
    exact (Moment.time_le_of_before hb : m.time ≤ c.moment.time)

theorem time_le_of_runSteps {scope : Scope} {steps : List Step} {m last : Moment}
    (h : (ctx.runSteps scope m steps).2 = some last) : m.time ≤ last.time := by
  induction steps generalizing m with
  | nil =>
    cases h
    exact Nat.le_refl _
  | cons step steps ih =>
    cases step with
    | sleep time =>
      refine Nat.le_trans ?_ (ih h)
      split
      · exact Nat.le_refl _
      · rw [time_timerAt]
        exact Nat.le_add_right _ _
    | note label => exact ih h
    | emit target message => exact ih h
    | awaitCancelled =>
      rw [runSteps] at h
      split at h
      · exact ih h
      · cases h
      · rename_i hw
        exact Nat.le_trans (time_le_of_wokenAt? hw) (ih h)
    | hang => cases h

theorem time_le_of_runHandler {scope : Scope} {script : Script} {m : Moment} {ending : Ending}
    (h : (ctx.runHandler scope script).finish = some (m, ending)) : ctx.start.time ≤ m.time := by
  obtain ⟨last, hl, he⟩ := Option.map_eq_some_iff.1 h
  cases he
  exact time_le_of_runSteps (Option.filter_eq_some_iff.1 hl).1

/-- Up to a time nothing from outside ends what runs here. -/
structure Undisturbed (ctx : Context) (until' : Instant) : Prop where
  tornDown : ctx.tornDown = false
  droppedAt : ctx.droppedAt = none
  cancellation : ∀ c, ctx.cancellation = some c → until' ≤ c.moment.time

theorem Undisturbed.mono {sooner later : Instant} (h : ctx.Undisturbed later)
    (hle : sooner ≤ later) : ctx.Undisturbed sooner :=
  ⟨h.tornDown, h.droppedAt, fun c hc => Nat.le_trans hle (h.cancellation c hc)⟩

theorem Undisturbed.reaches {until' : Instant} (h : ctx.Undisturbed until') (m : Moment) :
    ctx.reaches m = true := by
  rw [Context.reaches, h.tornDown, h.droppedAt]
  rfl

theorem Undisturbed.not_cancelled {until' : Instant} (h : ctx.Undisturbed until')
    (hs : ctx.start.time < until') : ctx.isCancelledAt ctx.start = false := by
  cases hc : ctx.cancellation with
  | none =>
    rw [isCancelledAt, hc]
    rfl
  | some c =>
    have hlt := Nat.lt_of_lt_of_le hs (h.cancellation c hc)
    rw [isCancelledAt, hc, Option.any_some, Moment.notAfter, Moment.before_of_time_lt hlt]
    rfl

theorem Undisturbed.time_guardLimit (h : ctx.Undisturbed g.deadline.expiresAt)
    (hs : ctx.start.time < g.deadline.expiresAt) :
    (ctx.guardLimit g).time = g.deadline.expiresAt := by
  rw [guardLimit, h.not_cancelled hs, if_neg (by simpa using hs)]
  cases hc : ctx.cancellation with
  | none => exact time_timerAt _ _ _
  | some c =>
    have hle := h.cancellation c hc
    simp only [Moment.time_earlier, time_timerAt]
    exact Nat.min_eq_left hle

theorem Undisturbed.inside (h : ctx.Undisturbed g.deadline.expiresAt)
    (hs : ctx.start.time < g.deadline.expiresAt) :
    (ctx.inside g).Undisturbed g.deadline.expiresAt := by
  constructor
  case tornDown => exact h.tornDown
  case droppedAt => rfl
  intro c hc
  obtain rfl := Option.some.inj hc
  have hexit := h.time_guardLimit hs
  rw [tokenCancellation, h.droppedAt, Option.map_none, Option.getD_none]
  cases ho : ctx.cancellation with
  | none => exact Nat.le_of_eq hexit.symm
  | some outer =>
    simp only
    split
    · exact h.cancellation outer ho
    · exact Nat.le_of_eq hexit.symm

/-- A guard passes on the end of its task if that comes by its expiry, and answers at its expiry if
it does not come before. -/
theorem Undisturbed.runGuard (h : ctx.Undisturbed g.deadline.expiresAt)
    (hs : ctx.start.time < g.deadline.expiresAt) (task : Run) :
    ∃ m, (∃ m' ending, task.finish = some (m', ending) ∧ m'.time ≤ g.deadline.expiresAt ∧
        m.time = m'.time ∧ (ctx.runGuard g task).finish = some (m, ending)) ∨
      ((∀ m' ending, task.finish = some (m', ending) → g.deadline.expiresAt ≤ m'.time) ∧
        m.time = g.deadline.expiresAt ∧
        (ctx.runGuard g task).finish =
          some (m, .responded (g.protocol.deadlineExceeded g.deadline.timeout))) := by
  have hl := h.time_guardLimit hs
  have hv : verdictAt g (ctx.guardLimit g) = .expired := if_pos (Nat.le_of_eq hl.symm)
  rw [Context.runGuard, h.tornDown]
  simp only [Bool.false_eq_true, if_false, h.reaches, if_true, hv]
  cases hf : task.finish with
  | none =>
    have hnone : ∀ m' ending, (none : Option (Moment × Ending)) = some (m', ending) →
        g.deadline.expiresAt ≤ m'.time := by
      intro m' ending he
      cases he
    exact ⟨_, .inr ⟨hnone, hl, rfl⟩⟩
  | some finish =>
    obtain ⟨m', ending⟩ := finish
    by_cases hb : m'.before (ctx.guardLimit g) = true
    · have hle : m'.time ≤ g.deadline.expiresAt := hl ▸ Moment.time_le_of_before hb
      have ht : ((ctx.afterEnd m').earlier (ctx.guardLimit g)).time = m'.time := by
        rw [Moment.time_earlier, time_afterEnd, hl]
        exact Nat.min_eq_left hle
      simp only [if_pos hb]
      exact ⟨_, .inl ⟨m', ending, rfl, hle, ht, rfl⟩⟩
    · have hge : ∀ m'' ending', some (m', ending) = some (m'', ending') →
          g.deadline.expiresAt ≤ m''.time := by
        intro m'' ending' he
        cases he
        rw [← hl, ← Nat.not_lt]
        exact fun hlt => hb (Moment.before_of_time_lt hlt)
      simp only [if_neg hb]
      exact ⟨_, .inr ⟨hge, hl, rfl⟩⟩

theorem Undisturbed.passes_on (h : ctx.Undisturbed g.deadline.expiresAt)
    (hs : ctx.start.time < g.deadline.expiresAt) {m : Moment} {ending : Ending}
    (hf : task.finish = some (m, ending)) (hlt : m.time < g.deadline.expiresAt) :
    ∃ m', (ctx.runGuard g task).finish = some (m', ending) ∧ m'.time = m.time := by
  obtain ⟨m', ⟨m₁, ending₁, hf₁, _, ht, hr⟩ | ⟨hlate, _, _⟩⟩ := h.runGuard hs task
  · rw [hf] at hf₁
    cases hf₁
    exact ⟨m', hr, ht⟩
  · exact absurd hlt (Nat.not_lt_of_le (hlate m ending hf))

theorem Undisturbed.handler_in_time {scope : Scope} {script : Script} {m : Moment} {ending : Ending}
    (h : ctx.Undisturbed g.deadline.expiresAt)
    (hf : ((ctx.inside g).runHandler scope script).finish = some (m, ending))
    (hlt : m.time < g.deadline.expiresAt) :
    ∃ m', ((Call.guarded g (.handler scope script)).run ctx).finish = some (m', ending) ∧
      m'.time = m.time := by
  have hs : (ctx.inside g).start.time ≤ m.time := time_le_of_runHandler hf
  exact h.passes_on (Nat.lt_of_le_of_lt hs hlt) hf hlt

theorem Undisturbed.expires (h : ctx.Undisturbed g.deadline.expiresAt)
    (hs : ctx.start.time < g.deadline.expiresAt)
    (hf : ∀ m ending, task.finish = some (m, ending) → g.deadline.expiresAt < m.time) :
    ∃ m', (ctx.runGuard g task).finish =
      some (m', .responded (g.protocol.deadlineExceeded g.deadline.timeout)) ∧
      m'.time = g.deadline.expiresAt := by
  obtain ⟨m', ⟨m, ending, hm, hle, _, _⟩ | ⟨_, ht, hr⟩⟩ := h.runGuard hs task
  · exact absurd (hf m ending hm) (Nat.not_lt_of_le hle)
  · exact ⟨m', hr, ht⟩

/-- At its expiry a guard answers as its task does if that is how the guard itself would answer. -/
theorem Undisturbed.agrees (h : ctx.Undisturbed g.deadline.expiresAt)
    (hs : ctx.start.time < g.deadline.expiresAt) {m : Moment}
    (hf : task.finish =
      some (m, .responded (g.protocol.deadlineExceeded g.deadline.timeout)))
    (ht : m.time = g.deadline.expiresAt) :
    ∃ m', (ctx.runGuard g task).finish =
      some (m', .responded (g.protocol.deadlineExceeded g.deadline.timeout)) ∧
      m'.time = g.deadline.expiresAt := by
  obtain ⟨m', ⟨m₁, ending₁, hf₁, _, ht₁, hr⟩ | ⟨_, ht₁, hr⟩⟩ := h.runGuard hs task
  · rw [hf] at hf₁
    cases hf₁
    exact ⟨m', hr, ht₁.trans ht⟩
  · exact ⟨m', hr, ht₁⟩

end Context

end Gatehouse
