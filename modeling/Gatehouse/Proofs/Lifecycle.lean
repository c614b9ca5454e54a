import Gatehouse.Server.Basic
import Gatehouse.Server.Health

namespace Gatehouse

/-- A sequence made of two others, each in its own order. -/
inductive Interleaves {α : Type} : List α → List α → List α → Prop
  | nil : Interleaves [] [] []
  | left {a : α} {xs ys zs : List α} (rest : Interleaves xs ys zs) :
      Interleaves (a :: xs) ys (a :: zs)
  | right {a : α} {xs ys zs : List α} (rest : Interleaves xs ys zs) :
      Interleaves xs (a :: ys) (a :: zs)

namespace Lifecycle

def Op.target? : Op → Option HealthState
  | .setReady => some .ready
  | .triggerShutdown => some .draining
  | .markStopped => some .stopped
  | .addWaiter => none

def targets (ops : List Op) : List HealthState := ops.filterMap Op.target?

def InOrder (states : List HealthState) : Prop := states.Pairwise fun s t => s.rank ≤ t.rank

instance (states : List HealthState) : Decidable (InOrder states) :=
  inferInstanceAs (Decidable (states.Pairwise fun s t => s.rank ≤ t.rank))

/-- Each operation leaves the health state where it is or moves it forward. -/
def Forward (l : Lifecycle) (ops : List Op) : Prop :=
  ∀ before op after, ops = before ++ op :: after →
    (l.run before).state.rank ≤ ((l.run before).step op).state.rank

variable {l : Lifecycle} {op : Op} {ops : List Op}

theorem state_step (l : Lifecycle) (op : Op) : (l.step op).state = op.target?.getD l.state := by
  cases op <;> rfl

theorem triggered_step (l : Lifecycle) (op : Op) :
    (l.step op).triggered = (l.triggered || op = .triggerShutdown) := by
  cases op <;> simp [step, setReady, triggerShutdown, markStopped, addWaiter]

def Told (l : Lifecycle) : Prop := ∀ told ∈ l.waiters, told = l.triggered

theorem Told.step (h : l.Told) (op : Op) : (l.step op).Told := by
  cases op with
  | setReady => exact h
  | triggerShutdown =>
    intro told ht
    obtain ⟨_, _, rfl⟩ := List.mem_map.1 ht
    rfl
  | markStopped => exact h
  | addWaiter =>
    intro told ht
    rcases List.mem_append.1 ht with ht | ht
    · exact h told ht
    · exact List.mem_singleton.1 ht

theorem state_run (l : Lifecycle) (ops : List Op) :
    (l.run ops).state = (targets ops).getLast?.getD l.state := by
  induction ops generalizing l with
  | nil => rfl
  | cons op ops ih =>
    rw [run_cons, ih, state_step, targets, targets, List.filterMap_cons]
    cases op.target? with
    | none => rfl
    | some s => simp only [Option.getD_some, List.getLast?_cons]

theorem triggered_run (l : Lifecycle) (ops : List Op) :
    (l.run ops).triggered = (l.triggered || .triggerShutdown ∈ ops) := by
  induction ops generalizing l with
  | nil => simp
  | cons op ops ih =>
    rw [run_cons, ih, triggered_step, Bool.or_assoc]
    simp [eq_comm]

theorem Told.run (h : l.Told) (ops : List Op) : (l.run ops).Told := by
  induction ops generalizing l with
  | nil => exact h
  | cons op ops ih => exact ih (h.step op)

theorem forward_cons (l : Lifecycle) (op : Op) (ops : List Op) :
    l.Forward (op :: ops) ↔
      l.state.rank ≤ (l.step op).state.rank ∧ (l.step op).Forward ops := by
  constructor
  · refine fun h => ⟨h [] op ops rfl, fun before next after he => ?_⟩
    exact h (op :: before) next after (congrArg (List.cons op) he)
  · rintro ⟨hs, h⟩ before next after he
    cases before with
    | nil =>
      obtain ⟨rfl, _⟩ := List.cons.inj he
      exact hs
    | cons first before =>
      obtain ⟨rfl, rfl⟩ := List.cons.inj he
      exact h before next after rfl

/-- The health state moves forward only, exactly if the states are set in order, the one that it had
among them. -/
theorem forward_iff (l : Lifecycle) (ops : List Op) :
    l.Forward ops ↔ InOrder (l.state :: targets ops) := by
  induction ops generalizing l with
  | nil =>
    refine iff_of_true (fun before op after he => ?_) (List.pairwise_singleton _ _)
    exact absurd he.symm (List.append_ne_nil_of_right_ne_nil _ (List.cons_ne_nil _ _))
  | cons op ops ih =>
    rw [forward_cons, ih, state_step, targets, targets, List.filterMap_cons]
    cases op.target? with
    | none => exact and_iff_right (Nat.le_refl _)
    | some s =>
      rw [Option.getD_some, InOrder, InOrder, List.pairwise_cons (a := l.state)]
      refine and_congr_left fun hp => ⟨fun hs t ht => ?_, fun h => h s List.mem_cons_self⟩
      rcases List.mem_cons.1 ht with rfl | ht
      · exact hs
      · exact Nat.le_trans hs ((List.pairwise_cons.1 hp).1 t ht)

theorem forward_begin_iff (ops : List Op) : Forward {} ops ↔ InOrder (targets ops) := by
  rw [forward_iff, InOrder, List.pairwise_cons]
  exact and_iff_right fun s _ => Nat.zero_le _

theorem Forward.append {earlier later : List Op} (h : l.Forward (earlier ++ later)) :
    (l.run earlier).Forward later := by
  intro before op after he
  rw [← run_append]
  exact h _ op after (he ▸ (List.append_assoc _ _ _).symm)

theorem Forward.rank_le (h : l.Forward ops) : l.state.rank ≤ (l.run ops).state.rank := by
  induction ops generalizing l with
  | nil => exact Nat.le_refl _
  | cons op ops ih =>
    obtain ⟨hs, h⟩ := (forward_cons l op ops).1 h
    exact Nat.le_trans hs (ih h)

theorem Forward.target_le {s : HealthState} (h : l.Forward ops) (hm : op ∈ ops)
    (ht : op.target? = some s) : s.rank ≤ (l.run ops).state.rank := by
  obtain ⟨before, after, rfl⟩ := List.append_of_mem hm
  have hs : ((l.run before).step op).state = s := by rw [state_step, ht, Option.getD_some]
  rw [run_append, run_cons, ← hs]
  exact ((forward_cons _ op after).1 h.append).2.rank_le

end Lifecycle

theorem HealthState.eq_stopped_of_rank {s : HealthState} (h : HealthState.stopped.rank ≤ s.rank) :
    s = .stopped := by
  cases s with
  | starting => exact absurd h (by decide)
  | ready => exact absurd h (by decide)
  | draining => exact absurd h (by decide)
  | stopped => rfl

/-- A server is ready, to its probe, in the one state of that name. -/
theorem Probe.readiness_ok_iff (state : HealthState) (uptimeSecs : Nat) (scope : Scope) :
    (Probe.readiness.answer state uptimeSecs scope).status = .ok ↔ state = .ready := by
  change (if state = .ready then StatusCode.ok else .serviceUnavailable) = .ok ↔ state = .ready
  by_cases h : state = .ready
  · exact iff_of_true (if_pos h) h
  · rw [if_neg h]
    exact iff_of_false (by decide) h

def servingOps : List Lifecycle.Op := [.setReady, .markStopped]

def signalOps : List Lifecycle.Op := [.triggerShutdown]

theorem interleaves_serving_iff {ops : List Lifecycle.Op} :
    Interleaves servingOps signalOps ops ↔
      ops = [.triggerShutdown, .setReady, .markStopped] ∨
      ops = [.setReady, .triggerShutdown, .markStopped] ∨
      ops = [.setReady, .markStopped, .triggerShutdown] := by
  constructor
  · intro h
    cases h with
    | right h =>
      cases h with
      | left h =>
        cases h with
        | left h =>
          cases h
          exact .inl rfl
    | left h =>
      cases h with
      | right h =>
        cases h with
        | left h =>
          cases h
          exact .inr (.inl rfl)
      | left h =>
        cases h with
        | right h =>
          cases h
          exact .inr (.inr rfl)
  · rintro (rfl | rfl | rfl)
    · exact .right (.left (.left .nil))
    · exact .left (.right (.left .nil))
    · exact .left (.left (.right .nil))

theorem Server.lifecycle_shutDown {s : Server} (h : s.listeners ≠ none) :
    s.serve.2.shutDown.2.lifecycle =
      s.lifecycle.run [.setReady, .triggerShutdown, .markStopped] := by
  rw [serve]
  cases hl : s.listeners with
  | none => exact absurd hl h
  | some listeners => rfl

namespace Lifecycle

/-- The health state only moves forward exactly if the states are set in the order of life; the stop
signal, once given, stays given. -/
theorem health_forward_iff_in_order (ops : List Lifecycle.Op) :
    (run {} ops).state = (targets ops).getLast?.getD .starting ∧
    (Forward {} ops ↔ InOrder (targets ops)) ∧
    (∀ earlier later, ops = earlier ++ later →
      (.triggerShutdown ∈ earlier → (run {} ops).triggered = true) ∧
      (Forward {} ops →
        (.triggerShutdown ∈ earlier → ∀ uptimeSecs scope,
          (Probe.readiness.answer (run {} ops).state uptimeSecs scope).status ≠ .ok) ∧
        ((run {} earlier).state = .stopped → (run {} ops).state = .stopped))) ∧
    (Interleaves servingOps signalOps ops →
      (Forward {} ops ↔ ops = [.setReady, .triggerShutdown, .markStopped])) ∧
    ∀ s : Server, s.lifecycle = {} → s.listeners ≠ none →
      s.serve.2.shutDown.2.lifecycle = run {} [.setReady, .triggerShutdown, .markStopped] := by
  refine ⟨state_run {} ops, forward_begin_iff ops, ?later, ?serving, ?server⟩
  case later =>
    rintro earlier later rfl
    have triggered : .triggerShutdown ∈ earlier → .triggerShutdown ∈ earlier ++ later :=
      List.mem_append_left later
    refine ⟨fun ht => ?_, fun hf => ⟨fun ht uptimeSecs scope hok => ?_, fun hs => ?_⟩⟩
    · rw [triggered_run, decide_eq_true (triggered ht), Bool.or_true]
    · have hr := (Probe.readiness_ok_iff _ uptimeSecs scope).1 hok
      have hle := hf.target_le (triggered ht) rfl
      rw [hr] at hle
      exact absurd hle (by decide)
    · apply HealthState.eq_stopped_of_rank
      rw [run_append, ← hs]
      exact hf.append.rank_le
  case serving =>
    rw [interleaves_serving_iff, forward_begin_iff]
    rintro (rfl | rfl | rfl) <;> decide
  case server =>
    intro s hs hl
    rw [Server.lifecycle_shutDown hl, hs]

theorem health_forward_iff_in_order_of_serving :
    let ops : List Op := [.setReady, .triggerShutdown, .markStopped]
    let server : Server :=
      { config := {}, httpListener := some (.v4 ⟨127, 0, 0, 1⟩ 8080),
        grpcListener := some (.v4 ⟨127, 0, 0, 1⟩ 50051) }
    ops = ops ++ [] ∧ .triggerShutdown ∈ ops ∧ (run {} ops).state = .stopped ∧
    Interleaves servingOps signalOps ops ∧ Forward {} ops ∧
    (Probe.readiness.answer (run {} ops).state 0 {}).status ≠ .ok ∧
    server.lifecycle = {} ∧ server.listeners ≠ none ∧
    server.serve.2.shutDown.2.lifecycle.state = .stopped := by
  intro ops server
  have hi : Interleaves servingOps signalOps ops := .left (.right (.left .nil))
  have hl : server.listeners ≠ none := Option.some_ne_none _
  obtain ⟨_, _, hlater, hserving, hserver⟩ := health_forward_iff_in_order ops
  have hf : Forward {} ops := (hserving hi).2 rfl
  obtain ⟨hready, hstopped⟩ := (hlater ops [] rfl).2 hf
  refine ⟨rfl, by decide, rfl, hi, hf, hready (by decide) 0 {}, rfl, hl, ?_⟩
  rw [hserver server rfl hl]
  exact hstopped rfl

/-- The stop signal comes before the server marks itself ready, or after it has stopped. -/
theorem health_goes_back :
    let early : List Op := [.triggerShutdown, .setReady]
    let late : List Op := [.setReady, .markStopped, .triggerShutdown]
    Interleaves servingOps signalOps (early ++ [.markStopped]) ∧
    Interleaves servingOps signalOps late ∧
    ¬ Forward {} early ∧ ¬ Forward {} late ∧
    (run {} early).triggered = true ∧
    (Probe.readiness.answer (run {} early).state 0 {}).status = .ok ∧
    (run {} late).state = .draining := by
  intro early late
  refine ⟨.right (.left (.left .nil)), .left (.left (.right .nil)), ?_, ?_, rfl, rfl, rfl⟩
  · rw [forward_begin_iff]
    decide
  · rw [forward_begin_iff]
    decide

end Lifecycle

end Gatehouse
