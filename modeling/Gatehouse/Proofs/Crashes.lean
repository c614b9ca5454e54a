import Gatehouse.Proofs.Pipeline
import Gatehouse.Proofs.Timing

namespace Gatehouse

/-- A record does not look like what comes from inside a span of its own. -/
theorem Sink.not_inside_effect (sink : Sink) (position : Nat) (spans : List RequestId)
    (id : RequestId) (o : RequestOutcome) :
    ¬ (sink.effect position spans o).Inside (spans ++ [id]) := by
  intro h
  cases sink with
  | collect => exact h
  | log =>
    have hs : spans = spans ++ [id] := (o.spans_event spans).symm.trans h
    simpa using congrArg List.length hs

namespace Context

variable {ctx : Context} {position : Nat} {protocol : Protocol} {sink : Sink} {info : RequestInfo}
  {slot : Option RequestId} {inner : Run} {m : Moment} {message : Option String}

theorem runLogged_of_panicked (h : inner.finish = some (m, .panicked message)) :
    ctx.runLogged position protocol sink info slot inner = inner := by
  rw [runLogged, h]
  rfl

/-- A call that crashes, or whose response cannot be classified, leaves no record. -/
theorem effects_runLogged_of_panicked
    (h : (ctx.runLogged position protocol sink info slot inner).finish =
      some (m, .panicked message)) :
    (ctx.runLogged position protocol sink info slot inner).effects = inner.effects := by
  rcases ctx.runLogged_cases position protocol sink info slot inner with
    ⟨hr, _⟩ | ⟨m', ending, hf, ⟨o, ho, hr⟩ | ⟨fault, _, hr⟩⟩
  · rw [hr]
  · rw [hr] at h
    obtain ⟨_, rfl⟩ := Prod.ext_iff.1 (Option.some.inj (hf.symm.trans h))
    cases ho
  · rw [hr]

end Context

theorem Call.run_logged_of_panicked {ctx : Context} {position : Nat} {protocol : Protocol}
    {sink : Sink} {info : RequestInfo} {slot : Option RequestId} {header : HeaderName}
    {id : RequestId} {inner : Call} {m : Moment} {message : Option String}
    (h : (inner.run { ctx with spans := ctx.spans ++ [id] }).finish =
      some (m, .panicked message)) :
    ((Call.logged position protocol sink info slot (.tagged header id inner)).run ctx).finish =
      some (m, .panicked message) := by
  have ht : ((Call.tagged header id inner).run ctx).finish = some (m, .panicked message) := by
    rw [Call.run, h]
    rfl
  rw [Call.run, Context.runLogged_of_panicked ht, ht]

variable {now : Instant} {handler : Handler} {request : Request} {protocol : Protocol}
  {config : MiddlewareConfig} {sink : Sink} {position : Nat} {scope : Scope}
  {ids left : IdSource} {entered : Entered}

/-- The standard stack records every request that ends but one that crashes; a crash of the handler
reaches the caller as it is. -/
theorem recorded_unless_crashed
    (h : enter now handler request (pipeline protocol config sink) position scope ids =
      (some entered, left)) :
    ∃ id deadline, entered.call.ids = [id] ∧ entered.call.scope.deadline = some deadline ∧
      (∀ ctx m ending, (entered.call.run ctx).finish = some (m, ending) →
        ∃ inside, (∀ e ∈ inside, e.2.Inside (ctx.spans ++ [id])) ∧
          ((∀ message, ending ≠ .panicked message) ∧ (∃ o, o.requestId = some id ∧
              (entered.call.run ctx).effects = inside ++ [(m, sink.effect position ctx.spans o)]) ∨
            (∃ message, ending = .panicked message) ∧ (entered.call.run ctx).effects = inside)) ∧
      ∀ ctx m message, ctx.Undisturbed deadline.expiresAt →
        (entered.call.handlerRun ctx).finish = some (m, .panicked message) →
        m.time < deadline.expiresAt →
        ∃ m', (entered.call.run ctx).finish = some (m', .panicked message) ∧ m'.time = m.time ∧
          ∀ e ∈ (entered.call.run ctx).effects, ∀ o, e.2 ≠ sink.effect position ctx.spans o := by
  obtain ⟨id, deadline, _, he⟩ := enter_pipeline h
  rw [he]
  -- however the call crashes, its access log adds nothing to what comes from inside its one span
  have crashed {ctx : Context} {m : Moment} {message : Option String}
      (hf : (entered.call.run ctx).finish = some (m, .panicked message)) :
      ∀ e ∈ (entered.call.run ctx).effects, e.2.Inside (ctx.spans ++ [id]) := by
    rw [he] at hf ⊢
    rw [Call.run, Context.effects_runLogged_of_panicked hf]
    exact inside_guarded _
  rw [he] at crashed
  refine ⟨id, deadline, rfl, rfl, ?recorded, ?passed⟩
  case recorded =>
    intro ctx m ending hf
    by_cases hc : ∃ message, ending = .panicked message
    · obtain ⟨message, rfl⟩ := hc
      exact ⟨_, crashed hf, .inr ⟨⟨message, rfl⟩, rfl⟩⟩
    · have hc : ∀ message, ending ≠ .panicked message := fun message h => hc ⟨message, h⟩
      obtain ⟨result, o, _, rfl, ho, heff⟩ := run_pipeline hf hc
      exact ⟨_, inside_guarded _, .inl ⟨hc, o, requestId_of_outcome? ho, heff⟩⟩
  case passed =>
    intro ctx m message hu hf hlt
    have hin : ({ ctx with spans := ctx.spans ++ [id] } : Context).Undisturbed
        deadline.expiresAt := ⟨hu.tornDown, hu.droppedAt, hu.cancellation⟩
    obtain ⟨m', hg, ht⟩ := hin.handler_in_time
      (g := ⟨protocol, deadline, scope.deadline.map (·.timeout)⟩) hf hlt
    refine ⟨m', Call.run_logged_of_panicked hg, ht, fun e hm o heq => ?_⟩
    have hi := crashed (Call.run_logged_of_panicked hg) e hm
    exact sink.not_inside_effect position ctx.spans id o (heq ▸ hi)

def crashHandler : Handler := fun _ _ =>
  { steps := [.sleep (Duration.ofMillis 10)], ending := .panicked "boom" }

def crashedCall : Call :=
  let scope : Scope := ⟨some ⟨"a"⟩, some ⟨30000000000, defaultTimeout⟩⟩
  .logged 0 .http .collect (Protocol.http.describe rivalRequest) (some ⟨"a"⟩)
    (.tagged .requestId ⟨"a"⟩
      (.guarded ⟨.http, ⟨30000000000, defaultTimeout⟩, none⟩
        (.handler scope (crashHandler rivalRequest scope))))

theorem recorded_unless_crashed_of_boom :
    enter 0 crashHandler rivalRequest (pipeline .http {} .collect) 0 {} (.random 7) =
      (some ⟨crashedCall, none⟩, .random 7) ∧
    ∃ m, (crashedCall.run { start := .caller 0 0 }).finish = some (m, .panicked "boom") ∧
      m.time = 10000000 ∧
      ∀ e ∈ (crashedCall.run { start := .caller 0 0 }).effects, ∀ o, e.2 ≠ .record 0 o := by
  have h : enter 0 crashHandler rivalRequest (pipeline .http {} .collect) 0 {} (.random 7) =
      (some ⟨crashedCall, none⟩, .random 7) := rfl
  have hu : ({ start := .caller 0 0 } : Context).Undisturbed 30000000000 :=
    ⟨rfl, rfl, fun c hc => by cases hc⟩
  obtain ⟨id, deadline, _, hd, _, hpass⟩ := recorded_unless_crashed h
  cases hd
  obtain ⟨m, hf, ht, hn⟩ := hpass { start := .caller 0 0 } _ _ hu rfl (by decide)
  exact ⟨h, m, hf, ht, hn⟩

/-- A handler crashes well before its time is up, and the access log of its request writes nothing.
-/
theorem crash_leaves_no_record :
    (enter 0 crashHandler rivalRequest (pipeline .http {} .collect) 0 {} (.random 7)).1 =
      some ⟨crashedCall, none⟩ ∧
    crashedCall.ids = [⟨"a"⟩] ∧
    (∃ m, (crashedCall.handlerRun { start := .caller 0 0 }).finish = some (m, .panicked "boom") ∧
      m.time < 30000000000) ∧
    (crashedCall.run { start := .caller 0 0 }).finish =
      some (.caller 10000000 1, .panicked "boom") ∧
    recordedIds 0 (crashedCall.run { start := .caller 0 0 }).effects = [] :=
  ⟨rfl, rfl, ⟨_, rfl, by decide⟩, by decide, by decide⟩

end Gatehouse
