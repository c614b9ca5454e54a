import Gatehouse.Pipeline.Run

namespace Gatehouse

namespace Call

def script : Call → Script
  | .handler _ script => script
  | .logged _ _ _ _ _ inner => inner.script
  | .tagged _ _ inner => inner.script
  | .guarded _ inner => inner.script

def handlerRun : Call → Context → Run
  | .handler scope script, ctx => ctx.runHandler scope script
  | .logged _ _ _ _ _ inner, ctx => inner.handlerRun ctx
  | .tagged _ id inner, ctx => inner.handlerRun { ctx with spans := ctx.spans ++ [id] }
  | .guarded g inner, ctx => inner.handlerRun (ctx.inside g)

end Call

/-- Effects from inside spans: notes, and events in exactly these spans. -/
def Effect.Inside (spans : List RequestId) : Effect → Prop
  | .record _ _ => False
  | .event logged => logged.spans = spans
  | .note _ => True

/-- The IDs in the records that the access log at a position has written. -/
def recordedIds (position : Nat) (effects : List (Moment × Effect)) : List (Option RequestId) :=
  effects.filterMap fun e => match e.2 with
    | .record place o => if place = position then some o.requestId else none
    | _ => none

@[simp] theorem RequestOutcome.spans_event (o : RequestOutcome) (spans : List RequestId) :
    (o.event spans).spans = spans := by
  rw [event]
  split <;> rfl

theorem Guard.spans_of_event? {g : Guard} {spans : List RequestId} {verdict : Verdict}
    {event : Event} (h : g.event? spans verdict = some event) : event.spans = spans := by
  cases verdict <;> cases h <;> rfl

namespace Context

variable {ctx : Context} {g : Guard} {task : Run}

theorem inside_runSteps (ctx : Context) (scope : Scope) (steps : List Step) (m : Moment) :
    ∀ e ∈ (ctx.runSteps scope m steps).1, e.2.Inside ctx.spans := by
  induction steps generalizing m with
  | nil => exact fun e he => absurd he List.not_mem_nil
  | cons step steps ih =>
    cases step with
    | sleep time => exact ih _
    | note label =>
      intro e he
      rcases List.mem_cons.1 he with rfl | he
      · trivial
      · exact ih m e he
    | emit target message =>
      intro e he
      rcases List.mem_cons.1 he with rfl | he
      · rfl
      · exact ih m e he
    | awaitCancelled =>
      rw [runSteps]
      split
      · exact ih m
      · exact fun e he => absurd he List.not_mem_nil
      · intro e he
        rcases List.mem_cons.1 he with rfl | he
        · trivial
        · exact ih _ e he
    | hang => exact fun e he => absurd he List.not_mem_nil

theorem inside_runHandler (ctx : Context) (scope : Scope) (script : Script) :
    ∀ e ∈ (ctx.runHandler scope script).effects, e.2.Inside ctx.spans := by
  intro e he
  have he := (List.mem_filter.1 he).1
  rcases List.mem_append.1 he with he | he
  · rcases List.mem_cons.1 he with rfl | he
    · trivial
    · exact inside_runSteps ctx scope script.steps ctx.start e he
  · split at he
    · rw [List.mem_singleton.1 he]
      trivial
    · exact absurd he List.not_mem_nil

theorem ending_of_runHandler {scope : Scope} {script : Script} {m : Moment} {ending : Ending}
    (h : (ctx.runHandler scope script).finish = some (m, ending)) : ending = script.ending := by
  obtain ⟨last, _, he⟩ := Option.map_eq_some_iff.1 h
  exact (Prod.ext_iff.1 he).2.symm

theorem verdictAt_ne_finished (g : Guard) (limit : Moment) (ending : Ending) :
    verdictAt g limit ≠ .finished ending := by
  rw [verdictAt]
  split <;> exact Verdict.noConfusion

/-- A guard answers, with the end of its task only if there is one, or it is dropped. What its task
does it takes back if the tasks are torn down. -/
theorem runGuard_cases (ctx : Context) (g : Guard) (task : Run) :
    (∃ verdict m effects torn,
      ctx.runGuard g task = { ctx.guardAnswers g verdict m effects with torn := torn } ∧
      (effects = [] ∨ ctx.tornDown = false ∧ effects = task.effects) ∧
      ∀ ending, verdict = .finished ending → ∃ m', task.finish = some (m', ending)) ∨
    ctx.tornDown = false ∧ ctx.runGuard g task = { task with finish := none } := by
  have answers (kept : ctx.tornDown = false) (verdict : Verdict) (m : Moment)
      (h : ∀ ending, verdict = .finished ending → ∃ m', task.finish = some (m', ending)) :
      (∃ verdict' m' effects torn,
        (if ctx.reaches m then ctx.guardAnswers g verdict m task.effects
          else { task with finish := none }) =
          { ctx.guardAnswers g verdict' m' effects with torn := torn } ∧
        (effects = [] ∨ ctx.tornDown = false ∧ effects = task.effects) ∧
        ∀ ending, verdict' = .finished ending → ∃ m', task.finish = some (m', ending)) ∨
      ctx.tornDown = false ∧
        (if ctx.reaches m then ctx.guardAnswers g verdict m task.effects
          else { task with finish := none }) = { task with finish := none } := by
    split
    · exact .inl ⟨verdict, m, task.effects, false, rfl, .inr ⟨kept, rfl⟩, h⟩
    · exact .inr ⟨kept, rfl⟩
  have limited (kept : ctx.tornDown = false) :=
    answers kept (verdictAt g (ctx.guardLimit g)) (ctx.guardLimit g)
      fun ending h => absurd h (verdictAt_ne_finished g _ ending)
  rw [runGuard]
  split
  · split
    · exact .inl ⟨_, _, [], false, rfl, .inl rfl,
        fun ending h => absurd h (verdictAt_ne_finished g _ ending)⟩
    · exact .inl ⟨.aborted, ctx.start, [], true, rfl, .inl rfl, fun ending h => by cases h⟩
  · rename_i torn
    have kept : ctx.tornDown = false := Bool.eq_false_iff.2 torn
    split
    · rename_i m ending hf
      split
      · exact answers kept (.finished ending) _ fun ending' h => by cases h; exact ⟨m, hf⟩
      · exact limited kept
    · exact limited kept

theorem effects_runGuard {e : Moment × Effect} (h : e ∈ (ctx.runGuard g task).effects) :
    ctx.tornDown = false ∧ e ∈ task.effects ∨
      ∃ verdict event, g.event? ctx.spans verdict = some event ∧ e.2 = .event event := by
  rcases runGuard_cases ctx g task with ⟨verdict, m, effects, torn, hr, hk, _⟩ | ⟨kept, hr⟩
  · rw [hr] at h
    rcases List.mem_append.1 h with h | h
    · rcases hk with rfl | ⟨kept, rfl⟩
      · exact absurd h List.not_mem_nil
      · exact .inl ⟨kept, h⟩
    · rw [Option.mem_toList, Option.map_eq_some_iff] at h
      obtain ⟨event, hv, rfl⟩ := h
      exact .inr ⟨verdict, event, hv, rfl⟩
  · rw [hr] at h
    exact .inl ⟨kept, h⟩

theorem inside_runGuard (h : ∀ e ∈ task.effects, e.2.Inside ctx.spans) :
    ∀ e ∈ (ctx.runGuard g task).effects, e.2.Inside ctx.spans := by
  intro e he
  rcases effects_runGuard he with ⟨_, he⟩ | ⟨verdict, event, hv, hs⟩
  · exact h e he
  · rw [hs]
    exact Guard.spans_of_event? hv

theorem finish_runGuard {m : Moment} {ending : Ending}
    (h : (ctx.runGuard g task).finish = some (m, ending)) :
    (∃ m', task.finish = some (m', ending)) ∨
    ending = .responded (g.protocol.deadlineExceeded g.deadline.timeout) ∨
    ending = .responded (g.protocol.deadlineExceeded g.cancelledTimeout) ∨
    ending = .responded g.protocol.handlerAborted := by
  rcases runGuard_cases ctx g task with ⟨verdict, m', effects, torn, hr, _, hd⟩ | ⟨_, hr⟩
  · rw [hr] at h
    have he : g.answer verdict = ending := (Prod.ext_iff.1 (Option.some.inj h)).2
    subst he
    cases verdict with
    | finished ending => exact .inl (hd ending rfl)
    | aborted => exact .inr (.inr (.inr rfl))
    | expired => exact .inr (.inl rfl)
    | cancelled => exact .inr (.inr (.inl rfl))
  · rw [hr] at h
    cases h

end Context

variable {protocol : Protocol} {request : RequestInfo} {slot : Option RequestId}
  {elapsed : Duration} {o : RequestOutcome}

theorem outcome?_responded {response : Response}
    (h : outcome? protocol request slot elapsed (.responded response) = .ok (some o)) :
    protocol.classify response.status response.headers = .ok (o.status, o.error) ∧
      o.request = request ∧ o.requestId = (response.requestId <|> slot) ∧ o.elapsed = elapsed := by
  rw [outcome?] at h
  cases hc : protocol.classify response.status response.headers with
  | error e => rw [hc] at h; cases h
  | ok classified => rw [hc] at h; cases h; exact ⟨rfl, rfl, rfl, rfl⟩

theorem outcome?_failed {message : String}
    (h : outcome? protocol request slot elapsed (.failed message) = .ok (some o)) :
    o = ⟨request, protocol.transportFailure, elapsed, slot, some message⟩ := by
  cases h
  rfl

theorem outcome?_eq_none {ending : Ending}
    (h : outcome? protocol request slot elapsed ending = .ok none) :
    ∃ message, ending = .panicked message := by
  cases ending with
  | responded response =>
    rw [outcome?] at h
    cases hc : protocol.classify response.status response.headers <;> rw [hc] at h <;> cases h
  | failed message => cases h
  | panicked message => exact ⟨message, rfl⟩

/-- An access log leaves a call alone that crashes or does not end; to any other it adds a record,
or it crashes over a response that it cannot classify. -/
theorem Context.runLogged_cases (ctx : Context) (position : Nat) (protocol : Protocol) (sink : Sink)
    (request : RequestInfo) (slot : Option RequestId) (inner : Run) :
    let run := ctx.runLogged position protocol sink request slot inner
    (run = inner ∧
      ∀ m ending, inner.finish = some (m, ending) → ∃ message, ending = .panicked message) ∨
    ∃ m ending, inner.finish = some (m, ending) ∧
      ((∃ o, outcome? protocol request slot (Duration.clamp (m.time - ctx.start.time)) ending =
            .ok (some o) ∧
          run = { inner with effects := inner.effects ++ [(m, sink.effect position ctx.spans o)] }) ∨
        ∃ fault, outcome? protocol request slot (Duration.clamp (m.time - ctx.start.time)) ending =
            .error fault ∧
          run = { inner with finish := some (m, .panicked none) }) := by
  intro run
  cases hf : inner.finish with
  | none => exact .inl ⟨by simp only [run, runLogged, hf], fun m ending h => by cases h⟩
  | some finish =>
    obtain ⟨m, ending⟩ := finish
    cases ho : outcome? protocol request slot (Duration.clamp (m.time - ctx.start.time)) ending with
    | error fault =>
      exact .inr ⟨m, ending, rfl, .inr ⟨fault, ho, by simp only [run, runLogged, hf, ho]⟩⟩
    | ok o? =>
      cases o? with
      | none =>
        obtain ⟨message, rfl⟩ := outcome?_eq_none ho
        refine .inl ⟨by simp only [run, runLogged, hf, ho], fun m ending h => ?_⟩
        cases h
        exact ⟨message, rfl⟩
      | some o => exact .inr ⟨m, ending, rfl, .inl ⟨o, ho, by simp only [run, runLogged, hf, ho]⟩⟩

/-- A call that ends without a crash ends in the same way outside an access log, which adds its one
record last. -/
theorem Context.runLogged_of_finish {ctx : Context} {position : Nat} {sink : Sink} {inner : Run}
    {m : Moment} {ending : Ending}
    (h : (ctx.runLogged position protocol sink request slot inner).finish = some (m, ending))
    (hc : ∀ message, ending ≠ .panicked message) :
    inner.finish = some (m, ending) ∧
      ∃ o, outcome? protocol request slot (Duration.clamp (m.time - ctx.start.time)) ending =
          .ok (some o) ∧
        (ctx.runLogged position protocol sink request slot inner).effects =
          inner.effects ++ [(m, sink.effect position ctx.spans o)] := by
  rcases ctx.runLogged_cases position protocol sink request slot inner with
    ⟨hr, hp⟩ | ⟨m', ending', hf, ⟨o, ho, hr⟩ | ⟨fault, _, hr⟩⟩
  · rw [hr] at h
    obtain ⟨message, rfl⟩ := hp m ending h
    exact absurd rfl (hc message)
  · rw [hr] at h ⊢
    obtain ⟨rfl, rfl⟩ := Prod.ext_iff.1 (Option.some.inj (hf.symm.trans h))
    exact ⟨hf, o, ho, rfl⟩
  · rw [hr] at h
    cases h
    exact absurd rfl (hc none)

/-- Attaching an ID keeps a response but for the values of one header and the ID beside them. -/
theorem publish_frame (header : HeaderName) (id : RequestId) (response : Response) :
    (publish header id response).status = response.status ∧
      (publish header id response).body = response.body ∧
      (publish header id response).requestId = some id ∧
      ∀ name, name ≠ header →
        (publish header id response).headers.values name = response.headers.values name := by
  rw [publish]
  split
  · exact ⟨rfl, rfl, rfl, fun name h => Headers.values_set_of_ne _ h _⟩
  · exact ⟨rfl, rfl, rfl, fun _ _ => rfl⟩

theorem Ending.publish_eq_responded {header : HeaderName} {id : RequestId} {ending : Ending}
    {response : Response} (h : ending.publish header id = .responded response) :
    ∃ inner, ending = .responded inner ∧ response = Gatehouse.publish header id inner := by
  cases ending with
  | responded inner =>
    cases h
    exact ⟨inner, rfl, rfl⟩
  | failed message => cases h
  | panicked message => cases h

theorem publish_values {header : HeaderName} {id : RequestId} {value : HeaderValue}
    (h : HeaderValue.ofText? id.text = some value) (response : Response) :
    (publish header id response).headers.values header = [value] := by
  rw [publish, h]
  exact Headers.values_set_self _ _ _

end Gatehouse
