import Gatehouse.Proofs.Effects
import Gatehouse.Proofs.Entry
import Gatehouse.Proofs.HeaderText

namespace Gatehouse

variable {now : Instant} {handler : Handler} {request : Request} {protocol : Protocol}
  {config : MiddlewareConfig} {sink : Sink} {position : Nat} {scope : Scope}
  {ids left : IdSource} {entered : Entered} {ctx : Context} {m : Moment} {ending : Ending}

/-- The standard stack on the way in: one ID is assigned, and one deadline derived. -/
theorem enter_pipeline
    (h : enter now handler request (pipeline protocol config sink) position scope ids =
      (some entered, left)) :
    ∃ id deadline, ids.Assigns left (request.inboundId config.requestIdHeader) id ∧
      entered.call = .logged position protocol sink (protocol.describe request) (some id)
        (.tagged config.requestIdHeader id
          (.guarded ⟨protocol, deadline, scope.deadline.map (·.timeout)⟩
            (.handler ⟨some id, some deadline⟩ (handler request ⟨some id, some deadline⟩)))) := by
  obtain ⟨tagged, ht, rfl⟩ := enter_accessLog h
  obtain ⟨id, drawn, guarded, ha, hg, rfl⟩ := enter_requestId ht
  obtain ⟨deadline, innermost, _, hi, rfl⟩ := enter_deadline hg
  obtain ⟨rfl, rfl⟩ := enter_nil hi
  exact ⟨id, deadline, ha, rfl⟩

theorem run_pipeline {info : RequestInfo} {header : HeaderName} {id : RequestId} {inner : Call}
    (h : ((Call.logged position protocol sink info (some id) (.tagged header id inner)).run
      ctx).finish = some (m, ending))
    (hc : ∀ message, ending ≠ .panicked message) :
    ∃ result o,
      (inner.run { ctx with spans := ctx.spans ++ [id] }).finish = some (m, result) ∧
      ending = result.publish header id ∧
      outcome? protocol info (some id) (Duration.clamp (m.time - ctx.start.time)) ending =
        .ok (some o) ∧
      ((Call.logged position protocol sink info (some id) (.tagged header id inner)).run
        ctx).effects =
        (inner.run { ctx with spans := ctx.spans ++ [id] }).effects ++
          [(m, sink.effect position ctx.spans o)] := by
  obtain ⟨ht, o, ho, he⟩ := Context.runLogged_of_finish h hc
  obtain ⟨⟨m', result⟩, hr, hp⟩ := Option.map_eq_some_iff.1 ht
  obtain ⟨rfl, rfl⟩ := Prod.ext_iff.1 hp
  exact ⟨result, o, hr, rfl, ho, he⟩

theorem requestId_of_outcome? {info : RequestInfo} {header : HeaderName} {id : RequestId}
    {elapsed : Duration} {result : Ending} {o : RequestOutcome}
    (h : outcome? protocol info (some id) elapsed (result.publish header id) = .ok (some o)) :
    o.requestId = some id := by
  cases result with
  | responded response =>
    rw [(outcome?_responded h).2.2.1, (publish_frame header id response).2.2.1]
    rfl
  | failed message =>
    rw [outcome?_failed h]
  | panicked message => cases h

theorem request_of_outcome? {info : RequestInfo} {slot : Option RequestId} {elapsed : Duration}
    {o : RequestOutcome} (h : outcome? protocol info slot elapsed ending = .ok (some o)) :
    o.request = info := by
  cases ending with
  | responded response => exact (outcome?_responded h).2.1
  | failed message => rw [outcome?_failed h]
  | panicked message => cases h

theorem inside_guarded {guard : Guard} {handled : Scope} {script : Script} (ctx : Context) :
    ∀ e ∈ ((Call.guarded guard (.handler handled script)).run ctx).effects,
      e.2.Inside ctx.spans :=
  Context.inside_runGuard (Context.inside_runHandler _ handled script)

theorem IdSource.Assigns.visible {inbound : Option String} {id : RequestId}
    (h : ids.Assigns left inbound id)
    (hv : ∀ n, Uuid.isV4 (ids.mint n).text = true)
    (hi : ∀ text, inbound = some text → isVisibleText text = true) :
    isVisibleText id.text = true := by
  rcases h with ⟨text, ht, _, rfl, _⟩ | ⟨_, rfl, _⟩
  · exact hi text ht
  · exact Uuid.visible_of_isV4 (hv ids.used)

theorem visible_inboundId {header : HeaderName} {text : String}
    (h : request.inboundId header = some text) : isVisibleText text = true := by
  obtain ⟨value, _, hv⟩ := Option.bind_eq_some_iff.1 h
  exact visible_of_text? hv

/-- There is one ID for a request, the one it brings or else a new one: in its handler, its span,
its record and its response. -/
theorem pipeline_one_id
    (hv : ∀ n, Uuid.isV4 (ids.mint n).text = true)
    (h : enter now handler request (pipeline protocol config sink) position scope ids =
      (some entered, left))
    (hf : (entered.call.run ctx).finish = some (m, ending))
    (hc : ∀ message, ending ≠ .panicked message) :
    ∃ id inside o,
      ids.Assigns left (request.inboundId config.requestIdHeader) id ∧
      entered.call.scope.requestId = some id ∧
      entered.call.script = handler request entered.call.scope ∧
      entered.call.ids = [id] ∧
      (entered.call.run ctx).effects = inside ++ [(m, sink.effect position ctx.spans o)] ∧
      (∀ e ∈ inside, e.2.Inside (ctx.spans ++ [id])) ∧
      o.requestId = some id ∧
      ∀ response, ending = .responded response →
        response.requestId = some id ∧
        ∃ value, response.headers.values config.requestIdHeader = [value] ∧
          value.text? = some id.text := by
  obtain ⟨id, deadline, ha, he⟩ := enter_pipeline h
  rw [he] at hf ⊢
  obtain ⟨result, o, _, rfl, ho, heff⟩ := run_pipeline hf hc
  refine ⟨id, _, o, ha, rfl, rfl, rfl, heff, inside_guarded _, requestId_of_outcome? ho, ?_⟩
  intro response hr
  obtain ⟨inner, _, rfl⟩ := Ending.publish_eq_responded hr
  obtain ⟨value, hw, ht⟩ :=
    exists_value_of_visible (ha.visible hv fun text => visible_inboundId)
  exact ⟨(publish_frame _ id inner).2.2.1, value, publish_values hw inner, ht⟩

def rivalHandler : Handler := fun _ _ =>
  { steps := [.sleep (Duration.ofMillis 10)]
    ending := .responded
      { status := .ok
        headers := ⟨[(.requestId, ⟨[121], by decide⟩), (.requestId, ⟨[122], by decide⟩)]⟩
        requestId := some ⟨"z"⟩ } }

def rivalRequest : Request where
  uri := ⟨"/orders/7", none⟩
  headers := ⟨[(.requestId, ⟨[97], by decide⟩), (.requestId, ⟨[98], by decide⟩)]⟩

def rivalCall : Call :=
  let scope : Scope := ⟨some ⟨"a"⟩, some ⟨30000000000, defaultTimeout⟩⟩
  .logged 0 .http .collect (Protocol.http.describe rivalRequest) (some ⟨"a"⟩)
    (.tagged .requestId ⟨"a"⟩
      (.guarded ⟨.http, ⟨30000000000, defaultTimeout⟩, none⟩
        (.handler scope (rivalHandler rivalRequest scope))))

def rivalEnding : Ending := .responded
  { status := .ok
    headers := ⟨[(.requestId, ⟨[97], by decide⟩)]⟩
    requestId := some ⟨"a"⟩ }

theorem pipeline_one_id_of_two :
    (∀ n, Uuid.isV4 ((IdSource.random 7).mint n).text = true) ∧
    enter 0 rivalHandler rivalRequest (pipeline .http {} .collect) 0 {} (.random 7) =
      (some ⟨rivalCall, none⟩, .random 7) ∧
    (rivalCall.run { start := .caller 0 0 }).finish = some (.caller 10000000 1, rivalEnding) ∧
    (∀ message, rivalEnding ≠ .panicked message) ∧
    ∃ id, rivalCall.ids = [id] ∧
      ∀ response, rivalEnding = .responded response → response.requestId = some id := by
  have hv : ∀ n, Uuid.isV4 ((IdSource.random 7).mint n).text = true :=
    fun n => Uuid.isV4_v4 _ _
  have h : enter 0 rivalHandler rivalRequest (pipeline .http {} .collect) 0 {} (.random 7) =
      (some ⟨rivalCall, none⟩, .random 7) := rfl
  have hf : (rivalCall.run { start := .caller 0 0 }).finish =
      some (.caller 10000000 1, rivalEnding) := by decide
  have hc : ∀ message, rivalEnding ≠ .panicked message := fun _ => Ending.noConfusion
  obtain ⟨id, _, _, _, _, _, hids, _, _, _, hr⟩ := pipeline_one_id hv h hf hc
  exact ⟨hv, h, hf, hc, id, hids, fun response he => (hr response he).1⟩

/-- The standard stack passes on what its guard gives, under its ID, and records once what the
caller gets. -/
theorem pipeline_transparent
    (h : enter now handler request (pipeline protocol config sink) position scope ids =
      (some entered, left))
    (hf : (entered.call.run ctx).finish = some (m, ending))
    (hc : ∀ message, ending ≠ .panicked message) :
    ∃ id guard result o,
      let innermost := Call.guarded guard (.handler entered.call.scope entered.call.script)
      let inside := { ctx with spans := ctx.spans ++ [id] }
      entered.call = .logged position protocol sink (protocol.describe request) (some id)
        (.tagged config.requestIdHeader id innermost) ∧
      entered.call.script = handler request entered.call.scope ∧
      (innermost.run inside).finish = some (m, result) ∧
      ((result = entered.call.script.ending ∧
          ∃ m', (entered.call.handlerRun ctx).finish = some (m', result)) ∨
        result = .responded (protocol.deadlineExceeded guard.deadline.timeout) ∨
        result = .responded (protocol.deadlineExceeded guard.cancelledTimeout) ∨
        result = .responded protocol.handlerAborted) ∧
      (match result with
        | .failed message =>
          ending = .failed message ∧
            o.status = protocol.transportFailure ∧ o.error = some message
        | .responded given => ∃ response, ending = .responded response ∧
          response.status = given.status ∧ response.body = given.body ∧
          (∀ name, name ≠ config.requestIdHeader →
            response.headers.values name = given.headers.values name) ∧
          protocol.classify response.status response.headers = .ok (o.status, o.error) ∧
          (protocol = .http → o.status = .http response.status.number ∧ o.error = none)
        | .panicked _ => False) ∧
      o.request = protocol.describe request ∧
      (entered.call.run ctx).effects =
        (innermost.run inside).effects ++ [(m, sink.effect position ctx.spans o)] ∧
      ∀ e ∈ (innermost.run inside).effects, e.2.Inside inside.spans := by
  obtain ⟨id, deadline, _, he⟩ := enter_pipeline h
  rw [he] at hf ⊢
  obtain ⟨result, o, hr, rfl, ho, heff⟩ := run_pipeline hf hc
  refine ⟨id, _, result, o, rfl, rfl, hr, ?_, ?_, ?_, heff, inside_guarded _⟩
  · rcases Context.finish_runGuard hr with ⟨m', hm⟩ | hg
    · exact .inl ⟨Context.ending_of_runHandler hm, m', hm⟩
    · exact .inr hg
  · cases result with
    | failed message =>
      rw [outcome?_failed ho]
      exact ⟨rfl, rfl, rfl⟩
    | responded given =>
      obtain ⟨hs, hb, _, hn⟩ := publish_frame config.requestIdHeader id given
      have hcl := (outcome?_responded ho).1
      refine ⟨_, rfl, hs, hb, hn, hcl, ?_⟩
      rintro rfl
      obtain ⟨hstatus, herror⟩ := Prod.ext_iff.1 (Except.ok.inj hcl)
      exact ⟨hstatus.symm, herror.symm⟩
    | panicked message => exact hc message rfl
  · exact request_of_outcome? ho

theorem pipeline_transparent_of_rival :
    enter 0 rivalHandler rivalRequest (pipeline .http {} .collect) 0 {} (.random 7) =
      (some ⟨rivalCall, none⟩, .random 7) ∧
    (rivalCall.run { start := .caller 0 0 }).finish = some (.caller 10000000 1, rivalEnding) ∧
    (∀ message, rivalEnding ≠ .panicked message) ∧
    ∃ inside o, (rivalCall.run { start := .caller 0 0 }).effects =
      inside ++ [(.caller 10000000 1, .record 0 o)] ∧
      o.request = Protocol.http.describe rivalRequest := by
  have h : enter 0 rivalHandler rivalRequest (pipeline .http {} .collect) 0 {} (.random 7) =
      (some ⟨rivalCall, none⟩, .random 7) := rfl
  have hf : (rivalCall.run { start := .caller 0 0 }).finish =
      some (.caller 10000000 1, rivalEnding) := by decide
  have hc : ∀ message, rivalEnding ≠ .panicked message := fun _ => Ending.noConfusion
  obtain ⟨_, _, _, o, _, _, _, _, _, ho, he, _⟩ := pipeline_transparent h hf hc
  exact ⟨h, hf, hc, _, o, he, ho⟩

end Gatehouse
