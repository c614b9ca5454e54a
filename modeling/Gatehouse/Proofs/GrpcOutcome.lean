import Gatehouse.Proofs.Configuration
import Gatehouse.Proofs.Parts
import Gatehouse.Proofs.Pipeline
import Gatehouse.Proofs.Timing

namespace Gatehouse

/-- A status is read from two headers; a third one can only make it unreadable. -/
theorem Grpc.Status.ofHeaders?_of_agree {headers other : Headers} {status : Option Status}
    (hs : other.get? .grpcStatus = headers.get? .grpcStatus)
    (hm : other.get? .grpcMessage = headers.get? .grpcMessage)
    (h : ofHeaders? headers = .ok status) :
    ofHeaders? other = .ok status ∨
      other.get? .grpcDetails ≠ headers.get? .grpcDetails ∧
        ofHeaders? other = .error .malformedDetails := by
  by_cases hd : other.get? .grpcDetails = headers.get? .grpcDetails
  · left
    rw [ofHeaders?, hs, hm, hd]
    exact h
  · rw [ofHeaders?, hs, hm]
    rw [ofHeaders?] at h
    cases hc : headers.get? .grpcStatus with
    | none =>
      rw [hc] at h
      exact .inl h
    | some code =>
      simp only [hc] at h ⊢
      split
      · split at h
        · exact .inl h
        · cases h
      · exact .inr ⟨hd, rfl⟩

theorem classify_publish {header : HeaderName} {given : Response}
    {outcome : OutcomeStatus × Option String}
    (hs : header ≠ .grpcStatus) (hm : header ≠ .grpcMessage)
    (h : Protocol.grpc.classify given.status given.headers = .ok outcome) (id : RequestId) :
    let response := publish header id given
    Protocol.grpc.classify response.status response.headers = .ok outcome ∨
      header = .grpcDetails ∧
        Protocol.grpc.classify response.status response.headers = .error .malformedDetails := by
  intro response
  obtain ⟨hstatus, _, _, hn⟩ := publish_frame header id given
  have kept (name : HeaderName) (hne : header ≠ name) :
      response.headers.get? name = given.headers.get? name :=
    congrArg List.head? (hn name hne.symm)
  cases hr : Grpc.Status.ofHeaders? given.headers with
  | error fault =>
    rw [Protocol.classify, hr] at h
    cases h
  | ok status =>
    rcases Grpc.Status.ofHeaders?_of_agree (kept _ hs) (kept _ hm) hr with ho | ⟨hd, ho⟩
    · left
      rw [← h, hstatus, Protocol.classify, Protocol.classify, ho, hr]
    · refine .inr ⟨Decidable.not_not.1 fun hne => hd (kept _ hne), ?_⟩
      rw [Protocol.classify, ho]
      rfl

namespace Context

variable {ctx : Context} {position : Nat} {protocol : Protocol} {sink : Sink} {info : RequestInfo}
  {slot : Option RequestId} {inner : Run} {m : Moment} {response : Response}

theorem runLogged_of_classified {outcome : OutcomeStatus × Option String}
    (h : inner.finish = some (m, .responded response))
    (hc : protocol.classify response.status response.headers = .ok outcome) :
    ∃ o, let run := ctx.runLogged position protocol sink info slot inner
      run.finish = some (m, .responded response) ∧
      run.effects = inner.effects ++ [(m, sink.effect position ctx.spans o)] ∧
      (o.status, o.error) = outcome := by
  rw [runLogged, h]
  simp only [outcome?, hc]
  exact ⟨_, rfl, rfl, rfl⟩

theorem runLogged_of_unclassified {fault : Grpc.ReadError}
    (h : inner.finish = some (m, .responded response))
    (hc : protocol.classify response.status response.headers = .error fault) :
    (ctx.runLogged position protocol sink info slot inner).finish = some (m, .panicked none) := by
  rw [runLogged, h]
  simp only [outcome?, hc]
  rfl

end Context

/-- The handler of a call responds, and at some moment the guard around it passes that on. -/
structure Call.Passes (call : Call) (ctx : Context) (m : Moment) (given : Response) : Prop where
  responds : ∃ m', (call.handlerRun ctx).finish = some (m', .responded given)
  passed : ∀ guard inner within, call.Part ctx (.guarded guard inner) within →
    ((Call.guarded guard inner).run within).finish = some (m, .responded given)

/-- Remote calls through the standard stack keep the outcome that the handler has given them: the
caller gets it, and the access log records it. Details that cannot be read crash the access log. -/
def MiddlewareConfig.KeepsOutcome (config : MiddlewareConfig) : Prop :=
  ∀ now handler request sink position scope ids entered left,
    enter now handler request (pipeline .grpc config sink) position scope ids =
      (some entered, left) →
    ∀ ctx m given outcome, entered.call.Passes ctx m given →
      Protocol.grpc.classify given.status given.headers = .ok outcome →
      (∃ response o inside, (entered.call.run ctx).finish = some (m, .responded response) ∧
        (entered.call.run ctx).effects = inside ++ [(m, sink.effect position ctx.spans o)] ∧
        Protocol.grpc.classify response.status response.headers = .ok outcome ∧
        (o.status, o.error) = outcome) ∨
      config.requestIdHeader = .grpcDetails ∧
        (entered.call.run ctx).finish = some (m, .panicked none)

variable {config : MiddlewareConfig}

theorem MiddlewareConfig.keepsOutcome_of_ne (hs : config.requestIdHeader ≠ .grpcStatus)
    (hm : config.requestIdHeader ≠ .grpcMessage) : config.KeepsOutcome := by
  intro now handler request sink position scope ids entered left h ctx m given outcome hp hc
  obtain ⟨id, deadline, _, he⟩ := enter_pipeline h
  rw [he] at hp ⊢
  have hg := hp.passed _ _ _ (.logged (.tagged (.self _ _)))
  have ht : ((Call.tagged config.requestIdHeader id
      (.guarded ⟨.grpc, deadline, scope.deadline.map (·.timeout)⟩
        (.handler ⟨some id, some deadline⟩
          (handler request ⟨some id, some deadline⟩)))).run ctx).finish =
      some (m, .responded (publish config.requestIdHeader id given)) := by
    rw [Call.run, hg]
    rfl
  rcases classify_publish hs hm hc id with hr | ⟨hd, hr⟩
  · obtain ⟨o, hf, heff, ho⟩ := Context.runLogged_of_classified ht hr
    exact .inl ⟨_, o, _, hf, heff, hr, ho⟩
  · exact .inr ⟨hd, Context.runLogged_of_unclassified ht hr⟩

def requestUnder (header : HeaderName) : Request where
  uri := ⟨"/courier.v1.Orders/Get", none⟩
  headers := Headers.empty.set header ⟨[55], by decide⟩

def notFoundResponse : Response where
  status := .ok
  headers := ⟨[(.grpcStatus, Grpc.codeValue .notFound)]⟩

def notFoundCall (header : HeaderName) (deadline : Deadline) : Call :=
  .logged 0 .grpc .collect (Protocol.grpc.describe (requestUnder header)) (some ⟨"7"⟩)
    (.tagged header ⟨"7"⟩
      (.guarded ⟨.grpc, deadline, none⟩
        (.handler ⟨some ⟨"7"⟩, some deadline⟩ ⟨[], .responded notFoundResponse⟩)))

variable {header : HeaderName} {deadline : Deadline}

theorem classify_notFoundResponse :
    Protocol.grpc.classify notFoundResponse.status notFoundResponse.headers =
      .ok (.rpc .notFound, none) := by
  with_unfolding_all rfl

theorem classify_published (h : header = .grpcStatus ∨ header = .grpcMessage) :
    ∃ outcome, Protocol.grpc.classify (publish header ⟨"7"⟩ notFoundResponse).status
        (publish header ⟨"7"⟩ notFoundResponse).headers = .ok outcome ∧
      outcome ≠ (.rpc .notFound, none) := by
  rcases h with rfl | rfl
  · exact ⟨(.rpc .permissionDenied, none), by with_unfolding_all rfl, by decide⟩
  · exact ⟨(.rpc .notFound, some "7"), by with_unfolding_all rfl, by decide⟩

theorem enter_notFoundCall
    (hd : Deadline.derive? 0 none (effectiveTimeout config.handlerTimeout) = some deadline) :
    enter 0 (fun _ _ => ⟨[], .responded notFoundResponse⟩) (requestUnder config.requestIdHeader)
      (pipeline .grpc config .collect) 0 {} (.random 7) =
        (some ⟨notFoundCall config.requestIdHeader deadline, none⟩, .random 7) := by
  have hi : ((requestUnder config.requestIdHeader).headers.get? config.requestIdHeader).bind
      HeaderValue.text? = some "7" := by
    rw [requestUnder, Headers.get?_set_self]
    rfl
  simp only [pipeline, enter, hi, hd]
  rfl

theorem notFoundCall_passes (h : 0 < deadline.expiresAt) :
    ∃ m, (notFoundCall header deadline).Passes { start := .caller 0 0 } m notFoundResponse := by
  let ctx : Context := { start := .caller 0 0, spans := [⟨"7"⟩] }
  let g : Guard := ⟨.grpc, deadline, none⟩
  have hu : ctx.Undisturbed deadline.expiresAt := ⟨rfl, rfl, fun c hc => by cases hc⟩
  have hf : ((ctx.inside g).runHandler ⟨some ⟨"7"⟩, some deadline⟩
      ⟨[], .responded notFoundResponse⟩).finish =
      some (.woken (.caller 0 0) (.spawned 0), .responded notFoundResponse) := rfl
  obtain ⟨m, hg, _⟩ := hu.handler_in_time hf h
  refine ⟨m, ⟨_, rfl⟩, fun guard inner within hp => ?_⟩
  rw [notFoundCall] at hp
  cases hp with
  | logged hp =>
    cases hp with
    | tagged hp =>
      cases hp with
      | self => exact hg
      | guarded _ hp => cases hp

theorem MiddlewareConfig.ne_of_keepsOutcome
    (hlt : (effectiveTimeout config.handlerTimeout).nanos < Instant.limit)
    (h : config.KeepsOutcome) :
    config.requestIdHeader ≠ .grpcStatus ∧ config.requestIdHeader ≠ .grpcMessage := by
  rw [← not_or]
  intro hspells
  rw [← Nat.zero_add (effectiveTimeout config.handlerTimeout).nanos] at hlt
  obtain ⟨deadline, hd, he⟩ := Deadline.derive?_of_lt hlt
  rw [Nat.zero_add] at he
  have hpos : 0 < deadline.expiresAt := he ▸ effectiveTimeout_nanos_pos _
  obtain ⟨m, hp⟩ := notFoundCall_passes hpos
  rcases h _ _ _ _ _ _ _ _ _ (enter_notFoundCall hd) _ m _ _ hp classify_notFoundResponse with
    ⟨response, o, inside, hf, _, hc, _⟩ | ⟨hdetails, _⟩
  · obtain ⟨result, _, hr, hpub, _⟩ := run_pipeline hf fun _ => Ending.noConfusion
    -- the guard passes the answer on, so the caller gets it with the ID written into it
    rw [hp.passed _ _ _ (.logged (.tagged (.self _ _)))] at hr
    cases hr
    cases hpub
    obtain ⟨outcome, ho, hne⟩ := classify_published hspells
    rw [ho] at hc
    exact hne (Except.ok.inj hc)
  · rw [hdetails] at hspells
    exact absurd hspells (by decide)

/-- Of all settings that are accepted, remote calls keep their outcome under those that do not put
the ID in a header that spells it, the status or the message. -/
theorem grpc_outcome_kept_iff {settings : Settings} {config : ServerConfig}
    (h : ServerConfig.ofSettings settings = .ok config) :
    config.middleware.KeepsOutcome ↔
      HeaderName.ofText? settings.requestIdHeader ≠ some .grpcStatus ∧
        HeaderName.ofText? settings.requestIdHeader ≠ some .grpcMessage := by
  obtain ⟨header, hh, hm⟩ := ServerConfig.middleware_of_ofSettings h
  rw [hh, hm, Ne, Ne, Option.some.injEq, Option.some.injEq]
  constructor
  · apply MiddlewareConfig.ne_of_keepsOutcome
    rw [effectiveTimeout_idem]
    exact nanos_effectiveTimeout_lt settings.handlerTimeout
  · exact fun ⟨hs, hm⟩ => MiddlewareConfig.keepsOutcome_of_ne hs hm

theorem grpc_outcome_kept_iff_of_trace :
    ServerConfig.ofSettings { requestIdHeader := "X-Trace-Id" } =
      .ok { middleware := ⟨defaultTimeout, ⟨"x-trace-id", by decide⟩⟩ } ∧
    MiddlewareConfig.KeepsOutcome ⟨defaultTimeout, ⟨"x-trace-id", by decide⟩⟩ := by
  have h : ServerConfig.ofSettings { requestIdHeader := "X-Trace-Id" } =
      .ok { middleware := ⟨defaultTimeout, ⟨"x-trace-id", by decide⟩⟩ } := rfl
  exact ⟨h, (grpc_outcome_kept_iff h).2 ⟨by decide, by decide⟩⟩

/-- A handler answers that something is not found, and by the number of the request the caller is
told that it is not permitted. -/
theorem grpc_outcome_overwritten :
    let config : MiddlewareConfig := ⟨defaultTimeout, .grpcStatus⟩
    let call := notFoundCall .grpcStatus ⟨30000000000, defaultTimeout⟩
    let run := call.run { start := .caller 0 0 }
    ServerConfig.ofSettings { requestIdHeader := "Grpc-Status" } = .ok { middleware := config } ∧
    (enter 0 (fun _ _ => ⟨[], .responded notFoundResponse⟩) (requestUnder .grpcStatus)
      (pipeline .grpc config .collect) 0 {} (.random 7)).1 = some ⟨call, none⟩ ∧
    (call.handlerRun { start := .caller 0 0 }).finish =
      some (.woken (.caller 0 0) (.spawned 0), .responded notFoundResponse) ∧
    Protocol.grpc.classify notFoundResponse.status notFoundResponse.headers =
      .ok (.rpc .notFound, none) ∧
    ∃ response, run.finish = some (.caller 0 1, .responded response) ∧
      Protocol.grpc.classify response.status response.headers = .ok (.rpc .permissionDenied, none) ∧
      ∃ o, (.caller 0 1, .record 0 o) ∈ run.effects ∧ o.status = .rpc .permissionDenied := by
  refine ⟨rfl, rfl, rfl, classify_notFoundResponse, publish .grpcStatus ⟨"7"⟩ notFoundResponse,
    ?_, ?_, ?_⟩
  · with_unfolding_all rfl
  · with_unfolding_all rfl
  · refine ⟨⟨Protocol.grpc.describe (requestUnder .grpcStatus), .rpc .permissionDenied, Duration.clamp 0,
      some ⟨"7"⟩, none⟩, List.mem_of_getLast? ?_, rfl⟩
    with_unfolding_all rfl

end Gatehouse
