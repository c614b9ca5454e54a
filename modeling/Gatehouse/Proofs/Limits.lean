import Gatehouse.Proofs.Classification
import Gatehouse.Proofs.ClockRange

namespace Gatehouse

structure Duration.IsMillis (d : Duration) (ms : Nat) : Prop where
  secs : d.secs = ms / 1000
  subsecNanos : d.subsecNanos = ms % 1000 * 1000000
  millis : d.millis = ms

theorem Duration.isMillis_of_nanos {d : Duration} {ms : Nat} (h : d.nanos = ms * 1000000) :
    d.IsMillis ms := by
  constructor
  case secs =>
    rw [Duration.secs, h]
    omega
  case subsecNanos =>
    rw [Duration.subsecNanos, h]
    omega
  case millis => rw [Duration.millis, h, Nat.mul_div_cancel _ (by decide)]

/-- The end of the first half of the range of the clock, whose readings hold seconds in 63 bits. -/
def Instant.half : Instant := 4611686018427387904 * 1000000000

theorem Instant.half_add_le (ms : UInt64) :
    Instant.half + (effectiveTimeout (.ofMillis ms)).nanos ≤ Instant.limit :=
  Nat.le_trans (Nat.add_le_add_left (nanos_effectiveTimeout_le ms) _) (by decide)

theorem Deadline.exists_derive?_of_lt {now : Instant} {timeout : Duration}
    (h : now + timeout.nanos < Instant.limit) (parent : Option Deadline) :
    ∃ deadline, derive? now parent timeout = some deadline ∧
      (parent = none → deadline = ⟨now + timeout.nanos, timeout⟩) := by
  cases parent with
  | none => exact ⟨_, derive?_none_of_lt h, fun _ => rfl⟩
  | some p =>
    have hfits : derive? now (some p) timeout ≠ none := by
      intro hnone
      exact absurd h (Nat.not_lt.2 (derive?_eq_none_iff.1 hnone))
    obtain ⟨deadline, hd⟩ := Option.ne_none_iff_exists'.1 hfits
    exact ⟨deadline, hd, fun hp => by cases hp⟩

/-- The handler of a call that nothing disturbs runs on after a time, or for ever. -/
structure Call.Overruns (call : Call) (ctx : Context) (expiresAt : Instant) : Prop where
  undisturbed : ctx.Undisturbed expiresAt
  late : ∀ m ending, (call.handlerRun ctx).finish = some (m, ending) → expiresAt < m.time

/-- A request without a deadline of its own gets through the standard stack, and if it overruns the
limit, then at that time it gets a response as wanted, which is recorded last. -/
def MiddlewareConfig.AnswersOverruns (config : MiddlewareConfig) (protocol : Protocol)
    (limit : Nat) (wanted : Response → RequestOutcome → Prop) : Prop :=
  ∀ handler request sink position carried ids, ∀ ctx : Context,
    ctx.start.time < Instant.half →
    ∃ entered left,
      enter ctx.start.time handler request (pipeline protocol config sink) position
        ⟨carried, none⟩ ids = (some entered, left) ∧
      (entered.call.Overruns ctx (ctx.start.time + limit) →
        ∃ m response o inside, m.time = ctx.start.time + limit ∧
          (entered.call.run ctx).finish = some (m, .responded response) ∧
          (entered.call.run ctx).effects = inside ++ [(m, sink.effect position ctx.spans o)] ∧
          wanted response o)

section

variable {now : Instant} {handler : Handler} {request : Request} {protocol : Protocol}
  {config : MiddlewareConfig} {sink : Sink} {position : Nat} {carried : Option RequestId}
  {ids : IdSource} {deadline : Deadline} {ctx : Context}

theorem exists_enter_alone
    (hd : Deadline.derive? now none (effectiveTimeout config.handlerTimeout) = some deadline) :
    ∃ id entered left,
      enter now handler request (pipeline protocol config sink) position ⟨carried, none⟩ ids =
        (some entered, left) ∧
      ids.Assigns left (request.inboundId config.requestIdHeader) id ∧
      entered.call = .logged position protocol sink (protocol.describe request) (some id)
        (.tagged config.requestIdHeader id
          (.guarded ⟨protocol, deadline, none⟩
            (.handler ⟨some id, some deadline⟩ (handler request ⟨some id, some deadline⟩)))) := by
  simp only [pipeline, enter, hd]
  exact ⟨_, _, _, rfl, ids.assigns_assign _, rfl⟩

theorem finish_of_overruns {info : RequestInfo} {slot : Option RequestId} {header : HeaderName}
    {id : RequestId} {g : Guard} {scope : Scope} {script : Script}
    (h : (Call.logged position protocol sink info slot
      (.tagged header id (.guarded g (.handler scope script)))).Overruns ctx g.deadline.expiresAt)
    (hs : ctx.start.time < g.deadline.expiresAt) :
    ∃ m, m.time = g.deadline.expiresAt ∧
      ((Call.tagged header id (.guarded g (.handler scope script))).run ctx).finish =
        some (m, .responded
          (publish header id (g.protocol.deadlineExceeded g.deadline.timeout))) := by
  let within : Context := { ctx with spans := ctx.spans ++ [id] }
  have hu : within.Undisturbed g.deadline.expiresAt :=
    ⟨h.undisturbed.tornDown, h.undisturbed.droppedAt, h.undisturbed.cancellation⟩
  obtain ⟨m, hf, ht⟩ := hu.expires hs h.late
  refine ⟨m, ht, ?_⟩
  have hg : ((Call.guarded g (.handler scope script)).run within).finish = some (m, _) := hf
  rw [Call.run, hg]
  rfl

theorem exists_overrun
    (hlt : ctx.start.time + (effectiveTimeout config.handlerTimeout).nanos < Instant.limit)
    (handler : Handler) (request : Request) (protocol : Protocol) (sink : Sink) (position : Nat)
    (carried : Option RequestId) (ids : IdSource) :
    let timeout := effectiveTimeout config.handlerTimeout
    ∃ id entered left inner,
      enter ctx.start.time handler request (pipeline protocol config sink) position
        ⟨carried, none⟩ ids = (some entered, left) ∧
      ids.Assigns left (request.inboundId config.requestIdHeader) id ∧
      entered.call.script = handler request entered.call.scope ∧
      entered.call = .logged position protocol sink (protocol.describe request) (some id) inner ∧
      (entered.call.Overruns ctx (ctx.start.time + timeout.nanos) →
        ∃ m, m.time = ctx.start.time + timeout.nanos ∧
          (inner.run ctx).finish = some (m, .responded
            (publish config.requestIdHeader id (protocol.deadlineExceeded timeout)))) := by
  intro timeout
  obtain ⟨id, entered, left, he, ha, hc⟩ :=
    exists_enter_alone (Deadline.derive?_none_of_lt hlt)
  refine ⟨id, entered, left, _, he, ha, ?_, hc, ?_⟩
  · rw [hc]
    rfl
  · intro h
    rw [hc] at h
    exact finish_of_overruns h (Nat.lt_add_of_pos_right (effectiveTimeout_nanos_pos _))

/-- A configured limit reaches a request that comes early enough, and a response that can be
classified, whatever ID is put into it, reaches the caller and the record. -/
theorem MiddlewareConfig.answersOverruns_of_classified {wanted : Response → RequestOutcome → Prop}
    (hfits : Instant.half + (effectiveTimeout config.handlerTimeout).nanos ≤ Instant.limit)
    (hw : ∀ id, ∃ outcome,
      let response := publish config.requestIdHeader id
        (protocol.deadlineExceeded (effectiveTimeout config.handlerTimeout))
      protocol.classify response.status response.headers = .ok outcome ∧
        ∀ o : RequestOutcome, (o.status, o.error) = outcome → wanted response o) :
    config.AnswersOverruns protocol (effectiveTimeout config.handlerTimeout).nanos wanted := by
  intro handler request sink position carried ids ctx hearly
  have hlt := Nat.lt_of_lt_of_le (Nat.add_lt_add_right hearly _) hfits
  obtain ⟨id, entered, left, inner, he, _, _, hc, hover⟩ :=
    exists_overrun hlt handler request protocol sink position carried ids
  refine ⟨entered, left, he, fun h => ?_⟩
  obtain ⟨m, ht, hf⟩ := hover h
  obtain ⟨outcome, hclass, hwanted⟩ := hw id
  obtain ⟨o, hfinish, heffects, ho⟩ := Context.runLogged_of_classified hf hclass
  rw [hc]
  exact ⟨m, _, o, _, ht, hfinish, heffects, hwanted o ho⟩

end

theorem MiddlewareConfig.answers_http {config : MiddlewareConfig}
    (hfits : 4611686018427387904 * 1000000000 + (effectiveTimeout config.handlerTimeout).nanos ≤
      Instant.limit) :
    config.AnswersOverruns .http (effectiveTimeout config.handlerTimeout).nanos
      fun response _ => response.status = .gatewayTimeout ∧
        response.body = deadlineMessage (effectiveTimeout config.handlerTimeout) := by
  apply MiddlewareConfig.answersOverruns_of_classified hfits
  intro id
  obtain ⟨hstatus, hbody, _⟩ := publish_frame config.requestIdHeader id
    (Protocol.http.deadlineExceeded (effectiveTimeout config.handlerTimeout))
  exact ⟨_, rfl, fun _ _ => ⟨hstatus, hbody⟩⟩

def Grpc.statusHeaders : List HeaderName := [.grpcStatus, .grpcMessage, .grpcDetails]

/-- A response and its record both tell a text: the response in its message header. -/
def Grpc.TellsText (text : String) (response : Response) (o : RequestOutcome) : Prop :=
  Grpc.SpellsText (response.headers.get? .grpcMessage) text ∧ o.error = some text

theorem classify_deadlineExceeded (timeout : Duration) :
    Protocol.grpc.classify (Protocol.grpc.deadlineExceeded timeout).status
      (Protocol.grpc.deadlineExceeded timeout).headers =
        .ok (.rpc .deadlineExceeded, some (deadlineMessage timeout)) := by
  rw [Protocol.classify, Protocol.deadlineExceeded, Grpc.Status.toResponse,
    Grpc.ofHeaders?_toHeaders]
  exact congrArg (fun detail => Except.ok (OutcomeStatus.rpc .deadlineExceeded, detail))
    (if_pos ⟨RpcCode.noConfusion, deadlineMessage_ne_empty timeout⟩)

theorem MiddlewareConfig.answers_grpc {config : MiddlewareConfig}
    (hfits : Instant.half + (effectiveTimeout config.handlerTimeout).nanos ≤ Instant.limit)
    (hh : config.requestIdHeader ∉ Grpc.statusHeaders) :
    config.AnswersOverruns .grpc (effectiveTimeout config.handlerTimeout).nanos
      (Grpc.TellsText (deadlineMessage (effectiveTimeout config.handlerTimeout))) := by
  simp only [Grpc.statusHeaders, List.mem_cons, List.not_mem_nil, or_false, not_or] at hh
  obtain ⟨hs, hm, hd⟩ := hh
  apply MiddlewareConfig.answersOverruns_of_classified hfits
  intro id
  have hspells := Grpc.spellsText_toHeaders
    ⟨.deadlineExceeded, deadlineMessage (effectiveTimeout config.handlerTimeout)⟩
  obtain ⟨_, _, _, hn⟩ := publish_frame config.requestIdHeader id
    (Protocol.grpc.deadlineExceeded (effectiveTimeout config.handlerTimeout))
  have hmessage := congrArg List.head? (hn .grpcMessage (Ne.symm hm))
  rcases classify_publish hs hm (classify_deadlineExceeded _) id with hc | ⟨hdetails, _⟩
  · refine ⟨_, hc, fun o ho => ⟨?_, (Prod.ext_iff.1 ho).2⟩⟩
    rw [Headers.get?, hmessage]
    exact hspells
  · exact absurd hdetails hd

def zeroValue : HeaderValue := ⟨[48], by decide⟩

theorem ofText?_zero : HeaderValue.ofText? "0" = some zeroValue := by decide

def zeroRequest (header : HeaderName) : Request where
  uri := ⟨"/courier.v1.Orders/Get", none⟩
  headers := Headers.empty.set header zeroValue

def hangingHandler : Handler := fun _ _ => ⟨[.hang], .responded .empty⟩

theorem Call.finish_handlerRun_of_hang {call : Call} {ctx : Context}
    (h : call.script.steps = [.hang]) : (call.handlerRun ctx).finish = none := by
  induction call generalizing ctx with
  | handler scope script =>
    rw [handlerRun, Context.runHandler, show script.steps = [.hang] from h]
    rfl
  | logged _ _ _ _ _ _ ih => exact ih h
  | tagged _ _ _ ih => exact ih h
  | guarded _ _ ih => exact ih h

theorem Call.overruns_of_hang {call : Call} (h : call.script.steps = [.hang])
    (now expiresAt : Instant) : call.Overruns { start := .caller now 0 } expiresAt := by
  constructor
  case undisturbed => exact ⟨rfl, rfl, fun c hc => by cases hc⟩
  case late =>
    intro m ending hf
    rw [finish_handlerRun_of_hang h] at hf
    cases hf

theorem exists_hanging {config : MiddlewareConfig} {request : Request} {text : String}
    (hlt : 0 + (effectiveTimeout config.handlerTimeout).nanos < Instant.limit)
    (hi : request.inboundId config.requestIdHeader = some text) (hne : text ≠ "") :
    let ctx : Context := { start := .caller 0 0 }
    let timeout := effectiveTimeout config.handlerTimeout
    ∃ entered left inner m,
      enter 0 hangingHandler request (pipeline .grpc config .collect) 0 {} (.random 7) =
        (some entered, left) ∧
      entered.call =
        .logged 0 .grpc .collect (Protocol.grpc.describe request) (some ⟨text⟩) inner ∧
      entered.call.Overruns ctx (0 + timeout.nanos) ∧ m.time = 0 + timeout.nanos ∧
      (inner.run ctx).finish = some (m, .responded
        (publish config.requestIdHeader ⟨text⟩ (Protocol.grpc.deadlineExceeded timeout))) := by
  intro ctx timeout
  have hstart : ctx.start.time + timeout.nanos < Instant.limit := hlt
  obtain ⟨id, entered, left, inner, he, ha, hscript, hc, hover⟩ :=
    exists_overrun hstart hangingHandler request .grpc .collect 0 none (.random 7)
  have hoverruns := Call.overruns_of_hang (congrArg Script.steps hscript) 0 (0 + timeout.nanos)
  obtain ⟨m, ht, hf⟩ := hover hoverruns
  rw [hi] at ha
  cases ha.eq_of_brought hne
  exact ⟨entered, left, inner, m, he, hc, hoverruns, ht, hf⟩

theorem deadlineMessage_ne_zero (timeout : Duration) : deadlineMessage timeout ≠ "0" := by
  intro h
  have hlength : (_ ++ "ms").length = "0".length := congrArg String.length h
  rw [String.length_append] at hlength
  exact absurd (Nat.le_of_eq hlength) (Nat.not_le.2 (Nat.lt_add_left _ (by decide)))

theorem not_tellsText_of_zero {header : HeaderName} (hh : header ∈ Grpc.statusHeaders)
    {timeout : Duration} {o : RequestOutcome}
    (hc : Protocol.grpc.classify
      (publish header ⟨"0"⟩ (Protocol.grpc.deadlineExceeded timeout)).status
      (publish header ⟨"0"⟩ (Protocol.grpc.deadlineExceeded timeout)).headers =
        .ok (o.status, o.error)) :
    ¬ Grpc.TellsText (deadlineMessage timeout)
      (publish header ⟨"0"⟩ (Protocol.grpc.deadlineExceeded timeout)) o := by
  rintro ⟨hspells, herror⟩
  rw [publish, ofText?_zero] at hc hspells
  simp only [Grpc.statusHeaders, List.mem_cons, List.not_mem_nil, or_false] at hh
  rcases hh with rfl | rfl | rfl
  · have ho := classify_of_status (Headers.get?_set_self _ _ _) hc
    simp only [Grpc.ofCodeAndMessage_of_spellsText hspells] at ho
    have hok : Grpc.codeOfBytes zeroValue.bytes = .ok := by decide +kernel
    have hdetail : o.error = Grpc.Status.detail ⟨_, _⟩ := (Prod.ext_iff.1 ho).2
    rw [Grpc.Status.detail, if_neg fun h => h.1 hok, herror] at hdetail
    cases hdetail
  · rw [Headers.get?_set_self] at hspells
    have h0 : Grpc.SpellsText (some zeroValue) "0" := .coded (by decide)
    exact deadlineMessage_ne_zero timeout (hspells.unique h0)
  · have hstatus : ((Protocol.grpc.deadlineExceeded timeout).headers.set .grpcDetails
        zeroValue).get? .grpcStatus = some (Grpc.codeValue .deadlineExceeded) := by
      rw [Headers.get?_set_of_ne _ (by decide)]
      exact Grpc.get?_toHeaders_status _
    obtain ⟨data, hform⟩ :=
      classify_returns_iff.1 ⟨_, hc⟩ _ zeroValue hstatus (Headers.get?_set_self _ _ _)
    have hnone : Base64.decode? zeroValue.bytes = none := by decide +kernel
    rw [Base64.decode?_eq_some_iff.2 hform] at hnone
    cases hnone

theorem MiddlewareConfig.not_mem_of_answers {config : MiddlewareConfig}
    (hfits : Instant.half + (effectiveTimeout config.handlerTimeout).nanos ≤ Instant.limit)
    (h : config.AnswersOverruns .grpc (effectiveTimeout config.handlerTimeout).nanos
      (Grpc.TellsText (deadlineMessage (effectiveTimeout config.handlerTimeout)))) :
    config.requestIdHeader ∉ Grpc.statusHeaders := by
  intro hh
  have hearly : (0 : Instant) < Instant.half := by decide
  have hlt := Nat.lt_of_lt_of_le (Nat.add_lt_add_right hearly _) hfits
  have hinbound : (zeroRequest config.requestIdHeader).inboundId config.requestIdHeader =
      some "0" := by
    rw [Request.inboundId, zeroRequest, Headers.values_set_self]
    decide
  obtain ⟨entered, left, inner, m, he, hc, hoverruns, _, hgiven⟩ :=
    exists_hanging hlt hinbound (by decide)
  obtain ⟨entered', left', he', hanswers⟩ := h hangingHandler (zeroRequest config.requestIdHeader)
    .collect 0 none (.random 7) { start := .caller 0 0 } hearly
  cases he.symm.trans he'
  obtain ⟨m', response, o, inside, _, hf, heff, htells⟩ := hanswers hoverruns
  rw [hc] at hf heff
  -- what the access log hands on and records is what it has got
  obtain ⟨hinner, o', ho, heff'⟩ := Context.runLogged_of_finish hf fun _ => Ending.noConfusion
  rw [hgiven] at hinner
  cases hinner
  have hlast := (List.append_inj' (heff.symm.trans heff') rfl).2
  cases hlast
  exact not_tellsText_of_zero hh (outcome?_responded ho).1 htells

section

variable {settings : Settings} {config : ServerConfig}

theorem ServerConfig.nanos_limit (h : ServerConfig.ofSettings settings = .ok config) :
    (effectiveTimeout config.middleware.handlerTimeout).nanos =
      (if settings.handlerTimeout = 0 then 30000 else settings.handlerTimeout.toNat) * 1000000 := by
  obtain ⟨header, _, hm⟩ := middleware_of_ofSettings h
  rw [hm, effectiveTimeout_idem, nanos_effectiveTimeout]

theorem ServerConfig.half_add_limit_le (h : ServerConfig.ofSettings settings = .ok config) :
    Instant.half + (effectiveTimeout config.middleware.handlerTimeout).nanos ≤ Instant.limit := by
  obtain ⟨header, _, hm⟩ := middleware_of_ofSettings h
  rw [hm, effectiveTimeout_idem]
  exact Instant.half_add_le settings.handlerTimeout

theorem ServerConfig.requestIdHeader_not_mem_iff
    (h : ServerConfig.ofSettings settings = .ok config) {names : List HeaderName} :
    config.middleware.requestIdHeader ∉ names ↔
      ∀ name ∈ names, HeaderName.ofText? settings.requestIdHeader ≠ some name := by
  obtain ⟨header, hh, hm⟩ := middleware_of_ofSettings h
  rw [hh, hm]
  constructor
  · intro hne name hn he
    cases he
    exact hne hn
  · intro hne hn
    exact hne header hn rfl

end

/-- The limit of the settings reaches the guard as it is. A request that overruns it is answered in
its name, over HTTP always, and as a remote call unless the ID goes to a header of the status. -/
theorem limit_named_in_answer_iff {settings : Settings} {config : ServerConfig}
    (h : ServerConfig.ofSettings settings = .ok config) :
    let ms := if settings.handlerTimeout = 0 then 30000 else settings.handlerTimeout.toNat
    let text := "handler did not complete within " ++ Decimal.text ms ++ "ms"
    (∀ protocol sink, ∃ timeout : Duration,
      (pipeline protocol config.middleware sink).filterMap Layer.timeout? = [timeout] ∧
      timeout.nanos = ms * 1000000 ∧ timeout.IsMillis ms ∧
      ∀ now parent, now < Instant.half →
        ∃ deadline, Deadline.derive? now parent timeout = some deadline ∧
          (parent = none → deadline = ⟨now + ms * 1000000, timeout⟩)) ∧
    config.middleware.AnswersOverruns .http (ms * 1000000)
      (fun response _ => response.status = .gatewayTimeout ∧ response.body = text) ∧
    (config.middleware.AnswersOverruns .grpc (ms * 1000000) (Grpc.TellsText text) ↔
      ∀ name ∈ Grpc.statusHeaders, HeaderName.ofText? settings.requestIdHeader ≠ some name) := by
  intro ms text
  have hnanos := ServerConfig.nanos_limit h
  have hfits := ServerConfig.half_add_limit_le h
  have hmillis := Duration.isMillis_of_nanos hnanos
  have htext : deadlineMessage (effectiveTimeout config.middleware.handlerTimeout) = text :=
    congrArg (fun n => "handler did not complete within " ++ Decimal.text n ++ "ms") hmillis.millis
  refine ⟨?_, ?_, ?_⟩
  · intro protocol sink
    refine ⟨_, rfl, hnanos, hmillis, fun now parent hearly => ?_⟩
    rw [← hnanos]
    apply Deadline.exists_derive?_of_lt
    exact Nat.lt_of_lt_of_le (Nat.add_lt_add_right hearly _) hfits
  · rw [← hnanos, ← htext]
    exact MiddlewareConfig.answers_http hfits
  · rw [← hnanos, ← htext, ← ServerConfig.requestIdHeader_not_mem_iff h]
    constructor
    · exact MiddlewareConfig.not_mem_of_answers hfits
    · exact MiddlewareConfig.answers_grpc hfits

theorem limit_named_in_answer_iff_of_longest :
    ServerConfig.ofSettings { handlerTimeout := 18446744073709551615 } =
      .ok { middleware := ⟨.ofMillis 18446744073709551615, .requestId⟩ } ∧
    MiddlewareConfig.AnswersOverruns ⟨.ofMillis 18446744073709551615, .requestId⟩ .grpc
      (18446744073709551615 * 1000000) (Grpc.TellsText
        ("handler did not complete within " ++ Decimal.text 18446744073709551615 ++ "ms")) := by
  have h : ServerConfig.ofSettings { handlerTimeout := 18446744073709551615 } =
      .ok { middleware := ⟨.ofMillis 18446744073709551615, .requestId⟩ } := rfl
  have hms : (if (18446744073709551615 : UInt64) = 0 then 30000
      else (18446744073709551615 : UInt64).toNat) = 18446744073709551615 := by decide
  have hgrpc := (limit_named_in_answer_iff h).2.2
  rw [hms] at hgrpc
  exact ⟨h, hgrpc.2 (by decide)⟩

/-- The ID goes where the message belongs: a handler that overruns its limit is answered for with
the number of the request. -/
theorem limit_overwritten_in_answer :
    let config : MiddlewareConfig := ⟨.ofMillis 20, .grpcMessage⟩
    let ctx : Context := { start := .caller 0 0 }
    ServerConfig.ofSettings { handlerTimeout := 20, requestIdHeader := "Grpc-Message" } =
      .ok { middleware := config } ∧
    ∃ entered left, enter 0 hangingHandler (requestUnder .grpcMessage)
        (pipeline .grpc config .collect) 0 {} (.random 7) = (some entered, left) ∧
      entered.call.Overruns ctx 20000000 ∧
      ∃ m response o inside, m.time = 20000000 ∧
        (entered.call.run ctx).finish = some (m, .responded response) ∧
        (entered.call.run ctx).effects = inside ++ [(m, .record 0 o)] ∧
        Grpc.SpellsText (response.headers.get? .grpcMessage) "7" ∧ o.error = some "7" := by
  intro config ctx
  have heffective : effectiveTimeout config.handlerTimeout = .ofMillis 20 := by decide
  have hexpiry : 0 + (Duration.ofMillis 20).nanos = 20000000 := by decide
  have hlt : 0 + (effectiveTimeout config.handlerTimeout).nanos < Instant.limit := by decide
  have hinbound : (requestUnder .grpcMessage).inboundId config.requestIdHeader = some "7" := by
    decide
  obtain ⟨entered, left, inner, m, he, hc, hoverruns, ht, hf⟩ :=
    exists_hanging hlt hinbound (by decide)
  rw [heffective, hexpiry] at hoverruns ht
  have hclass : Protocol.grpc.classify
      (publish .grpcMessage ⟨"7"⟩ (Protocol.grpc.deadlineExceeded (.ofMillis 20))).status
      (publish .grpcMessage ⟨"7"⟩ (Protocol.grpc.deadlineExceeded (.ofMillis 20))).headers =
        .ok (.rpc .deadlineExceeded, some "7") := by
    with_unfolding_all rfl
  rw [heffective] at hf
  obtain ⟨o, hfinish, heffects, ho⟩ := Context.runLogged_of_classified hf hclass
  refine ⟨rfl, entered, left, he, hoverruns, ?_⟩
  rw [hc]
  exact ⟨m, _, o, _, ht, hfinish, heffects, .coded (by decide), (Prod.ext_iff.1 ho).2⟩

end Gatehouse
