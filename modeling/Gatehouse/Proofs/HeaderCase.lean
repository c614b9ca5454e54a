import Gatehouse.Proofs.Configuration
import Gatehouse.Proofs.Pipeline
import Gatehouse.Proofs.Reading

namespace Gatehouse

/-- Texts of the same letters, in whatever case. -/
def SameLetters (s t : String) : Prop := s.toList.map Char.toLower = t.toList.map Char.toLower

instance (s t : String) : Decidable (SameLetters s t) :=
  inferInstanceAs (Decidable (_ = _))

def lowerLine (line : String × String) : List Char × String :=
  (line.1.toList.map Char.toLower, line.2)

def SameLines (lines lines' : List (String × String)) : Prop :=
  lines.map lowerLine = lines'.map lowerLine

instance (lines lines' : List (String × String)) : Decidable (SameLines lines lines') :=
  inferInstanceAs (Decidable (_ = _))

/-- What lines bring as an ID: the text of the first line under the name, in whatever case, if all
of it is visible. -/
def broughtId (name : String) (lines : List (String × String)) : Option String :=
  ((lines.find? fun line => SameLetters line.1 name).map (·.2)).filter isVisibleText

namespace HeaderName

variable {s t : String} {m n : HeaderName}

theorem toList_text (h : ofText? s = some n) : n.text.toList = s.toList.map Char.toLower := by
  obtain ⟨_, hn⟩ := Option.dite_none_right_eq_some.1 h
  cases hn
  exact String.toList_ofList

theorem ofText?_congr (h : SameLetters s t) : ofText? s = ofText? t := by
  have hl : s.toList.map Char.toLower = t.toList.map Char.toLower := h
  simp only [ofText?, hl]

theorem eq_of_toList_text (h : m.text.toList = n.text.toList) : m = n := by
  obtain ⟨s, hs⟩ := m
  obtain ⟨t, ht⟩ := n
  obtain rfl : s = t := String.toList_inj.1 h
  rfl

theorem eq_iff_sameLetters (hs : ofText? s = some m) (ht : ofText? t = some n) :
    m = n ↔ SameLetters s t := by
  rw [SameLetters, ← toList_text hs, ← toList_text ht]
  exact ⟨fun h => h ▸ rfl, eq_of_toList_text⟩

theorem ofText?_text (n : HeaderName) : ofText? n.text = some n := by
  have hl : n.text.toList.map Char.toLower = n.text.toList := by
    refine (List.map_congr_left fun c hc => ?_).trans (List.map_id _)
    have hv := n.valid
    rw [isHeaderName, Bool.and_eq_true, List.all_eq_true] at hv
    exact of_decide_eq_true (Bool.and_eq_true_iff.1 (hv.2 c hc)).2
  have hv : isHeaderName (String.ofList (n.text.toList.map Char.toLower)).toList = true := by
    rw [hl, String.ofList_toList]
    exact n.valid
  obtain ⟨m, hm⟩ : ∃ m, ofText? n.text = some m := ⟨_, dif_pos hv⟩
  rw [hm, eq_of_toList_text ((toList_text hm).trans hl)]

end HeaderName

namespace Headers

variable {lines lines' : List (String × String)} {line line' : String × String} {hs : Headers}
  {name other : String} {header : HeaderName} {value : HeaderValue}

theorem readLine_congr (hn : SameLetters line.1 line'.1) (hv : line.2 = line'.2) :
    readLine line = readLine line' := by
  rw [readLine, readLine, HeaderName.ofText?_congr hn, hv]

theorem ofLines_congr (h : SameLines lines lines') : ofLines lines = ofLines lines' := by
  rw [ofLines, ofLines]
  congr 1
  induction lines generalizing lines' with
  | nil => rw [List.map_eq_nil_iff.1 h.symm]
  | cons line lines ih =>
    cases lines' with
    | nil => cases h
    | cons line' lines' =>
      obtain ⟨hl, hs⟩ := List.cons.inj h
      obtain ⟨hn, hv⟩ := Prod.ext_iff.1 hl
      rw [List.mapM_cons, List.mapM_cons, readLine_congr hn hv, ih hs]

theorem readLine_eq_ok (h : readLine line = .ok (header, value)) :
    HeaderName.ofText? line.1 = some header ∧ textOfBytes value.bytes = line.2 := by
  rw [readLine] at h
  split at h
  · cases h
  · rename_i name hn
    split at h
    · cases h
    · rename_i bytes hb
      split at h
      · cases h
      · rename_i read hr
        cases h
        obtain ⟨_, hv⟩ := Option.dite_none_right_eq_some.1 hr
        cases hv
        exact ⟨hn, textOfBytes_of_bytesOf? hb⟩

theorem map_readLine_of_lines (h : ofLines lines = .ok hs) :
    lines.map readLine = hs.entries.map Except.ok := by
  rw [ofLines] at h
  cases he : lines.mapM readLine with
  | error e =>
    rw [he] at h
    cases h
  | ok entries =>
    rw [he] at h
    cases h
    exact Reading.map_eq_of_mapM he

theorem values_of_lines (h : ofLines lines = .ok hs) (hn : HeaderName.ofText? name = some header) :
    (hs.values header).map (fun v => textOfBytes v.bytes) =
      (lines.filter fun line => SameLetters line.1 name).map (·.2) := by
  obtain ⟨entries⟩ := hs
  have hm : lines.map readLine = entries.map Except.ok := map_readLine_of_lines h
  clear h
  -- line by line: each is read as the entry in its place
  induction lines generalizing entries with
  | nil =>
    rw [List.map_eq_nil_iff.1 hm.symm]
    rfl
  | cons line lines ih =>
    cases entries with
    | nil => cases hm
    | cons entry entries =>
      obtain ⟨hl, hls⟩ := List.cons.inj hm
      obtain ⟨ho, hv⟩ := readLine_eq_ok hl
      have ih := ih entries hls
      rw [values] at ih
      rw [values, List.filterMap_cons]
      by_cases hs : SameLetters line.1 name
      · rw [if_pos ((HeaderName.eq_iff_sameLetters ho hn).2 hs),
          List.filter_cons_of_pos (by simpa using hs), List.map_cons, List.map_cons, ih, hv]
      · rw [if_neg fun he => hs ((HeaderName.eq_iff_sameLetters ho hn).1 he),
          List.filter_cons_of_neg (by simpa using hs), ih]

theorem inboundId_of_lines {request : Request} (h : ofLines lines = .ok request.headers)
    (hn : HeaderName.ofText? name = some header) :
    request.inboundId header = broughtId name lines := by
  rw [Request.inboundId, broughtId, ← List.head?_filter, ← List.head?_map,
    ← values_of_lines h hn, List.head?_map]
  cases (request.headers.values header).head? with
  | none => rfl
  | some v => exact v.text?_eq

theorem broughtId_eq (name : String) (lines : List (String × String)) :
    broughtId name lines =
      (((lines.map lowerLine).find? fun line => line.1 = name.toList.map Char.toLower).map
        (·.2)).filter isVisibleText := by
  rw [List.find?_map, Option.map_map]
  rfl

theorem broughtId_congr (hn : SameLetters name other) (hl : SameLines lines lines') :
    broughtId other lines' = broughtId name lines := by
  have hn : name.toList.map Char.toLower = other.toList.map Char.toLower := hn
  rw [broughtId_eq, broughtId_eq, ← hn, ← hl]

end Headers

theorem enter_pipeline_eq (now : Instant) (handler : Handler) (request : Request)
    (protocol : Protocol) (config : MiddlewareConfig) (sink : Sink) (position : Nat) (scope : Scope)
    (ids : IdSource) :
    let id := (ids.assign (request.inboundId config.requestIdHeader)).1
    (enter now handler request (pipeline protocol config sink) position scope ids).1 =
      (Deadline.derive? now scope.deadline (effectiveTimeout config.handlerTimeout)).map
        fun deadline =>
          ⟨.logged position protocol sink (protocol.describe request) (some id)
            (.tagged config.requestIdHeader id
              (.guarded ⟨protocol, deadline, scope.deadline.map (·.timeout)⟩
                (.handler ⟨some id, some deadline⟩
                  (handler request ⟨some id, some deadline⟩)))), none⟩ := by
  simp only [pipeline, enter]
  cases Deadline.derive? now scope.deadline (effectiveTimeout config.handlerTimeout) <;> rfl

theorem IdSource.assign_congr {ids ids' : IdSource} {inbound : Option String}
    (h : (∀ text, inbound = some text → text = "") → ids'.mint ids'.used = ids.mint ids.used) :
    (ids'.assign inbound).1 = (ids.assign inbound).1 := by
  cases inbound with
  | none => exact h fun text ht => absurd ht.symm (Option.some_ne_none text)
  | some text =>
    rw [assign, assign]
    split
    case isTrue ht => exact h fun text' ht' => Option.some.inj ht' ▸ ht
    case isFalse => rfl

/-- How a call ends inside its access logs and its IDs. -/
def Call.coreEnding : Call → Context → Option Ending
  | .logged _ _ _ _ _ inner, ctx => inner.coreEnding ctx
  | .tagged _ id inner, ctx => inner.coreEnding { ctx with spans := ctx.spans ++ [id] }
  | call, ctx => (call.run ctx).finish.map Prod.snd

/-- What an access log passes on: a crash in place of a response that it cannot classify. -/
def Ending.recorded (protocol : Protocol) : Ending → Ending
  | .responded response =>
    match protocol.classify response.status response.headers with
    | .ok _ => .responded response
    | .error _ => .panicked none
  | ending => ending

theorem Context.ending_runLogged (ctx : Context) (position : Nat) (protocol : Protocol)
    (sink : Sink) (request : RequestInfo) (slot : Option RequestId) (inner : Run) :
    (ctx.runLogged position protocol sink request slot inner).finish.map Prod.snd =
      (inner.finish.map Prod.snd).map (Ending.recorded protocol) := by
  rw [runLogged]
  cases hf : inner.finish with
  | none => simp [hf]
  | some finish =>
    obtain ⟨m, ending⟩ := finish
    cases ending with
    | responded response =>
      simp only [outcome?, Option.map_some, Ending.recorded]
      cases protocol.classify response.status response.headers with
      | error e => rfl
      | ok classified => rfl
    | failed message => rfl
    | panicked message => simp [outcome?, hf, Ending.recorded]

theorem outcome?_elapsed {protocol : Protocol} {info : RequestInfo} {slot : Option RequestId}
    {elapsed : Duration} {ending : Ending} {o : RequestOutcome}
    (h : outcome? protocol info slot elapsed ending = .ok (some o)) (elapsed' : Duration) :
    outcome? protocol info slot elapsed' ending = .ok (some { o with elapsed := elapsed' }) := by
  cases ending with
  | responded response =>
    rw [outcome?] at h ⊢
    cases hc : protocol.classify response.status response.headers with
    | error e =>
      rw [hc] at h
      cases h
    | ok classified =>
      rw [hc] at h
      cases h
      rfl
  | failed message =>
    cases h
    rfl
  | panicked message => cases h

/-- Two runs end alike under one ID, and leave records that differ in the time only. -/
structure AnsweredAlike (header : HeaderName) (id : RequestId) (position : Nat) (sink : Sink)
    (call call' : Call) (ctx ctx' : Context) : Prop where
  ending : (call'.run ctx').finish.map Prod.snd = (call.run ctx).finish.map Prod.snd
  echo : ∀ m response, (call.run ctx).finish = some (m, .responded response) →
    response.requestId = some id ∧
      ∃ value, response.headers.values header = [value] ∧ value.text? = some id.text
  record : ∀ m m' ending, (call.run ctx).finish = some (m, ending) →
    (call'.run ctx').finish = some (m', ending) → (∀ message, ending ≠ .panicked message) →
    ∃ inside inside' o o',
      (call.run ctx).effects = inside ++ [(m, sink.effect position ctx.spans o)] ∧
      (call'.run ctx').effects = inside' ++ [(m', sink.effect position ctx'.spans o')] ∧
      o.requestId = some id ∧ o' = { o with elapsed := o'.elapsed }
  silent : (∀ m ending, (call.run ctx).finish = some (m, ending) →
      ∃ message, ending = .panicked message) →
    (∀ e ∈ (call.run ctx).effects, e.2.Inside (ctx.spans ++ [id])) ∧
      ∀ e ∈ (call'.run ctx').effects, e.2.Inside (ctx'.spans ++ [id])

section

variable {position : Nat} {protocol : Protocol} {sink : Sink} {info : RequestInfo}
  {header : HeaderName} {id : RequestId} {guard guard' : Guard}
  {scope scope' : Scope} {script script' : Script} {ctx ctx' : Context}

theorem ending_run_tagged (ctx : Context) (position : Nat) (protocol : Protocol) (sink : Sink)
    (info : RequestInfo) (header : HeaderName) (id : RequestId) (inner : Call) :
    ((Call.logged position protocol sink info (some id) (.tagged header id inner)).run
      ctx).finish.map Prod.snd =
      (((inner.run { ctx with spans := ctx.spans ++ [id] }).finish.map Prod.snd).map
        (Ending.publish header id)).map (Ending.recorded protocol) := by
  rw [Call.run, Context.ending_runLogged, Call.run]
  simp only [Option.map_map]
  rfl

theorem inside_of_panicked
    (h : ∀ m ending, ((Call.logged position protocol sink info (some id)
      (.tagged header id (.guarded guard (.handler scope script)))).run ctx).finish =
        some (m, ending) → ∃ message, ending = .panicked message) :
    ∀ e ∈ ((Call.logged position protocol sink info (some id)
      (.tagged header id (.guarded guard (.handler scope script)))).run ctx).effects,
      e.2.Inside (ctx.spans ++ [id]) := by
  have hin : ∀ e ∈ ((Call.guarded guard (.handler scope script)).run
      { ctx with spans := ctx.spans ++ [id] }).effects, e.2.Inside (ctx.spans ++ [id]) :=
    inside_guarded _
  rw [Call.run] at h ⊢
  rcases ctx.runLogged_cases position protocol sink info (some id) _ with
    ⟨hr, -⟩ | ⟨m, ending, hf, ⟨o, ho, hr⟩ | ⟨fault, -, hr⟩⟩
  · rw [hr]
    exact hin
  · rw [hr] at h
    obtain ⟨message, rfl⟩ := h m ending hf
    cases ho
  · rw [hr]
    exact hin

theorem answeredAlike_of_coreEnding
    (hv : isVisibleText id.text = true)
    (hcore : ((Call.guarded guard' (.handler scope' script')).run
        { ctx' with spans := ctx'.spans ++ [id] }).finish.map Prod.snd =
      ((Call.guarded guard (.handler scope script)).run
        { ctx with spans := ctx.spans ++ [id] }).finish.map Prod.snd) :
    AnsweredAlike header id position sink
      (.logged position protocol sink info (some id)
        (.tagged header id (.guarded guard (.handler scope script))))
      (.logged position protocol sink info (some id)
        (.tagged header id (.guarded guard' (.handler scope' script')))) ctx ctx' := by
  have hend := ending_run_tagged ctx' position protocol sink info header id
    (.guarded guard' (.handler scope' script'))
  rw [hcore, ← ending_run_tagged ctx position protocol sink info] at hend
  refine ⟨hend, ?_, ?_, ?_⟩
  case refine_1 =>
    intro m response hf
    obtain ⟨result, o, -, hp, -, -⟩ := run_pipeline hf fun _ => Ending.noConfusion
    obtain ⟨given, -, rfl⟩ := Ending.publish_eq_responded hp.symm
    obtain ⟨value, hw, ht⟩ := exists_value_of_visible hv
    exact ⟨(publish_frame header id given).2.2.1, value, publish_values hw given, ht⟩
  case refine_2 =>
    intro m m' ending hf hf' hc
    obtain ⟨result, o, -, hp, ho, he⟩ := run_pipeline hf hc
    obtain ⟨-, o', -, -, ho', he'⟩ := run_pipeline hf' hc
    have hsame := (outcome?_elapsed ho _).symm.trans ho'
    refine ⟨_, _, o, o', he, he', requestId_of_outcome? (hp ▸ ho), ?_⟩
    cases hsame
    rfl
  case refine_3 =>
    intro h
    refine ⟨inside_of_panicked h, inside_of_panicked fun m ending hf => ?_⟩
    rw [hf] at hend
    obtain ⟨⟨m', ending'⟩, hf', rfl⟩ := Option.map_eq_some_iff.1 hend.symm
    exact h m' ending' hf'

end

theorem ServerConfig.ofSettings_congr {settings : Settings} {other : String} {config : ServerConfig}
    (hn : SameLetters settings.requestIdHeader other) :
    ofSettings settings = .ok config ↔
      ofSettings { settings with requestIdHeader := other } = .ok config := by
  have ho : HeaderName.ofText? { settings with requestIdHeader := other : Settings }.requestIdHeader =
      HeaderName.ofText? settings.requestIdHeader := (HeaderName.ofText?_congr hn).symm
  cases hh : HeaderName.ofText? settings.requestIdHeader with
  | none =>
    rw [ofSettings_of_none hh, ofSettings_of_none (ho.trans hh)]
    constructor
    · intro h
      cases h
    · intro h
      cases h
  | some header => rw [ofSettings_of_some hh, ofSettings_of_some (ho.trans hh)]

/-- The letter case of header names matters neither in the settings nor on the lines of a request.
-/
theorem letter_case_never_matters {settings : Settings} {other : String}
    {lines lines' : List (String × String)}
    (hn : SameLetters settings.requestIdHeader other) (hl : SameLines lines lines') :
    let settings' := { settings with requestIdHeader := other }
    (∀ config, ServerConfig.ofSettings settings = .ok config ↔
      ServerConfig.ofSettings settings' = .ok config) ∧
    (∀ headers, Headers.ofLines lines = .ok headers ↔ Headers.ofLines lines' = .ok headers) ∧
    ∀ config config', ServerConfig.ofSettings settings = .ok config →
      ServerConfig.ofSettings settings' = .ok config' →
      let header := config.middleware.requestIdHeader
      config' = config ∧
      header.text.toList = settings.requestIdHeader.toList.map Char.toLower ∧
      HeaderName.ofText? header.text = some header ∧
      ServerConfig.ofSettings { settings with requestIdHeader := header.text } = .ok config ∧
      ∀ request request' : Request, Headers.ofLines lines = .ok request.headers →
        Headers.ofLines lines' = .ok request'.headers →
        request' = { request with headers := request'.headers } →
        ∀ handler protocol sink position (ids ids' : IdSource),
          (∀ n, Uuid.isV4 (ids.mint n).text = true) →
          ((∀ text, broughtId settings.requestIdHeader lines = some text → text = "") →
            ids'.mint ids'.used = ids.mint ids.used) →
          let stack := pipeline protocol config.middleware sink
          let stack' := pipeline protocol config'.middleware sink
          (∀ now scope, (enter now handler request' stack' position scope ids').1 =
            (enter now handler request stack position scope ids).1) ∧
          ∀ now now' scope scope' entered entered' left left',
            enter now handler request stack position scope ids = (some entered, left) →
            enter now' handler request' stack' position scope' ids' = (some entered', left') →
            ∃ id, broughtId other lines' = broughtId settings.requestIdHeader lines ∧
              ids.Assigns left (broughtId settings.requestIdHeader lines) id ∧
              ids'.Assigns left' (broughtId other lines') id ∧
              entered.call.ids = [id] ∧ entered'.call.ids = [id] ∧
              ∀ ctx ctx', entered'.call.coreEnding ctx' = entered.call.coreEnding ctx →
                AnsweredAlike header id position sink entered.call entered'.call ctx ctx' := by
  intro settings'
  have hlines := Headers.ofLines_congr hl
  refine ⟨fun config => ServerConfig.ofSettings_congr hn, fun headers => by rw [hlines], ?_⟩
  intro config config' hc hc' header
  obtain rfl : config = config' :=
    Except.ok.inj (((ServerConfig.ofSettings_congr hn).1 hc).symm.trans hc')
  obtain ⟨name, hname, hm⟩ := ServerConfig.middleware_of_ofSettings hc
  obtain rfl : header = name := congrArg MiddlewareConfig.requestIdHeader hm
  have hagain := (HeaderName.eq_iff_sameLetters hname header.ofText?_text).1 rfl
  refine ⟨rfl, HeaderName.toList_text hname, header.ofText?_text,
    (ServerConfig.ofSettings_congr hagain).1 hc, ?_⟩
  intro request request' hr hr' hframe handler protocol sink position ids ids' hv hm' stack stack'
  -- read from their lines, the requests are the same
  obtain rfl : request = request' := by
    rw [hframe, ← Except.ok.inj (hr.symm.trans (hlines.trans hr'))]
  have hb := Headers.inboundId_of_lines hr hname
  have hb' : broughtId other lines' = broughtId settings.requestIdHeader lines :=
    Headers.broughtId_congr hn hl
  have hid := IdSource.assign_congr hm'
  refine ⟨fun now scope => ?_, ?_⟩
  case refine_1 =>
    rw [enter_pipeline_eq, enter_pipeline_eq, hb, hid]
  case refine_2 =>
    intro now now' scope scope' entered entered' left left' he he'
    obtain ⟨id, deadline, ha, hcall⟩ := enter_pipeline he
    obtain ⟨id', deadline', ha', hcall'⟩ := enter_pipeline he'
    rw [hb] at ha ha'
    obtain rfl : id' = id := by rw [ha.eq_assign, ha'.eq_assign, hid]
    have hvis : isVisibleText id'.text = true :=
      ha.visible hv fun text ht => (Option.filter_eq_some_iff.1 ht).2
    refine ⟨id', hb', ha, hb' ▸ ha', by rw [hcall]; rfl, by rw [hcall']; rfl, ?_⟩
    intro ctx ctx' hcore
    rw [hcall, hcall'] at hcore ⊢
    exact answeredAlike_of_coreEnding hvis hcore

def correlationId : HeaderName := ⟨"x-correlation-id", by decide⟩

def mixedRequest : Request :=
  { rivalRequest with headers := ⟨rivalRequest.headers.entries.map fun e => (correlationId, e.2)⟩ }

def mixedCall (now : Instant) : Call :=
  let scope : Scope := ⟨some ⟨"a"⟩, some ⟨now + 30000000000, defaultTimeout⟩⟩
  .logged 0 .http .collect (Protocol.http.describe mixedRequest) (some ⟨"a"⟩)
    (.tagged correlationId ⟨"a"⟩
      (.guarded ⟨.http, ⟨now + 30000000000, defaultTimeout⟩, none⟩
        (.handler scope (rivalHandler mixedRequest scope))))

theorem letter_case_never_matters_of_mixed :
    let settings : Settings := { requestIdHeader := "X-Correlation-ID" }
    let other : String := "x-CORRELATION-id"
    let lines : List (String × String) := [("X-CORRELATION-ID", "a"), ("x-correlation-id", "b")]
    let lines' : List (String × String) := [("x-correlation-id", "a"), ("X-Correlation-ID", "b")]
    let config : ServerConfig := { middleware := { requestIdHeader := correlationId } }
    let stack := pipeline .http config.middleware .collect
    SameLetters settings.requestIdHeader other ∧ SameLines lines lines' ∧
    ServerConfig.ofSettings settings = .ok config ∧
    ServerConfig.ofSettings { settings with requestIdHeader := other } = .ok config ∧
    Headers.ofLines lines = .ok mixedRequest.headers ∧
    Headers.ofLines lines' = .ok mixedRequest.headers ∧
    enter 0 rivalHandler mixedRequest stack 0 {} (.random 7) =
      (some ⟨mixedCall 0, none⟩, .random 7) ∧
    enter 5 rivalHandler mixedRequest stack 0 {} (.random 8) =
      (some ⟨mixedCall 5, none⟩, .random 8) ∧
    AnsweredAlike correlationId ⟨"a"⟩ 0 .collect (mixedCall 0) (mixedCall 5)
      { start := .caller 0 0 } { start := .caller 5 0 } := by
  intro settings other lines lines' config stack
  have hn : SameLetters settings.requestIdHeader other := by decide
  have hl : SameLines lines lines' := by decide
  have hc : ServerConfig.ofSettings settings = .ok config := by
    have ht : effectiveTimeout (Duration.ofMillis settings.handlerTimeout) = defaultTimeout := by
      decide
    have hname : HeaderName.ofText? settings.requestIdHeader = some correlationId := by decide
    rw [ServerConfig.ofSettings_of_some hname, if_neg (by decide), ht]
  have hh : Headers.ofLines lines = .ok mixedRequest.headers := rfl
  have he : enter 0 rivalHandler mixedRequest stack 0 {} (.random 7) =
      (some ⟨mixedCall 0, none⟩, .random 7) := rfl
  have he' : enter 5 rivalHandler mixedRequest stack 0 {} (.random 8) =
      (some ⟨mixedCall 5, none⟩, .random 8) := rfl
  obtain ⟨hconfig, hlines, hstack⟩ := letter_case_never_matters hn hl
  have hc' := (hconfig config).1 hc
  have hh' := (hlines mixedRequest.headers).1 hh
  obtain ⟨-, -, -, -, hrun⟩ := hstack config config hc hc'
  have hv : ∀ n, Uuid.isV4 ((IdSource.random 7).mint n).text = true := fun n => Uuid.isV4_v4 _ _
  have hb : broughtId settings.requestIdHeader lines = some "a" := by decide
  obtain ⟨-, halike⟩ := hrun mixedRequest mixedRequest hh hh' rfl rivalHandler .http .collect 0
    (.random 7) (.random 8) hv fun h => absurd (h "a" hb) (by decide)
  obtain ⟨id, -, ha, -, -, -, hrun⟩ := halike 0 5 {} {} _ _ _ _ he he'
  rw [hb] at ha
  obtain rfl : id = ⟨"a"⟩ := ha.eq_assign
  exact ⟨hn, hl, hc, hc', hh, hh', he, he', hrun _ _ (by decide)⟩

end Gatehouse
