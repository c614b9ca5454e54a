import Gatehouse.Proofs.Base64
import Gatehouse.Proofs.Crashes
import Gatehouse.Proofs.GrpcOutcome
import Gatehouse.Proofs.StatusHeaders

namespace Gatehouse

namespace Grpc

/-- A status header names a code, next to a message header that spells a text. -/
structure Names (value : HeaderValue) (message : Option HeaderValue) (code : RpcCode) : Prop where
  numeral : Decimal.IsNumeral (textOfBytes value.bytes).toList code.number
  message : ∃ text, SpellsText message text

/-- What a status header and a message header mean: the code that they name, or else `unknown`; and
for a call that has failed the message, if it is not empty. -/
structure Means (value : HeaderValue) (message : Option HeaderValue) (code : RpcCode)
    (detail : Option String) : Prop where
  named : ∀ k, k ≠ .unknown → (code = k ↔ Names value message k)
  unnamed : (∀ k, k ≠ .unknown → ¬ Names value message k) → code = .unknown
  text : ∀ text, SpellsText message text →
    detail = if code ≠ .ok ∧ text ≠ "" then some text else none
  fault : (∀ text, ¬ SpellsText message text) → ∃ given fault, message = some given ∧
    Utf8.decode (Percent.decode given.bytes) = .error fault ∧
    detail = some ("Error deserializing status message header: " ++ faultText fault)

theorem SpellsText.unique {message : Option HeaderValue} {text text' : String}
    (h : SpellsText message text) (h' : SpellsText message text') : text = text' := by
  have he := ofCodeAndMessage_of_spellsText h' .ok
  rw [ofCodeAndMessage_of_spellsText h] at he
  exact (Status.mk.inj he).2

def Status.detail (s : Status) : Option String :=
  if s.code ≠ .ok ∧ s.message ≠ "" then some s.message else none

end Grpc

variable {status : StatusCode} {headers : Headers} {outcome : OutcomeStatus × Option String}

theorem classify_of_status {value : HeaderValue} (hv : headers.get? .grpcStatus = some value)
    (h : Protocol.grpc.classify status headers = .ok outcome) :
    let s := Grpc.Status.ofCodeAndMessage (Grpc.codeOfBytes value.bytes)
      (((headers.get? .grpcMessage).map (·.bytes)).getD [])
    outcome = (.rpc s.code, s.detail) := by
  rw [Protocol.classify, Grpc.Status.ofHeaders?, hv] at h
  simp only at h
  split at h
  · cases h
    rfl
  · cases h

/-- The details that come with a status are a written form of some bytes. -/
def Grpc.Readable (headers : Headers) : Prop :=
  ∀ code details, headers.get? .grpcStatus = some code →
    headers.get? .grpcDetails = some details → ∃ data, Base64.IsForm details.bytes data

theorem Grpc.readable_iff :
    Readable headers ↔ ∃ read, Status.ofHeaders? headers = .ok read := by
  cases hv : headers.get? .grpcStatus with
  | none =>
    constructor
    · intro _
      exact ⟨none, by rw [Status.ofHeaders?, hv]⟩
    · intro _ code details hc
      rw [hv] at hc
      cases hc
  | some code =>
    rw [Status.ofHeaders?, hv]
    cases hd : headers.get? .grpcDetails with
    | none =>
      constructor
      · intro _
        exact ⟨_, rfl⟩
      · intro _ _ details _ hn
        rw [hd] at hn
        cases hn
    | some details =>
      constructor
      · intro h
        obtain ⟨data, hf⟩ := h code details hv hd
        refine ⟨_, if_pos ?_⟩
        exact Option.isSome_iff_exists.2 ⟨data, Base64.decode?_eq_some_iff.2 hf⟩
      · rintro ⟨read, hr⟩ code' details' _ hd'
        rw [hd] at hd'
        cases hd'
        simp only at hr
        split at hr
        · rename_i hs
          obtain ⟨data, hf⟩ := Option.isSome_iff_exists.1 hs
          exact ⟨data, Base64.decode?_eq_some_iff.1 hf⟩
        · cases hr

theorem classify_returns_iff :
    (∃ outcome, Protocol.grpc.classify status headers = .ok outcome) ↔ Grpc.Readable headers := by
  rw [Grpc.readable_iff, Protocol.classify]
  cases Grpc.Status.ofHeaders? headers with
  | error fault =>
    constructor
    · rintro ⟨outcome, h⟩
      cases h
    · rintro ⟨read, h⟩
      cases h
  | ok read =>
    refine ⟨fun _ => ⟨read, rfl⟩, fun _ => ?_⟩
    cases read with
    | some s => exact ⟨_, rfl⟩
    | none =>
      by_cases hs : status = .ok
      · exact ⟨_, if_pos hs⟩
      · exact ⟨_, if_neg hs⟩

theorem classify_of_not_readable (h : ¬ Grpc.Readable headers) :
    Protocol.grpc.classify status headers = .error .malformedDetails := by
  cases hc : Protocol.grpc.classify status headers with
  | ok outcome => exact absurd (classify_returns_iff.1 ⟨outcome, hc⟩) h
  | error fault =>
    cases fault
    rfl

variable {ctx : Context} {position : Nat} {sink : Sink} {info : RequestInfo}
  {slot : Option RequestId} {inner : Call} {m : Moment} {response : Response}

/-- A response is handed on and recorded exactly if the details next to its status can be read; over
any other the access log crashes. -/
theorem access_log_hands_on_iff (h : (inner.run ctx).finish = some (m, .responded response)) :
    let run := (Call.logged position .grpc sink info slot inner).run ctx
    let classified := Protocol.grpc.classify response.status response.headers
    (run.finish = (inner.run ctx).finish ↔ Grpc.Readable response.headers) ∧
      (Grpc.Readable response.headers → ∃ o, classified = .ok (o.status, o.error) ∧
        run.effects = (inner.run ctx).effects ++ [(m, sink.effect position ctx.spans o)]) ∧
      (¬ Grpc.Readable response.headers → classified = .error .malformedDetails ∧
        run.finish = some (m, .panicked none) ∧ run.effects = (inner.run ctx).effects) := by
  intro run classified
  have readable (hr : Grpc.Readable response.headers) :
      run.finish = (inner.run ctx).finish ∧ ∃ o, classified = .ok (o.status, o.error) ∧
        run.effects = (inner.run ctx).effects ++ [(m, sink.effect position ctx.spans o)] := by
    obtain ⟨outcome, hc⟩ := classify_returns_iff.2 hr
    obtain ⟨o, hf, heff, ho⟩ := Context.runLogged_of_classified h hc
    exact ⟨hf.trans h.symm, o, hc.trans (congrArg Except.ok ho.symm), heff⟩
  have unreadable (hr : ¬ Grpc.Readable response.headers) :
      classified = .error .malformedDetails ∧ run.finish = some (m, .panicked none) ∧
        run.effects = (inner.run ctx).effects := by
    have hc : classified = _ := classify_of_not_readable hr
    have hf : run.finish = _ := Context.runLogged_of_unclassified h hc
    exact ⟨hc, hf, Context.effects_runLogged_of_panicked hf⟩
  refine ⟨⟨?_, fun hr => (readable hr).1⟩, fun hr => (readable hr).2, unreadable⟩
  intro hf
  apply Classical.byContradiction
  intro hr
  rw [(unreadable hr).2.1, h] at hf
  cases hf

def detailedResponse (details : HeaderValue) : Response where
  status := .ok
  headers := ⟨[(.grpcStatus, Grpc.codeValue .notFound), (.grpcDetails, details)]⟩

theorem access_log_hands_on_iff_of_unpadded :
    let response := detailedResponse ⟨"Zm8".toUTF8.data.toList, by decide +kernel⟩
    let inner := Call.handler {} ⟨[], .responded response⟩
    let ctx : Context := { start := .caller 0 0 }
    (inner.run ctx).finish = some (.caller 0 0, .responded response) ∧
    ((Call.logged 0 .grpc .collect (Protocol.grpc.describe (requestUnder .requestId)) none
      inner).run ctx).finish = some (.caller 0 0, .responded response) := by
  intro response inner ctx
  have h : (inner.run ctx).finish = some (.caller 0 0, .responded response) := rfl
  refine ⟨h, ((access_log_hands_on_iff h).1.2 ?_).trans h⟩
  intro code details _ hd
  cases hd
  exact ⟨[102, 111], 0, Nat.zero_le _, by decide +kernel⟩

/-- A handler answers next to details that are no Base64: the caller gets a crash, and nothing is
recorded. -/
theorem malformed_details_crash :
    let response := detailedResponse ⟨[33], by decide⟩
    let ctx : Context := { start := .caller 0 0 }
    ∃ call, (enter 0 (fun _ _ => ⟨[], .responded response⟩) (requestUnder .requestId)
        (pipeline .grpc {} .collect) 0 {} (.random 7)).1 = some ⟨call, none⟩ ∧
      (call.handlerRun ctx).finish =
        some (.woken (.caller 0 0) (.spawned 0), .responded response) ∧
      Protocol.grpc.classify response.status response.headers = .error .malformedDetails ∧
      (call.run ctx).finish = some (.caller 0 1, .panicked none) ∧
      recordedIds 0 (call.run ctx).effects = [] := by
  intro response ctx
  refine ⟨_, rfl, rfl, ?_, ?_, ?_⟩
  · with_unfolding_all rfl
  · with_unfolding_all rfl
  · with_unfolding_all rfl

end Gatehouse
