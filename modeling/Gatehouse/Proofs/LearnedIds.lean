import Gatehouse.Proofs.AssignedIds
import Gatehouse.Proofs.Pipeline

namespace Gatehouse

variable {now : Instant} {handler : Handler} {request : Request}
  {outer between rest : List Layer} {protocol : Protocol} {sink : Sink} {header : HeaderName}
  {position : Nat} {scope : Scope} {ids left : IdSource} {entered : Entered}

/-- An access log records the outermost ID assigned inside it, if no other access log stands before
that layer or the response has passed it, and else none. -/
theorem access_log_learns_id
    (hb : ∀ layer ∈ between, layer.header? = none)
    (h : enter now handler request
      (outer ++ .accessLog protocol sink :: (between ++ .requestId header :: rest)) position scope
      ids = (some entered, left)) :
    (∀ ctx : Context, ctx.tornDown = false ∨ (∀ layer ∈ outer, layer.timeout? = none) →
      ∃ info slot inner within, entered.call.Part ctx
        (.logged (position + outer.length) protocol sink info slot inner) within) ∧
    ∀ ctx info slot inner within,
      let log := Call.logged (position + outer.length) protocol sink info slot inner
      entered.call.Part ctx log within →
      ∃ id, inner.tags.head? = some (header, id) ∧
        ∀ m ending, (log.run within).finish = some (m, ending) →
          (∀ message, ending ≠ .panicked message) →
          ∃ o, let record := (m, sink.effect (position + outer.length) within.spans o)
            (log.run within).effects = (inner.run within).effects ++ [record] ∧
            record ∈ (entered.call.run ctx).effects ∧
            (o.requestId = some id ∧ (between.any Layer.logs = false ∨
                ∃ given, ending = .responded (publish header id given)) ∨
              o.requestId = none ∧ between.any Layer.logs = true ∧ inner.Untagged ending) := by
  constructor
  · intro ctx hr
    obtain ⟨log, handled, drawn, hl, hp⟩ := enter_append h
    obtain ⟨within, hw⟩ := hp ctx hr
    obtain ⟨inner, _, rfl⟩ := enter_accessLog hl
    exact ⟨_, _, _, within, hw⟩
  · intro ctx info slot inner within log hp
    obtain ⟨outer', rest', handled, drawn, hlayers, hplace, rfl, hi⟩ := enter_logged h hp
    -- the position tells which of the access logs of the stack this one is
    have hrest : rest' = between ++ .requestId header :: rest :=
      (List.cons.inj (List.append_inj hlayers (Nat.add_left_cancel hplace)).2).2.symm
    subst hrest
    obtain ⟨id, ht, hlearned⟩ := enter_between hb hi
    refine ⟨id, ht, fun m ending hf hc => ?_⟩
    obtain ⟨hfi, o, ho, he⟩ := Context.runLogged_of_finish hf hc
    refine ⟨o, he, hp.effects ?_, ?_⟩
    · change _ ∈ (Context.runLogged _ _ _ _ _ _ _).effects
      rw [he]
      exact List.mem_append_right _ List.mem_cons_self
    · rcases requestId_of_record ht hfi ho with ⟨hid, hl | hg⟩ | ⟨hid, hl, hu⟩
      · refine .inl ⟨hid, .inl ?_⟩
        rw [hl] at hlearned
        split at hlearned
        · cases hlearned
        · rename_i hn
          exact Bool.eq_false_iff.2 hn
      · exact .inl ⟨hid, .inr hg⟩
      · refine .inr ⟨hid, ?_, hu⟩
        rw [hl] at hlearned
        split at hlearned
        · assumption
        · cases hlearned

def lateCall : Call :=
  let deadline : Deadline := ⟨50000000, Duration.ofMillis 50⟩
  .logged 0 .http .collect (Protocol.http.describe rivalRequest) (some ⟨"a"⟩)
    (.guarded ⟨.http, deadline, none⟩
      (.tagged .requestId ⟨"a"⟩
        (.handler ⟨some ⟨"a"⟩, some deadline⟩ { steps := [.hang], ending := .responded .empty })))

theorem access_log_learns_id_of_late :
    (∀ layer ∈ [Layer.deadline .http (Duration.ofMillis 50)], layer.header? = none) ∧
    enter 0 (fun _ _ => { steps := [.hang], ending := .responded .empty }) rivalRequest
      ([] ++ .accessLog .http .collect ::
        ([.deadline .http (Duration.ofMillis 50)] ++ .requestId .requestId :: [])) 0 {}
      (.random 7) = (some ⟨lateCall, none⟩, .random 7) ∧
    (lateCall.run { start := .caller 0 0 }).finish = some (.caller 50000000 0,
      .responded (Protocol.http.deadlineExceeded (Duration.ofMillis 50))) ∧
    ∃ o, (.caller 50000000 0, .record 0 o) ∈ (lateCall.run { start := .caller 0 0 }).effects ∧
      o.requestId = some ⟨"a"⟩ := by
  have hb : ∀ layer ∈ [Layer.deadline .http (Duration.ofMillis 50)], layer.header? = none :=
    List.forall_mem_singleton.2 rfl
  have h : enter 0 (fun _ _ => { steps := [.hang], ending := .responded .empty }) rivalRequest
      ([] ++ .accessLog .http .collect ::
        ([.deadline .http (Duration.ofMillis 50)] ++ .requestId .requestId :: [])) 0 {}
      (.random 7) = (some ⟨lateCall, none⟩, .random 7) := rfl
  have hf : (lateCall.run { start := .caller 0 0 }).finish = some (.caller 50000000 0,
      .responded (Protocol.http.deadlineExceeded (Duration.ofMillis 50))) := rfl
  obtain ⟨id, ht, hrecord⟩ := (access_log_learns_id hb h).2 { start := .caller 0 0 } _ _ _ _
    (.self _ _)
  cases ht
  obtain ⟨o, _, hm, ⟨hid, _⟩ | ⟨_, hl, _⟩⟩ := hrecord _ _ hf fun _ => Ending.noConfusion
  · exact ⟨hb, h, hf, o, hm, hid⟩
  · cases hl

def hiddenCall : Call :=
  .logged 0 .http .collect (Protocol.http.describe rivalRequest) none
    (.logged 1 .http .collect (Protocol.http.describe rivalRequest) (some ⟨"a"⟩)
      (.tagged .requestId ⟨"a"⟩
        (.handler ⟨some ⟨"a"⟩, none⟩ { steps := [], ending := .failed "transport closed" })))

/-- Of two access logs around an ID layer the outer one does not learn the ID of a request that
fails. -/
theorem hidden_slot_learns_nothing :
    enter 0 (fun _ _ => { steps := [], ending := .failed "transport closed" }) rivalRequest
      [.accessLog .http .collect, .accessLog .http .collect, .requestId .requestId] 0 {}
      (.random 7) = (some ⟨hiddenCall, none⟩, .random 7) ∧
    hiddenCall.ids = [⟨"a"⟩] ∧
    (hiddenCall.run { start := .caller 0 0 }).finish =
      some (.caller 0 0, .failed "transport closed") ∧
    recordedIds 1 (hiddenCall.run { start := .caller 0 0 }).effects = [some ⟨"a"⟩] ∧
    recordedIds 0 (hiddenCall.run { start := .caller 0 0 }).effects = [none] :=
  ⟨rfl, rfl, by decide, by decide, by decide⟩

end Gatehouse
