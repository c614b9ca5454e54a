import Gatehouse.Proofs.AssignedIds
import Gatehouse.Proofs.Pipeline

namespace Gatehouse

namespace Call

/-- The number of layers around the handler of a call. -/
def depth : Call → Nat
  | .handler _ _ => 0
  | .logged _ _ _ _ _ inner => inner.depth + 1
  | .tagged _ _ inner => inner.depth + 1
  | .guarded _ inner => inner.depth + 1

theorem inside_handlerRun (call : Call) (ctx : Context) :
    ∀ e ∈ (call.handlerRun ctx).effects, e.2.Inside (ctx.spans ++ call.ids) := by
  induction call generalizing ctx with
  | handler scope script =>
    rw [ids, List.append_nil]
    exact Context.inside_runHandler ctx scope script
  | logged position protocol sink info slot inner ih => exact ih ctx
  | tagged header id inner ih =>
    have hs : ctx.spans ++ [id] ++ inner.ids = ctx.spans ++ id :: inner.ids :=
      List.append_assoc _ _ _
    rw [ids, ← hs]
    exact ih { ctx with spans := ctx.spans ++ [id] }
  | guarded g inner ih => exact ih (ctx.inside g)

/-- Whoever stops waiting for a handler, what it does is done. -/
theorem effects_handlerRun (call : Call) (ctx : Context) (h : ctx.tornDown = false)
    {e : Moment × Effect} (he : e ∈ (call.handlerRun ctx).effects) :
    e ∈ (call.run ctx).effects := by
  induction call generalizing ctx with
  | handler scope script => exact he
  | logged position protocol sink info slot inner ih =>
    exact Context.effects_runLogged.2 (.inl (ih ctx h he))
  | tagged header id inner ih => exact ih { ctx with spans := ctx.spans ++ [id] } h he
  | guarded g inner ih => exact Context.effects_task h (ih (ctx.inside g) h he)

end Call

variable {now : Instant} {handler : Handler} {request : Request} {layers outer rest : List Layer}
  {position : Nat} {scope : Scope} {ids left : IdSource} {entered : Entered} {ctx within : Context}
  {part : Call}

theorem enter_depth
    (h : enter now handler request layers position scope ids = (some entered, left)) :
    entered.call.depth = layers.length := by
  induction layers generalizing position scope ids entered with
  | nil =>
    obtain ⟨_, rfl⟩ := enter_nil h
    rfl
  | cons layer layers ih =>
    cases layer with
    | accessLog protocol sink =>
      obtain ⟨inner, hi, rfl⟩ := enter_accessLog h
      exact congrArg (· + 1) (ih hi)
    | requestId header =>
      obtain ⟨id, drawn, inner, _, hi, rfl⟩ := enter_requestId h
      exact congrArg (· + 1) (ih hi)
    | deadline protocol configured =>
      obtain ⟨deadline, inner, _, hi, rfl⟩ := enter_deadline h
      exact congrArg (· + 1) (ih hi)

theorem enter_length_ids
    (h : enter now handler request layers position scope ids = (some entered, left)) :
    entered.call.ids.length = (idHeaders layers).length := by
  rw [← Call.ids_of_tags, List.length_map, ← (enter_tags h).1, List.length_map]

/-- The part of a call that the inner layers of its stack have made runs inside the spans of the ID
layers outside it. -/
theorem enter_part_spans
    (h : enter now handler request (outer ++ rest) position scope ids = (some entered, left))
    (hp : entered.call.Part ctx part within) (hd : part.depth = rest.length) :
    (∃ handled drawn learned, enter now handler request rest (position + outer.length) handled
      drawn = (some ⟨part, learned⟩, left)) ∧
    within.spans = ctx.spans ++ entered.call.ids.take (idHeaders outer).length := by
  obtain ⟨outer', rest', handled, drawn, learned, hl, hi⟩ := enter_part h hp
  have hlen : rest.length = rest'.length := hd.symm.trans (enter_depth hi)
  obtain ⟨rfl, rfl⟩ := List.append_inj' hl hlen
  refine ⟨⟨handled, drawn, learned, hi⟩, ?_⟩
  obtain ⟨assigned, hids, hs⟩ := hp.spans
  have happend : idHeaders (outer ++ rest) = idHeaders outer ++ idHeaders rest :=
    List.filterMap_append
  have hcount := enter_length_ids h
  rw [hids, happend, List.length_append, List.length_append, enter_length_ids hi] at hcount
  rw [hs, hids, ← Nat.add_right_cancel hcount, List.take_left]

theorem pipeline_part_spans (ctx : Context) {protocol : Protocol} {config : MiddlewareConfig}
    {sink : Sink}
    (h : enter now handler request (pipeline protocol config sink) position scope ids =
      (some entered, left)) :
    ∃ id, entered.call.ids = [id] ∧ ∀ part within e, entered.call.Part ctx part within →
      part.Does within e →
      within.spans = ctx.spans ++ if part = entered.call then [] else [id] := by
  obtain ⟨id, deadline, _, he⟩ := enter_pipeline h
  rw [he]
  refine ⟨id, rfl, fun part within e hp hd => ?_⟩
  cases hp with
  | self => rw [if_pos rfl, List.append_nil]
  | logged hp =>
    cases hp with
    | self => exact hd.elim
    | tagged hp =>
      cases hp with
      | self => rw [if_neg Call.noConfusion]
      | guarded _ hp =>
        cases hp
        rw [if_neg Call.noConfusion]
        rfl

/-- An event carries the IDs of the ID layers outside the layer that logs it; one of the handler
carries all of them, whoever still waits. -/
theorem events_carry_enclosing_spans (ctx : Context)
    (h : enter now handler request layers position scope ids = (some entered, left)) :
    ids.AssignsAll request left (idHeaders layers) entered.call.ids ∧
    (∀ m event, (m, .event event) ∈ (entered.call.handlerRun ctx).effects →
      event.spans = ctx.spans ++ entered.call.ids ∧
      (ctx.tornDown = false → (m, .event event) ∈ (entered.call.run ctx).effects)) ∧
    (∀ outer rest part within, layers = outer ++ rest → entered.call.Part ctx part within →
      part.depth = rest.length →
      (∃ handled drawn learned, enter now handler request rest (position + outer.length) handled
        drawn = (some ⟨part, learned⟩, left)) ∧
      ∀ m event, part.Does within (m, .event event) →
        event.spans = ctx.spans ++ entered.call.ids.take (idHeaders outer).length) ∧
    (∀ e ∈ (entered.call.run ctx).effects, ∃ outer rest part within, layers = outer ++ rest ∧
      entered.call.Part ctx part within ∧ part.depth = rest.length ∧ part.Does within e) ∧
    ∀ protocol config sink, layers = pipeline protocol config sink →
      ∃ id, entered.call.ids = [id] ∧ ∀ part within m event,
        entered.call.Part ctx part within → part.Does within (m, .event event) →
        event.spans = ctx.spans ++ if part = entered.call then [] else [id] := by
  refine ⟨(enter_tags h).2, fun m event he => ?_, ?_, fun e he => ?_, ?_⟩
  · refine ⟨entered.call.inside_handlerRun ctx _ he, fun ht => ?_⟩
    exact entered.call.effects_handlerRun ctx ht he
  · rintro outer rest part within rfl hp hd
    obtain ⟨hi, hs⟩ := enter_part_spans h hp hd
    exact ⟨hi, fun m event hdoes => (hdoes.spans rfl).trans hs⟩
  · obtain ⟨part, within, hp, hdoes⟩ := Call.exists_part_of_effect he
    obtain ⟨outer, rest, handled, drawn, learned, hl, hi⟩ := enter_part h hp
    exact ⟨outer, rest, part, within, hl, hp, enter_depth hi, hdoes⟩
  · rintro protocol config sink rfl
    obtain ⟨id, hids, hs⟩ := pipeline_part_spans ctx h
    refine ⟨id, hids, fun part within m event hp hdoes => ?_⟩
    exact (hdoes.spans rfl).trans (hs part within _ hp hdoes)

def slowCall (outer inner : RequestId) : Call :=
  let deadline : Deadline := ⟨50000000, Duration.ofMillis 50⟩
  .logged 0 .http .log (Protocol.http.describe { uri := ⟨"/orders/7", none⟩ }) (some outer)
    (.tagged .requestId outer
      (.guarded ⟨.http, deadline, none⟩
        (.tagged .requestId inner
          (.handler ⟨some inner, some deadline⟩
            { steps := [.sleep (Duration.ofMillis 80), .emit "orders" "stored"]
              ending := .responded .empty }))))

theorem events_carry_enclosing_spans_of_slow :
    let ids := IdSource.random 7
    let call := slowCall (ids.mint 0) (ids.mint 1)
    let ctx : Context := { start := .caller 0 0 }
    (∃ left, enter 0
      (fun _ _ => { steps := [.sleep (Duration.ofMillis 80), .emit "orders" "stored"]
                    ending := .responded .empty })
      { uri := ⟨"/orders/7", none⟩ }
      [.accessLog .http .log, .requestId .requestId, .deadline .http (Duration.ofMillis 50),
        .requestId .requestId] 0 {} ids = (some ⟨call, none⟩, left)) ∧
    (call.run ctx).finish.map (·.1.time) = some 50000000 ∧
    ∃ m event, (m, .event event) ∈ (call.run ctx).effects ∧ m.time = 80000000 ∧
      event.message = "stored" ∧ event.spans = [ids.mint 0, ids.mint 1] := by
  intro ids call ctx
  have h : enter 0
      (fun _ _ => { steps := [.sleep (Duration.ofMillis 80), .emit "orders" "stored"]
                    ending := .responded .empty })
      { uri := ⟨"/orders/7", none⟩ }
      [.accessLog .http .log, .requestId .requestId, .deadline .http (Duration.ofMillis 50),
        .requestId .requestId] 0 {} ids = (some ⟨call, none⟩, { ids with used := 2 }) := rfl
  obtain ⟨_, hhandler, _⟩ := events_carry_enclosing_spans ctx h
  let event : Event :=
    { level := .info, target := "orders", message := "stored"
      spans := [ids.mint 0, ids.mint 1] }
  let woken : Moment := .timer 80000000 (.woken (.caller 0 0) (.spawned 0))
  have he : (woken, .event event) ∈ (call.handlerRun ctx).effects := by decide
  obtain ⟨hs, hm⟩ := hhandler _ _ he
  exact ⟨⟨_, h⟩, by decide, _, _, hm rfl, rfl, rfl, hs⟩

end Gatehouse
