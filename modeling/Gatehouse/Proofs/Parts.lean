import Gatehouse.Proofs.Effects
import Gatehouse.Proofs.Entry

/-!
The parts of a running call, from the whole in to its handler. What a call does one of its parts
does, and each layer of a stack is such a part.
-/
namespace Gatehouse

namespace Call

/-- The parts of a call, and the contexts in which they run when the whole runs in one. The task of
a guard does not run if the tasks are torn down. -/
inductive Part : Call → Context → Call → Context → Prop
  | self (call : Call) (ctx : Context) : Part call ctx call ctx
  | logged {position : Nat} {protocol : Protocol} {sink : Sink} {info : RequestInfo}
      {slot : Option RequestId} {inner part : Call} {ctx within : Context}
      (inside : Part inner ctx part within) :
      Part (.logged position protocol sink info slot inner) ctx part within
  | tagged {header : HeaderName} {id : RequestId} {inner part : Call} {ctx within : Context}
      (inside : Part inner { ctx with spans := ctx.spans ++ [id] } part within) :
      Part (.tagged header id inner) ctx part within
  | guarded {g : Guard} {inner part : Call} {ctx within : Context}
      (kept : ctx.tornDown = false) (inside : Part inner (ctx.inside g) part within) :
      Part (.guarded g inner) ctx part within

/-- What a call does apart from what it has inside. -/
def Does (call : Call) (ctx : Context) (e : Moment × Effect) : Prop :=
  match call with
  | .handler scope script => e ∈ (ctx.runHandler scope script).effects
  | .logged position protocol sink info slot inner => ∃ ending o,
      (inner.run ctx).finish = some (e.1, ending) ∧
      outcome? protocol info slot (Duration.clamp (e.1.time - ctx.start.time)) ending =
        .ok (some o) ∧
      e.2 = sink.effect position ctx.spans o
  | .tagged _ _ _ => False
  | .guarded g _ => ∃ verdict event, g.event? ctx.spans verdict = some event ∧ e.2 = .event event

end Call

variable {call part : Call} {ctx within : Context} {e : Moment × Effect}

theorem Context.effects_runLogged {position : Nat} {protocol : Protocol} {sink : Sink}
    {info : RequestInfo} {slot : Option RequestId} {inner : Run} :
    e ∈ (ctx.runLogged position protocol sink info slot inner).effects ↔
      e ∈ inner.effects ∨ ∃ ending o, inner.finish = some (e.1, ending) ∧
        outcome? protocol info slot (Duration.clamp (e.1.time - ctx.start.time)) ending =
          .ok (some o) ∧ e.2 = sink.effect position ctx.spans o := by
  rcases ctx.runLogged_cases position protocol sink info slot inner with
    ⟨hr, hp⟩ | ⟨m, ending, hf, ⟨o, ho, hr⟩ | ⟨fault, ho, hr⟩⟩
  · rw [hr]
    refine ⟨.inl, fun h => h.resolve_right ?_⟩
    rintro ⟨ending, o, hf, ho, _⟩
    obtain ⟨message, rfl⟩ := hp _ _ hf
    cases ho
  · rw [hr, List.mem_append, List.mem_singleton]
    refine or_congr_right ⟨?_, ?_⟩
    · rintro rfl
      exact ⟨ending, o, hf, ho, rfl⟩
    · rintro ⟨ending', o', hf', ho', he⟩
      rw [hf] at hf'
      cases hf'
      rw [ho] at ho'
      cases ho'
      exact Prod.ext rfl he
  · rw [hr]
    refine ⟨.inl, fun h => h.resolve_right ?_⟩
    rintro ⟨ending', o, hf', ho', _⟩
    rw [hf] at hf'
    cases hf'
    rw [ho] at ho'
    cases ho'

theorem Context.effects_task {g : Guard} {task : Run} (h : ctx.tornDown = false)
    (he : e ∈ task.effects) : e ∈ (ctx.runGuard g task).effects := by
  have answers (verdict : Verdict) (m : Moment) :
      e ∈ (if ctx.reaches m then ctx.guardAnswers g verdict m task.effects
        else { task with finish := none }).effects := by
    split
    · exact List.mem_append_left _ he
    · exact he
  rw [runGuard]
  simp only [h, Bool.false_eq_true, if_false]
  split
  · split <;> exact answers _ _
  · exact answers _ _

theorem Call.Part.effects (h : call.Part ctx part within) (he : e ∈ (part.run within).effects) :
    e ∈ (call.run ctx).effects := by
  induction h with
  | self => exact he
  | logged _ ih => exact Context.effects_runLogged.2 (.inl (ih he))
  | tagged _ ih => exact ih he
  | guarded kept _ ih => exact Context.effects_task kept (ih he)

/-- Whatever a call does one of its parts does by itself. -/
theorem Call.exists_part_of_effect (h : e ∈ (call.run ctx).effects) :
    ∃ part within, call.Part ctx part within ∧ part.Does within e := by
  induction call generalizing ctx with
  | handler scope script => exact ⟨_, ctx, .self _ ctx, h⟩
  | logged position protocol sink info slot inner ih =>
    rcases Context.effects_runLogged.1 h with h | h
    · obtain ⟨part, within, hp, hd⟩ := ih h
      exact ⟨part, within, .logged hp, hd⟩
    · exact ⟨_, ctx, .self _ ctx, h⟩
  | tagged header id inner ih =>
    obtain ⟨part, within, hp, hd⟩ := ih h
    exact ⟨part, within, .tagged hp, hd⟩
  | guarded g inner ih =>
    rcases Context.effects_runGuard h with ⟨kept, h⟩ | h
    · obtain ⟨part, within, hp, hd⟩ := ih h
      exact ⟨part, within, .guarded kept hp, hd⟩
    · exact ⟨_, ctx, .self _ ctx, h⟩

theorem Call.Does.spans (h : call.Does ctx e) {event : Event} (he : e.2 = .event event) :
    event.spans = ctx.spans := by
  cases call with
  | handler scope script =>
    have hi := Context.inside_runHandler ctx scope script e h
    rw [he] at hi
    exact hi
  | logged position protocol sink info slot inner =>
    obtain ⟨ending, o, _, _, hs⟩ := h
    cases sink with
    | collect =>
      rw [hs] at he
      cases he
    | log =>
      rw [hs] at he
      cases he
      exact o.spans_event ctx.spans
  | tagged header id inner => exact h.elim
  | guarded g inner =>
    obtain ⟨verdict, event', hv, hs⟩ := h
    rw [hs] at he
    cases he
    exact Guard.spans_of_event? hv

theorem Call.Part.spans (h : call.Part ctx part within) :
    ∃ outer, call.ids = outer ++ part.ids ∧ within.spans = ctx.spans ++ outer := by
  induction h with
  | self call ctx => exact ⟨[], rfl, (List.append_nil _).symm⟩
  | logged _ ih => exact ih
  | @tagged header id inner part ctx within _ ih =>
    obtain ⟨outer, hi, hs⟩ := ih
    refine ⟨id :: outer, congrArg (List.cons id) hi, ?_⟩
    rw [hs, List.append_assoc]
    rfl
  | guarded _ _ ih => exact ih

theorem Call.spans_of_effect (h : e ∈ (call.run ctx).effects) {event : Event}
    (he : e.2 = .event event) :
    ∃ outer inner, call.ids = outer ++ inner ∧ event.spans = ctx.spans ++ outer := by
  obtain ⟨part, within, hp, hd⟩ := exists_part_of_effect h
  obtain ⟨outer, hi, hs⟩ := hp.spans
  exact ⟨outer, part.ids, hi, (hd.spans he).trans hs⟩

variable {now : Instant} {handler : Handler} {request : Request} {outer rest layers : List Layer}
  {position : Nat} {scope : Scope} {ids left : IdSource} {entered : Entered}

/-- The inner layers of a stack are entered as a part of the call. They run with the whole, unless
they stand inside a guard and the tasks are torn down. -/
theorem enter_append
    (h : enter now handler request (outer ++ rest) position scope ids = (some entered, left)) :
    ∃ inner handled drawn,
      enter now handler request rest (position + outer.length) handled drawn = (some inner, left) ∧
      ∀ ctx : Context, ctx.tornDown = false ∨ (∀ layer ∈ outer, layer.timeout? = none) →
        ∃ within, entered.call.Part ctx inner.call within := by
  induction outer generalizing position scope ids entered with
  | nil => exact ⟨entered, scope, ids, h, fun ctx _ => ⟨ctx, .self _ ctx⟩⟩
  | cons layer outer ih =>
    have shift : position + (layer :: outer).length = position + 1 + outer.length := by
      rw [List.length_cons, Nat.add_assoc, Nat.add_comm 1]
    have mono {ctx : Context}
        (hc : ctx.tornDown = false ∨ ∀ l ∈ layer :: outer, l.timeout? = none) :
        ctx.tornDown = false ∨ ∀ l ∈ outer, l.timeout? = none :=
      hc.imp_right fun hl l hm => hl l (List.mem_cons_of_mem layer hm)
    rw [shift]
    cases layer with
    | accessLog protocol sink =>
      obtain ⟨next, hn, rfl⟩ := enter_accessLog h
      obtain ⟨inner, handled, drawn, hi, hp⟩ := ih hn
      refine ⟨inner, handled, drawn, hi, fun ctx hc => ?_⟩
      obtain ⟨within, hw⟩ := hp ctx (mono hc)
      exact ⟨within, .logged hw⟩
    | requestId header =>
      obtain ⟨id, drawn, next, _, hn, rfl⟩ := enter_requestId h
      obtain ⟨inner, handled, drawn, hi, hp⟩ := ih hn
      refine ⟨inner, handled, drawn, hi, fun ctx hc => ?_⟩
      obtain ⟨within, hw⟩ := hp { ctx with spans := ctx.spans ++ [id] } (mono hc)
      exact ⟨within, .tagged hw⟩
    | deadline protocol configured =>
      obtain ⟨deadline, next, _, hn, rfl⟩ := enter_deadline h
      obtain ⟨inner, handled, drawn, hi, hp⟩ := ih hn
      refine ⟨inner, handled, drawn, hi, fun ctx hc => ?_⟩
      have kept : ctx.tornDown = false :=
        hc.resolve_right fun hl => by cases hl _ List.mem_cons_self
      obtain ⟨within, hw⟩ := hp (ctx.inside _) (.inl kept)
      exact ⟨within, .guarded kept hw⟩

theorem enter_part
    (h : enter now handler request layers position scope ids = (some entered, left))
    (hp : entered.call.Part ctx part within) :
    ∃ outer rest handled drawn learned, layers = outer ++ rest ∧
      enter now handler request rest (position + outer.length) handled drawn =
        (some ⟨part, learned⟩, left) := by
  induction layers generalizing position scope ids entered ctx with
  | nil =>
    obtain ⟨_, rfl⟩ := enter_nil h
    cases hp
    exact ⟨[], [], scope, ids, none, rfl, h⟩
  | cons layer layers ih =>
    have whole (he : part = entered.call) :
        ∃ outer rest handled drawn learned, layer :: layers = outer ++ rest ∧
          enter now handler request rest (position + outer.length) handled drawn =
            (some ⟨part, learned⟩, left) :=
      ⟨[], layer :: layers, scope, ids, entered.learned, rfl, he ▸ h⟩
    have deeper {next : Entered} {handled : Scope} {drawn : IdSource} {ctx : Context}
        (hn : enter now handler request layers (position + 1) handled drawn = (some next, left))
        (hp : next.call.Part ctx part within) :
        ∃ outer rest handled drawn learned, layer :: layers = outer ++ rest ∧
          enter now handler request rest (position + outer.length) handled drawn =
            (some ⟨part, learned⟩, left) := by
      obtain ⟨outer, rest, handled, drawn, learned, rfl, hi⟩ := ih hn hp
      refine ⟨layer :: outer, rest, handled, drawn, learned, rfl, ?_⟩
      rwa [List.length_cons, Nat.add_comm outer.length, ← Nat.add_assoc]
    cases layer with
    | accessLog protocol sink =>
      obtain ⟨next, hn, rfl⟩ := enter_accessLog h
      cases hp with
      | self => exact whole rfl
      | logged hp => exact deeper hn hp
    | requestId header =>
      obtain ⟨id, drawn, next, _, hn, rfl⟩ := enter_requestId h
      cases hp with
      | self => exact whole rfl
      | tagged hp => exact deeper hn hp
    | deadline protocol configured =>
      obtain ⟨deadline, next, _, hn, rfl⟩ := enter_deadline h
      cases hp with
      | self => exact whole rfl
      | guarded _ hp => exact deeper hn hp

end Gatehouse
