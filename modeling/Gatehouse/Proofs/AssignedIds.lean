import Gatehouse.Proofs.Parts

namespace Gatehouse

def Layer.header? : Layer → Option HeaderName
  | .requestId header => some header
  | _ => none

def Layer.logs : Layer → Bool
  | .accessLog _ _ => true
  | _ => false

def idHeaders (layers : List Layer) : List HeaderName := layers.filterMap Layer.header?

/-- IDs assigned one after the other from a supply, one for each header. -/
inductive IdSource.AssignsAll (request : Request) :
    IdSource → IdSource → List HeaderName → List RequestId → Prop
  | nil (ids : IdSource) : AssignsAll request ids ids [] []
  | cons {ids drawn left : IdSource} {header : HeaderName} {headers : List HeaderName}
      {id : RequestId} {rest : List RequestId}
      (first : ids.Assigns drawn (request.inboundId header) id)
      (others : AssignsAll request drawn left headers rest) :
      AssignsAll request ids left (header :: headers) (id :: rest)

namespace Call

def tags : Call → List (HeaderName × RequestId)
  | .handler _ _ => []
  | .logged _ _ _ _ _ inner => inner.tags
  | .tagged header id inner => (header, id) :: inner.tags
  | .guarded _ inner => inner.tags

def outerGuards : Call → List Guard
  | .handler _ _ => []
  | .logged _ _ _ _ _ inner => inner.outerGuards
  | .tagged _ _ _ => []
  | .guarded g inner => g :: inner.outerGuards

/-- The outermost ID of a call, if no access log stands outside it. -/
def learned : Call → Option RequestId
  | .handler _ _ => none
  | .logged _ _ _ _ _ _ => none
  | .tagged _ id _ => some id
  | .guarded _ inner => inner.learned

@[simp] theorem ids_of_tags (call : Call) : call.tags.map Prod.snd = call.ids := by
  induction call with
  | handler scope script => rfl
  | logged position protocol sink info slot inner ih => exact ih
  | tagged header id inner ih => exact congrArg (List.cons id) ih
  | guarded g inner ih => exact ih

theorem learned_cases {call : Call} {header : HeaderName} {id : RequestId}
    (ht : call.tags.head? = some (header, id)) : call.learned = none ∨ call.learned = some id := by
  induction call with
  | handler scope script => exact .inl rfl
  | logged position protocol sink info slot inner ih => exact .inl rfl
  | tagged header' id' inner ih =>
    cases ht
    exact .inr rfl
  | guarded g inner ih => exact ih ht

end Call

section

variable {now : Instant} {handler : Handler} {request : Request} {layers between rest : List Layer}
  {position : Nat} {scope : Scope} {ids left drawn : IdSource} {entered : Entered}
  {header : HeaderName} {headers : List HeaderName} {found : List RequestId}

theorem IdSource.AssignsAll.eq_replicate {text : String}
    (h : ids.AssignsAll request left headers found) (hh : ∀ name ∈ headers, name = header)
    (ht : request.inboundId header = some text) (hne : text ≠ "") :
    found = List.replicate headers.length ⟨text⟩ := by
  induction h with
  | nil ids => rfl
  | cons first others ih =>
    obtain rfl := hh _ List.mem_cons_self
    rw [ih fun name hn => hh name (List.mem_cons_of_mem _ hn)]
    rcases first with ⟨text', ht', _, rfl, _⟩ | ⟨hu, _⟩
    · rw [ht] at ht'
      cases ht'
      rfl
    · rw [ht] at hu
      exact absurd (Option.some.inj (hu.resolve_left (Option.some_ne_none _))) hne

theorem IdSource.AssignsAll.eq_minted (h : ids.AssignsAll request left headers found)
    (hh : ∀ name ∈ headers, name = header)
    (hu : request.inboundId header = none ∨ request.inboundId header = some "") :
    found = (List.range' ids.used headers.length).map ids.mint := by
  induction h with
  | nil ids => rfl
  | cons first others ih =>
    obtain rfl := hh _ List.mem_cons_self
    rw [ih fun name hn => hh name (List.mem_cons_of_mem _ hn)]
    rcases first with ⟨text, ht, hne, _⟩ | ⟨_, rfl, rfl⟩
    · rw [ht] at hu
      exact absurd (Option.some.inj (hu.resolve_left (Option.some_ne_none _))) hne
    · rfl

theorem enter_tags
    (h : enter now handler request layers position scope ids = (some entered, left)) :
    entered.call.tags.map Prod.fst = idHeaders layers ∧
      ids.AssignsAll request left (idHeaders layers) entered.call.ids := by
  induction layers generalizing position scope ids entered with
  | nil =>
    obtain ⟨rfl, rfl⟩ := enter_nil h
    exact ⟨rfl, .nil left⟩
  | cons layer layers ih =>
    cases layer with
    | accessLog protocol sink =>
      obtain ⟨inner, hi, rfl⟩ := enter_accessLog h
      exact (ih hi :)
    | requestId name =>
      obtain ⟨id, drawn, inner, ha, hi, rfl⟩ := enter_requestId h
      obtain ⟨ht, hids⟩ := ih hi
      exact ⟨congrArg (List.cons name) ht, .cons ha hids⟩
    | deadline protocol configured =>
      obtain ⟨deadline, inner, _, hi, rfl⟩ := enter_deadline h
      exact (ih hi :)

theorem enter_scope
    (h : enter now handler request layers position scope ids = (some entered, left)) :
    entered.call.scope.requestId = entered.call.ids.getLast?.or scope.requestId := by
  induction layers generalizing position scope ids entered with
  | nil =>
    obtain ⟨_, rfl⟩ := enter_nil h
    rfl
  | cons layer layers ih =>
    cases layer with
    | accessLog protocol sink =>
      obtain ⟨inner, hi, rfl⟩ := enter_accessLog h
      exact (ih hi :)
    | requestId name =>
      obtain ⟨id, drawn, inner, _, hi, rfl⟩ := enter_requestId h
      refine (ih hi).trans ?_
      rw [Call.ids, List.getLast?_cons, Option.some_or]
      cases inner.call.ids.getLast? <;> rfl
    | deadline protocol configured =>
      obtain ⟨deadline, inner, _, hi, rfl⟩ := enter_deadline h
      exact (ih hi :)

theorem enter_learned
    (h : enter now handler request layers position scope ids = (some entered, left)) :
    entered.learned = entered.call.learned := by
  induction layers generalizing position scope ids entered with
  | nil =>
    obtain ⟨_, rfl⟩ := enter_nil h
    rfl
  | cons layer layers ih =>
    cases layer with
    | accessLog protocol sink =>
      obtain ⟨inner, _, rfl⟩ := enter_accessLog h
      rfl
    | requestId name =>
      obtain ⟨id, drawn, inner, _, _, rfl⟩ := enter_requestId h
      rfl
    | deadline protocol configured =>
      obtain ⟨deadline, inner, _, hi, rfl⟩ := enter_deadline h
      exact (ih hi :)

/-- An access log of a call stands for the layer in its place. Its slot holds what the call inside
it has learned. -/
theorem enter_logged {protocol : Protocol} {sink : Sink} {info : RequestInfo}
    {slot : Option RequestId} {inner : Call} {place : Nat} {ctx within : Context}
    (h : enter now handler request layers position scope ids = (some entered, left))
    (hp : entered.call.Part ctx (.logged place protocol sink info slot inner) within) :
    ∃ outer rest handled drawn, layers = outer ++ .accessLog protocol sink :: rest ∧
      place = position + outer.length ∧ slot = inner.learned ∧
      enter now handler request rest (place + 1) handled drawn = (some ⟨inner, slot⟩, left) := by
  obtain ⟨outer, rest, handled, drawn, learned, rfl, hi⟩ := enter_part h hp
  cases rest with
  | nil =>
    obtain ⟨_, he⟩ := enter_nil hi
    cases he
  | cons layer rest =>
    cases layer with
    | accessLog protocol' sink' =>
      obtain ⟨next, hn, he⟩ := enter_accessLog hi
      cases he
      exact ⟨outer, rest, handled, drawn, rfl, rfl, enter_learned hn, hn⟩
    | requestId name =>
      obtain ⟨id, drawn, next, _, _, he⟩ := enter_requestId hi
      cases he
    | deadline protocol' configured =>
      obtain ⟨deadline, next, _, _, he⟩ := enter_deadline hi
      cases he

theorem enter_between (hb : ∀ layer ∈ between, layer.header? = none)
    (h : enter now handler request (between ++ .requestId header :: rest) position scope ids =
      (some entered, left)) :
    ∃ id, entered.call.tags.head? = some (header, id) ∧
      entered.call.learned = if between.any Layer.logs then none else some id := by
  induction between generalizing position scope ids entered with
  | nil =>
    obtain ⟨id, drawn, inner, _, _, rfl⟩ := enter_requestId h
    exact ⟨id, rfl, rfl⟩
  | cons layer between ih =>
    have hb' := fun l hl => hb l (List.mem_cons_of_mem layer hl)
    cases layer with
    | accessLog protocol sink =>
      obtain ⟨inner, hi, rfl⟩ := enter_accessLog h
      obtain ⟨id, ht, _⟩ := ih hb' hi
      exact ⟨id, ht, rfl⟩
    | requestId name => cases hb _ List.mem_cons_self
    | deadline protocol configured =>
      obtain ⟨deadline, inner, _, hi, rfl⟩ := enter_deadline h
      exact (ih hb' hi :)

end

/-- The answers that a guard gives by itself. -/
def Guard.ownAnswers (g : Guard) : List Response :=
  [g.protocol.deadlineExceeded g.deadline.timeout,
    g.protocol.deadlineExceeded g.cancelledTimeout, g.protocol.handlerAborted]

theorem Guard.requestId_of_ownAnswers {g : Guard} {response : Response}
    (h : response ∈ g.ownAnswers) : response.requestId = none := by
  obtain ⟨protocol, deadline, enclosing⟩ := g
  simp only [ownAnswers, List.mem_cons, List.not_mem_nil, or_false] at h
  rcases h with rfl | rfl | rfl <;> cases protocol <;> rfl

section

variable {call inner : Call} {ctx : Context} {m : Moment} {ending : Ending} {response : Response}
  {header : HeaderName} {id : RequestId}

theorem Call.responded_cases (ht : call.tags.head? = some (header, id))
    (h : (call.run ctx).finish = some (m, .responded response)) :
    (∃ given, response = publish header id given) ∨
      ∃ g ∈ call.outerGuards, response ∈ g.ownAnswers := by
  induction call generalizing ctx m with
  | handler scope script => cases ht
  | logged position protocol sink info slot inner ih =>
    exact ih ht (Context.runLogged_of_finish h fun _ => Ending.noConfusion).1
  | tagged header' id' inner ih =>
    cases ht
    obtain ⟨⟨m', ending⟩, _, he⟩ := Option.map_eq_some_iff.1 h
    obtain ⟨given, _, rfl⟩ := Ending.publish_eq_responded (Prod.ext_iff.1 he).2
    exact .inl ⟨given, rfl⟩
  | guarded g inner ih =>
    have own (hr : response ∈ g.ownAnswers) :
        (∃ given, response = publish header id given) ∨
          ∃ g' ∈ g :: inner.outerGuards, response ∈ g'.ownAnswers :=
      .inr ⟨g, List.mem_cons_self, hr⟩
    rcases Context.finish_runGuard h with ⟨m', hf⟩ | he | he | he
    · refine (ih ht hf).imp_right ?_
      rintro ⟨g', hg, hr⟩
      exact ⟨g', List.mem_cons_of_mem g hg, hr⟩
    · cases he
      exact own List.mem_cons_self
    · cases he
      exact own (List.mem_cons_of_mem _ List.mem_cons_self)
    · cases he
      exact own (List.mem_cons_of_mem _ (List.mem_cons_of_mem _ List.mem_cons_self))

/-- Ends of a call that carry none of its IDs: an error of the service, and the answers of guards
outside the outermost ID. -/
def Call.Untagged (call : Call) (ending : Ending) : Prop :=
  (∃ message, ending = .failed message) ∨
    ∃ g ∈ call.outerGuards, ∃ response ∈ g.ownAnswers, ending = .responded response

/-- A record holds the outermost ID assigned inside its access log, or none: neither the slot nor
the response has told. -/
theorem requestId_of_record {protocol : Protocol} {info : RequestInfo} {elapsed : Duration}
    {o : RequestOutcome} (ht : inner.tags.head? = some (header, id))
    (hf : (inner.run ctx).finish = some (m, ending))
    (ho : outcome? protocol info inner.learned elapsed ending = .ok (some o)) :
    o.requestId = some id ∧
        (inner.learned = some id ∨ ∃ given, ending = .responded (publish header id given)) ∨
      o.requestId = none ∧ inner.learned = none ∧ inner.Untagged ending := by
  cases ending with
  | responded response =>
    have hid := (outcome?_responded ho).2.2.1
    rcases Call.responded_cases ht hf with ⟨given, rfl⟩ | ⟨g, hg, hr⟩
    · rw [(publish_frame header id given).2.2.1] at hid
      exact .inl ⟨hid, .inr ⟨given, rfl⟩⟩
    · rw [Guard.requestId_of_ownAnswers hr] at hid
      rcases Call.learned_cases ht with hl | hl
      · rw [hl] at hid
        exact .inr ⟨hid, hl, .inr ⟨g, hg, response, hr, rfl⟩⟩
      · rw [hl] at hid
        exact .inl ⟨hid, .inl hl⟩
  | failed message =>
    rw [outcome?_failed ho]
    rcases Call.learned_cases ht with hl | hl
    · exact .inr ⟨hl, hl, .inl ⟨message, rfl⟩⟩
    · exact .inl ⟨hl, .inl hl⟩
  | panicked message => cases ho

end

end Gatehouse
