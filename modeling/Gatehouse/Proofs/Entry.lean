import Gatehouse.Pipeline.Call

namespace Gatehouse

/-- What a request brings as its ID: the first value of the header, if it reads as a text. -/
def Request.inboundId (request : Request) (header : HeaderName) : Option String :=
  (request.headers.values header).head?.bind HeaderValue.text?

/-- The ID of a request is the one it brings, unless that is absent or empty; then it is a new one,
and the supply is used up by one. -/
def IdSource.Assigns (ids left : IdSource) (inbound : Option String) (id : RequestId) : Prop :=
  (∃ text, inbound = some text ∧ text ≠ "" ∧ id = ⟨text⟩ ∧ left = ids) ∨
    ((inbound = none ∨ inbound = some "") ∧ id = ids.mint ids.used ∧
      left = { ids with used := ids.used + 1 })

theorem IdSource.assigns_assign (ids : IdSource) (inbound : Option String) :
    ids.Assigns (ids.assign inbound).2 inbound (ids.assign inbound).1 := by
  cases inbound with
  | none => exact .inr ⟨.inl rfl, rfl, rfl⟩
  | some text =>
    by_cases h : text = ""
    · rw [assign, if_pos h]
      exact .inr ⟨.inr (h ▸ rfl), rfl, rfl⟩
    · rw [assign, if_neg h]
      exact .inl ⟨text, rfl, h, rfl, rfl⟩

theorem IdSource.Assigns.eq_assign {ids left : IdSource} {inbound : Option String} {id : RequestId}
    (h : ids.Assigns left inbound id) :
    id = (ids.assign inbound).1 := by
  rcases h with ⟨text, rfl, ht, rfl, -⟩ | ⟨rfl | rfl, rfl, -⟩
  · rw [assign, if_neg ht]
  · rfl
  · rw [assign, if_pos rfl, draw_fst]

theorem IdSource.Assigns.eq_of_brought {ids left : IdSource} {text : String} {id : RequestId}
    (h : ids.Assigns left (some text) id) (hne : text ≠ "") : id = ⟨text⟩ := by
  rcases h with ⟨brought, ht, _, rfl, _⟩ | ⟨hn | he, _⟩
  · cases ht
    rfl
  · cases hn
  · exact absurd (Option.some.inj he) hne

variable {now : Instant} {handler : Handler} {request : Request} {rest : List Layer}
  {position : Nat} {scope : Scope} {ids left : IdSource} {entered : Entered}

theorem enter_nil (h : enter now handler request [] position scope ids = (some entered, left)) :
    left = ids ∧ entered = ⟨.handler scope (handler request scope), none⟩ := by
  cases h
  exact ⟨rfl, rfl⟩

theorem enter_accessLog {protocol : Protocol} {sink : Sink}
    (h : enter now handler request (.accessLog protocol sink :: rest) position scope ids =
      (some entered, left)) :
    ∃ inner, enter now handler request rest (position + 1) scope ids = (some inner, left) ∧
      entered = ⟨.logged position protocol sink (protocol.describe request) inner.learned
        inner.call, none⟩ := by
  rw [enter] at h
  obtain ⟨hi, rfl⟩ := Prod.ext_iff.1 h
  obtain ⟨inner, he, rfl⟩ := Option.map_eq_some_iff.1 hi
  exact ⟨inner, Prod.ext he rfl, rfl⟩

theorem enter_requestId {header : HeaderName}
    (h : enter now handler request (.requestId header :: rest) position scope ids =
      (some entered, left)) :
    ∃ id drawn inner, ids.Assigns drawn (request.inboundId header) id ∧
      enter now handler request rest (position + 1) { scope with requestId := some id } drawn =
        (some inner, left) ∧
      entered = ⟨.tagged header id inner.call, some id⟩ := by
  rw [enter] at h
  obtain ⟨hi, rfl⟩ := Prod.ext_iff.1 h
  obtain ⟨inner, he, rfl⟩ := Option.map_eq_some_iff.1 hi
  exact ⟨_, _, inner, ids.assigns_assign _, Prod.ext he rfl, rfl⟩

theorem enter_deadline {protocol : Protocol} {configured : Duration}
    (h : enter now handler request (.deadline protocol configured :: rest) position scope ids =
      (some entered, left)) :
    ∃ deadline inner,
      Deadline.derive? now scope.deadline (effectiveTimeout configured) = some deadline ∧
      enter now handler request rest (position + 1) { scope with deadline := some deadline } ids =
        (some inner, left) ∧
      entered = ⟨.guarded ⟨protocol, deadline, scope.deadline.map (·.timeout)⟩ inner.call,
        inner.learned⟩ := by
  rw [enter] at h
  split at h
  · cases h
  · rename_i deadline hd
    obtain ⟨hi, rfl⟩ := Prod.ext_iff.1 h
    obtain ⟨inner, he, rfl⟩ := Option.map_eq_some_iff.1 hi
    exact ⟨deadline, inner, hd, Prod.ext he rfl, rfl⟩

end Gatehouse
