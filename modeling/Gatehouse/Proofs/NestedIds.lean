import Gatehouse.Proofs.AssignedIds
import Gatehouse.Proofs.Pipeline

namespace Gatehouse

/-- All who learn of an ID of a call learn of the same one. -/
structure Call.Agrees (call : Call) (header : HeaderName) (id : RequestId) : Prop where
  assigned : ∀ other ∈ call.ids, other = id
  seen : call.scope.requestId = some id
  logged : ∀ ctx, ∀ e ∈ (call.run ctx).effects, ∀ event, e.2 = .event event →
    ∃ depth ≤ call.ids.length, event.spans = ctx.spans ++ List.replicate depth id
  echoed : ∀ ctx m response, (call.run ctx).finish = some (m, .responded response) →
    (response.requestId = some id ∧
      ∃ value, response.headers.values header = [value] ∧ value.text? = some id.text) ∨
    ∃ g ∈ call.outerGuards, response ∈ g.ownAnswers
  recorded : ∀ ctx place protocol sink info slot inner within,
    call.Part ctx (.logged place protocol sink info slot inner) within → inner.ids ≠ [] →
    ∀ m ending elapsed o, (inner.run within).finish = some (m, ending) →
      outcome? protocol info slot elapsed ending = .ok (some o) →
      o.requestId = some id ∨ o.requestId = none ∧ slot = none ∧ inner.Untagged ending

section

variable {now : Instant} {handler : Handler} {request : Request} {layers : List Layer}
  {position : Nat} {scope : Scope} {ids left : IdSource} {entered : Entered} {header : HeaderName}
  {id : RequestId} {call : Call}

theorem Call.head?_tags (hne : call.ids ≠ []) (hn : ∀ name ∈ call.tags.map Prod.fst, name = header)
    (hi : ∀ other ∈ call.ids, other = id) : call.tags.head? = some (header, id) := by
  rw [← ids_of_tags] at hne hi
  cases ht : call.tags with
  | nil =>
    rw [ht] at hne
    exact absurd rfl hne
  | cons tag tags =>
    rw [ht] at hn hi
    have hname := hn tag.1 List.mem_cons_self
    have hid := hi tag.2 List.mem_cons_self
    rw [List.head?_cons, ← hname, ← hid]

theorem agrees_of_assigned (hh : ∀ name ∈ idHeaders layers, name = header)
    (hne : entered.call.ids ≠ [])
    (h : enter now handler request layers position scope ids = (some entered, left))
    (hid : ∀ other ∈ entered.call.ids, other = id) (hv : isVisibleText id.text = true) :
    entered.call.Agrees header id := by
  constructor
  case assigned => exact hid
  case seen =>
    rw [enter_scope h, List.getLast?_eq_some_getLast hne, Option.some_or,
      hid _ (List.getLast_mem hne)]
  case logged =>
    intro ctx e he event hevent
    obtain ⟨outer, inner, hi, hs⟩ := Call.spans_of_effect he hevent
    have houter : outer = List.replicate outer.length id :=
      List.eq_replicate_of_mem fun other ho => hid other (hi ▸ List.mem_append_left inner ho)
    refine ⟨outer.length, ?_, houter ▸ hs⟩
    rw [hi, List.length_append]
    exact Nat.le_add_right _ _
  case echoed =>
    intro ctx m response hf
    have ht := Call.head?_tags hne ((enter_tags h).1 ▸ hh) hid
    refine (Call.responded_cases ht hf).imp_left ?_
    rintro ⟨given, rfl⟩
    obtain ⟨value, hw, hr⟩ := exists_value_of_visible hv
    exact ⟨(publish_frame header id given).2.2.1, value, publish_values hw given, hr⟩
  case recorded =>
    intro ctx place protocol sink info slot inner within hp hni m ending elapsed o hf ho
    obtain ⟨outer, rest, handled, drawn, hlayers, _, hslot, hi⟩ := enter_logged h hp
    obtain ⟨assigned, hsplit, _⟩ := hp.spans
    have hinner : ∀ other ∈ inner.ids, other = id := fun other hm =>
      hid other (hsplit ▸ List.mem_append_right assigned hm)
    have hnames : ∀ name ∈ inner.tags.map Prod.fst, name = header := by
      intro name hm
      rw [(enter_tags hi).1] at hm
      apply hh
      rw [hlayers, idHeaders, List.filterMap_append]
      exact List.mem_append_right _ hm
    subst hslot
    exact (requestId_of_record (Call.head?_tags hni hnames hinner) hf ho).imp
      (fun h => h.1) (fun h => h)

/-- Nested ID layers of one header agree exactly if the request brings an ID that can be used. -/
theorem nested_ids_agree_iff (hh : ∀ name ∈ idHeaders layers, name = header)
    (hn : 2 ≤ (idHeaders layers).length)
    (hm : ids.mint ids.used ≠ ids.mint (ids.used + 1))
    (h : enter now handler request layers position scope ids = (some entered, left)) :
    (∀ text, request.inboundId header = some text → text ≠ "" →
      entered.call.ids = List.replicate (idHeaders layers).length ⟨text⟩ ∧
      entered.call.Agrees header ⟨text⟩) ∧
    (request.inboundId header = none ∨ request.inboundId header = some "" →
      entered.call.ids = (List.range' ids.used (idHeaders layers).length).map ids.mint ∧
      ∀ id, ¬ entered.call.Agrees header id) := by
  have ha := (enter_tags h).2
  constructor
  · intro text ht hne
    have hids := ha.eq_replicate hh ht hne
    refine ⟨hids, agrees_of_assigned hh ?_ h ?_ (visible_inboundId ht)⟩
    · rw [hids, Ne, List.replicate_eq_nil_iff]
      exact Nat.ne_of_gt (Nat.lt_of_lt_of_le Nat.two_pos hn)
    · rw [hids]
      exact fun other ho => List.eq_of_mem_replicate ho
  · intro hu
    have hids := ha.eq_minted hh hu
    refine ⟨hids, fun id hagrees => hm ?_⟩
    have minted (i : Nat) (hi : i < 2) : ids.mint (ids.used + i) = id := by
      apply hagrees.assigned
      rw [hids]
      refine List.mem_map_of_mem (List.mem_range'.2 ⟨i, Nat.lt_of_lt_of_le hi hn, ?_⟩)
      rw [Nat.one_mul]
    exact (minted 0 Nat.two_pos).trans (minted 1 Nat.one_lt_two).symm

end

def nestedCall (request : Request) (outer inner : RequestId) : Call :=
  let deadline : Deadline := ⟨30000000000, defaultTimeout⟩
  let info := Protocol.http.describe request
  .logged 0 .http .collect info (some outer)
    (.tagged .requestId outer
      (.guarded ⟨.http, deadline, none⟩
        (.logged 3 .http .collect info (some inner)
          (.tagged .requestId inner
            (.guarded ⟨.http, deadline, some defaultTimeout⟩
              (.handler ⟨some inner, some deadline⟩
                { steps := [], ending := .responded .empty }))))))

theorem nested_ids_agree_of_one :
    let layers := pipeline .http {} .collect ++ pipeline .http {} .collect
    (∀ name ∈ idHeaders layers, name = .requestId) ∧
    2 ≤ (idHeaders layers).length ∧
    (IdSource.random 7).mint 0 ≠ (IdSource.random 7).mint 1 ∧
    enter 0 (fun _ _ => { steps := [], ending := .responded .empty }) rivalRequest layers 0 {}
      (.random 7) = (some ⟨nestedCall rivalRequest ⟨"a"⟩ ⟨"a"⟩, none⟩, .random 7) ∧
    rivalRequest.inboundId .requestId = some "a" ∧
    (nestedCall rivalRequest ⟨"a"⟩ ⟨"a"⟩).Agrees .requestId ⟨"a"⟩ := by
  intro layers
  have hh : ∀ name ∈ idHeaders layers, name = .requestId := by decide
  have hn : 2 ≤ (idHeaders layers).length := by decide
  have hm : (IdSource.random 7).mint 0 ≠ (IdSource.random 7).mint 1 := by decide
  have h : enter 0 (fun _ _ => { steps := [], ending := .responded .empty }) rivalRequest layers 0
      {} (.random 7) = (some ⟨nestedCall rivalRequest ⟨"a"⟩ ⟨"a"⟩, none⟩, .random 7) := rfl
  have ht : rivalRequest.inboundId .requestId = some "a" := by decide
  exact ⟨hh, hn, hm, h, ht, ((nested_ids_agree_iff hh hn hm h).1 "a" ht (by decide)).2⟩

/-- A request that brings no ID gets two of them: the handler and the inner record have one, the
response and the outer record the other. -/
theorem nested_ids_differ :
    let request : Request := { uri := ⟨"/orders/7", none⟩ }
    let ids := IdSource.random 7
    let call := nestedCall request (ids.mint 0) (ids.mint 1)
    let run := call.run { start := .caller 0 0 }
    (enter 0 (fun _ _ => { steps := [], ending := .responded .empty }) request
      (pipeline .http {} .collect ++ pipeline .http {} .collect) 0 {} ids).1 =
        some ⟨call, none⟩ ∧
    ids.mint 0 ≠ ids.mint 1 ∧
    call.ids = [ids.mint 0, ids.mint 1] ∧
    call.scope.requestId = some (ids.mint 1) ∧
    recordedIds 3 run.effects = [some (ids.mint 1)] ∧
    recordedIds 0 run.effects = [some (ids.mint 0)] ∧
    ∃ m response, run.finish = some (m, .responded response) ∧
      response.requestId = some (ids.mint 0) :=
  ⟨rfl, by decide, rfl, rfl, rfl, rfl, _, _, rfl, rfl⟩

end Gatehouse
