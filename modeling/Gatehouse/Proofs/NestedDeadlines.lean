import Mathlib.Data.List.MinMax
import Gatehouse.Proofs.Effects
import Gatehouse.Proofs.Entry
import Gatehouse.Proofs.Nest
import Gatehouse.Proofs.StatusHeaders
import Gatehouse.Proofs.Timing

namespace Gatehouse

/-- What bounds a handler inside deadline layers, from the outermost bound in: the deadline that the
request brings, and the limit of each layer. -/
def bounds (now : Instant) (parent : Option Deadline) (timeouts : List Duration) : List Deadline :=
  parent.toList ++ timeouts.map fun configured =>
    ⟨now + (effectiveTimeout configured).nanos, effectiveTimeout configured⟩

def nestGuards (now : Instant) (protocol : Protocol) :
    Option Deadline → List Duration → List Guard
  | _, [] => []
  | parent, configured :: rest =>
    let own : Deadline :=
      ⟨now + (effectiveTimeout configured).nanos, effectiveTimeout configured⟩
    ⟨protocol, own.under parent, parent.map (·.timeout)⟩ ::
      nestGuards now protocol (some (own.under parent)) rest

/-- The deadline that a handler inside deadline layers sees. -/
def nestDeadline (now : Instant) : Option Deadline → List Duration → Option Deadline
  | parent, [] => parent
  | parent, configured :: rest =>
    let own : Deadline :=
      ⟨now + (effectiveTimeout configured).nanos, effectiveTimeout configured⟩
    nestDeadline now (some (own.under parent)) rest

def guardedBy (guards : List Guard) (inner : Call) : Call := guards.foldr .guarded inner

def Call.guardList : Call → List Guard
  | .handler _ _ => []
  | .logged _ _ _ _ _ inner => inner.guardList
  | .tagged _ _ inner => inner.guardList
  | .guarded g inner => g :: inner.guardList

theorem guardList_guardedBy (guards : List Guard) (scope : Scope) (script : Script) :
    (guardedBy guards (.handler scope script)).guardList = guards := by
  induction guards with
  | nil => rfl
  | cons g guards ih => exact congrArg (List.cons g) ih

theorem script_guardedBy (guards : List Guard) (scope : Scope) (script : Script) :
    (guardedBy guards (.handler scope script)).script = script ∧
      (guardedBy guards (.handler scope script)).scope = scope := by
  induction guards with
  | nil => exact ⟨rfl, rfl⟩
  | cons g guards ih => exact ih

theorem enter_nest {now : Instant} {handler : Handler} {request : Request} {protocol : Protocol}
    {timeouts : List Duration} {position : Nat} {scope : Scope} {ids : IdSource}
    (hroom : ∀ t ∈ timeouts, now + (effectiveTimeout t).nanos < Instant.limit) :
    let inner := { scope with deadline := nestDeadline now scope.deadline timeouts }
    enter now handler request (timeouts.map (.deadline protocol)) position scope ids =
      (some ⟨guardedBy (nestGuards now protocol scope.deadline timeouts)
        (.handler inner (handler request inner)), none⟩, ids) := by
  induction timeouts generalizing position scope with
  | nil => rfl
  | cons configured rest ih =>
    have ha : Deadline.alone? now (effectiveTimeout configured) =
        some ⟨now + (effectiveTimeout configured).nanos, effectiveTimeout configured⟩ := by
      have hlt := hroom configured List.mem_cons_self
      rw [Deadline.alone?, Instant.after?_eq_some.2 ⟨rfl, hlt⟩]
      rfl
    have hr := fun t ht => hroom t (List.mem_cons_of_mem configured ht)
    intro inner
    rw [List.map_cons, enter, Deadline.derive?, ha, Option.map_some]
    simp only [ih hr]
    rfl

theorem argmin_under (parent : Option Deadline) (own : Deadline) (rest : List Deadline) :
    (parent.toList ++ own :: rest).argmin Deadline.expiresAt =
      (own.under parent :: rest).argmin Deadline.expiresAt := by
  cases parent with
  | none => rfl
  | some p =>
    simp only [Option.toList_some, List.singleton_append, List.argmin_cons, Deadline.under]
    by_cases hp : p.expiresAt ≤ own.expiresAt
    · rw [if_pos hp]
      cases rest.argmin Deadline.expiresAt with
      | none => simp only [if_neg (Nat.not_lt_of_le hp)]
      | some c =>
        by_cases hc : c.expiresAt < own.expiresAt
        · simp only [if_pos hc]
        · have hcp := Nat.not_lt_of_le (Nat.le_trans hp (Nat.le_of_not_lt hc))
          simp only [if_neg hc, if_neg (Nat.not_lt_of_le hp), if_neg hcp]
    · rw [if_neg hp]
      have hlt := Nat.lt_of_not_le hp
      cases rest.argmin Deadline.expiresAt with
      | none => simp only [if_pos hlt]
      | some c =>
        by_cases hc : c.expiresAt < own.expiresAt
        · simp only [if_pos hc, if_pos (Nat.lt_trans hc hlt)]
        · simp only [if_neg hc, if_pos hlt]

theorem eq_or_lt_of_argmin_cons {first bound : Deadline} {rest : List Deadline}
    (h : (first :: rest).argmin Deadline.expiresAt = some bound) :
    first = bound ∨ bound.expiresAt < first.expiresAt := by
  rw [List.argmin_cons] at h
  cases hr : rest.argmin Deadline.expiresAt with
  | none =>
    rw [hr] at h
    exact .inl (Option.some.inj h)
  | some c =>
    simp only [hr] at h
    split at h
    · rename_i hlt
      cases h
      exact .inr hlt
    · exact .inl (Option.some.inj h)

theorem expiresAt_nestGuards_le {now : Instant} {protocol : Protocol} {timeouts : List Duration}
    {parent : Deadline} :
    ∀ g ∈ nestGuards now protocol (some parent) timeouts,
      g.deadline.expiresAt ≤ parent.expiresAt := by
  induction timeouts generalizing parent with
  | nil => exact fun g hg => absurd hg List.not_mem_nil
  | cons configured rest ih =>
    have hle (own : Deadline) : (own.under (some parent)).expiresAt ≤ parent.expiresAt := by
      rw [Deadline.expiresAt_under_some]
      exact Nat.min_le_left _ _
    intro g hg
    rcases List.mem_cons.1 hg with rfl | hg
    · exact hle _
    · exact Nat.le_trans (ih g hg) (hle _)

/-- The guards that deadline layers make are those of a nest under the earliest of all bounds; of
those that expire together the outermost counts. -/
theorem tightening_nestGuards {now : Instant} {protocol : Protocol} {timeouts : List Duration}
    {parent : Option Deadline} {bound : Deadline} (hne : timeouts ≠ [])
    (h : (bounds now parent timeouts).argmin Deadline.expiresAt = some bound) :
    Tightening protocol bound (nestGuards now protocol parent timeouts) := by
  induction timeouts generalizing parent with
  | nil => exact absurd rfl hne
  | cons configured rest ih =>
    rw [bounds, List.map_cons, argmin_under] at h
    have hfirst := eq_or_lt_of_argmin_cons h
    cases rest with
    | nil =>
      obtain rfl := Option.some.inj h
      constructor
      case protocol_eq => exact List.forall_mem_singleton.2 rfl
      case inForce => exact List.forall_mem_singleton.2 (.inl rfl)
      case inward => exact List.pairwise_singleton _ _
      case innermost => exact ⟨_, rfl, rfl⟩
    | cons next rest =>
      rw [nestGuards]
      apply Tightening.cons
      · rfl
      · exact hfirst
      · exact expiresAt_nestGuards_le
      · apply ih (List.cons_ne_nil _ _)
        exact h

section

variable {protocol : Protocol} {bound : Deadline} {guards : List Guard} {g : Guard}

theorem Tightening.head_ge (h : Tightening protocol bound (g :: guards)) :
    bound.expiresAt ≤ g.deadline.expiresAt := by
  rcases h.inForce g List.mem_cons_self with he | hlt
  · exact Nat.le_of_eq (congrArg Deadline.expiresAt he.symm)
  · exact Nat.le_of_lt hlt

theorem Tightening.head_inner_le {next : Guard}
    (h : Tightening protocol bound (g :: next :: guards)) :
    next.deadline.expiresAt ≤ g.deadline.expiresAt :=
  List.rel_of_pairwise_cons h.inward List.mem_cons_self

theorem Tightening.tail {next : Guard} (h : Tightening protocol bound (g :: next :: guards)) :
    Tightening protocol bound (next :: guards) :=
  ⟨fun i hi => h.protocol_eq i (List.mem_cons_of_mem g hi),
    fun i hi => h.inForce i (List.mem_cons_of_mem g hi), h.inward.of_cons, h.innermost⟩

variable {ctx : Context} {scope : Scope} {script : Script}

theorem finish_of_in_time (hg : Tightening protocol bound (g :: guards))
    (hu : ctx.Undisturbed g.deadline.expiresAt) (hs : ctx.start.time < bound.expiresAt)
    {m : Moment} {ending : Ending}
    (hf : ((guardedBy (g :: guards) (.handler scope script)).handlerRun ctx).finish =
      some (m, ending))
    (hlt : m.time < bound.expiresAt) :
    ∃ m', ((guardedBy (g :: guards) (.handler scope script)).run ctx).finish =
      some (m', ending) ∧ m'.time = m.time := by
  induction guards generalizing ctx g with
  | nil =>
    have hsg := Nat.lt_of_lt_of_le hs hg.head_ge
    exact hu.passes_on hsg hf (Nat.lt_of_lt_of_le hlt hg.head_ge)
  | cons next guards ih =>
    have hsg := Nat.lt_of_lt_of_le hs hg.head_ge
    have hin := (hu.inside hsg).mono hg.head_inner_le
    obtain ⟨m₁, hr₁, ht₁⟩ := ih hg.tail hin hs hf
    have hlt₁ : m₁.time < g.deadline.expiresAt := by
      rw [ht₁]
      exact Nat.lt_of_lt_of_le hlt hg.head_ge
    obtain ⟨m₂, hr₂, ht₂⟩ := hu.passes_on hsg hr₁ hlt₁
    exact ⟨m₂, hr₂, ht₂.trans ht₁⟩

theorem finish_of_late (hg : Tightening protocol bound (g :: guards))
    (hu : ctx.Undisturbed g.deadline.expiresAt) (hs : ctx.start.time < bound.expiresAt)
    (hf : ∀ m ending,
      ((guardedBy (g :: guards) (.handler scope script)).handlerRun ctx).finish =
        some (m, ending) → bound.expiresAt < m.time) :
    ∃ m', ((guardedBy (g :: guards) (.handler scope script)).run ctx).finish =
      some (m', .responded (protocol.deadlineExceeded bound.timeout)) ∧
      m'.time = bound.expiresAt := by
  induction guards generalizing ctx g with
  | nil =>
    have hd : g.deadline = bound := by
      obtain ⟨last, hl, hd⟩ := hg.innermost
      cases hl
      exact hd
    have hp := hg.protocol_eq g List.mem_cons_self
    subst hd hp
    exact hu.expires hs hf
  | cons next guards ih =>
    have hsg := Nat.lt_of_lt_of_le hs hg.head_ge
    have hin := (hu.inside hsg).mono hg.head_inner_le
    obtain ⟨m₁, hr₁, ht₁⟩ := ih hg.tail hin hs hf
    rcases hg.inForce g List.mem_cons_self with hd | hlt
    · have hp := hg.protocol_eq g List.mem_cons_self
      subst hd hp
      exact hu.agrees hsg hr₁ ht₁
    · obtain ⟨m₂, hr₂, ht₂⟩ := hu.passes_on hsg hr₁ (ht₁ ▸ hlt)
      exact ⟨m₂, hr₂, ht₂.trans ht₁⟩

end

/-- What a response tells of an overrun limit: over HTTP by its status and its body, in a remote
call by the code and the message in its headers. -/
def Response.NamesLimit (response : Response) (protocol : Protocol) (timeout : Duration) : Prop :=
  let text := "handler did not complete within " ++ Decimal.text (timeout.nanos / 1000000) ++ "ms"
  match protocol with
  | .http => response.status.number = 504 ∧ response.body = text
  | .grpc => response.status.number = 200 ∧
      (response.headers.get? .grpcStatus).bind HeaderValue.text? = some "4" ∧
      Grpc.SpellsText (response.headers.get? .grpcMessage) text

theorem namesLimit_deadlineExceeded (protocol : Protocol) (timeout : Duration) :
    (protocol.deadlineExceeded timeout).NamesLimit protocol timeout := by
  cases protocol with
  | http => exact ⟨rfl, rfl⟩
  | grpc =>
    let status : Grpc.Status := ⟨.deadlineExceeded, deadlineMessage timeout⟩
    have hcode : status.toHeaders.get? .grpcStatus = some (Grpc.codeValue .deadlineExceeded) :=
      Grpc.get?_toHeaders_status status
    refine ⟨rfl, ?_, Grpc.spellsText_toHeaders status⟩
    change (status.toHeaders.get? .grpcStatus).bind _ = _
    rw [hcode]
    decide +kernel

theorem lt_of_mem_bounds {now : Instant} {parent : Option Deadline} {timeouts : List Duration}
    (hp : ∀ p, parent = some p → now < p.expiresAt) :
    ∀ d ∈ bounds now parent timeouts, now < d.expiresAt := by
  intro d hd
  rcases List.mem_append.1 hd with hd | hd
  · exact hp d (Option.mem_toList.1 hd)
  · obtain ⟨configured, _, rfl⟩ := List.mem_map.1 hd
    exact Nat.lt_add_of_pos_right (effectiveTimeout_nanos_pos configured)

theorem exists_tightest {now : Instant} {parent : Option Deadline} {timeouts : List Duration}
    (hne : timeouts ≠ [])
    (hroom : ∀ t ∈ timeouts, now + (effectiveTimeout t).nanos < Instant.limit)
    (hp : ∀ p, parent = some p → now < p.expiresAt) :
    ∃ bound, (bounds now parent timeouts).argmin Deadline.expiresAt = some bound ∧
      now < bound.expiresAt ∧ bound.expiresAt < Instant.limit := by
  obtain ⟨configured, rest, rfl⟩ := List.exists_cons_of_ne_nil hne
  have hm : (⟨now + (effectiveTimeout configured).nanos, effectiveTimeout configured⟩ : Deadline) ∈
      bounds now parent (configured :: rest) :=
    List.mem_append_right _ List.mem_cons_self
  cases hb : (bounds now parent (configured :: rest)).argmin Deadline.expiresAt with
  | none =>
    rw [List.argmin_eq_none.1 hb] at hm
    exact absurd hm List.not_mem_nil
  | some bound =>
    have hahead := lt_of_mem_bounds hp bound (List.argmin_mem hb)
    have hle := List.le_of_mem_argmin hm hb
    exact ⟨bound, rfl, hahead, Nat.lt_of_le_of_lt hle (hroom configured List.mem_cons_self)⟩

/-- A handler inside deadline layers is bounded by the earliest of all deadlines, of equals the
outermost, on the clock of a run and under every order of turns. -/
theorem tightest_deadline_answers {protocol : Protocol} {handler : Handler} {request : Request}
    {timeouts : List Duration} {position : Nat} {scope : Scope} {ids : IdSource} {ctx : Context}
    (hne : timeouts ≠ [])
    (hroom : ∀ t ∈ timeouts, ctx.start.time + (effectiveTimeout t).nanos < Instant.limit)
    (hparent : ∀ p, scope.deadline = some p → ctx.start.time < p.expiresAt)
    (hcancel : ctx.cancellation = none) (hdrop : ctx.droppedAt = none)
    (htorn : ctx.tornDown = false) :
    ∃ call bound,
      enter ctx.start.time handler request (timeouts.map (.deadline protocol)) position scope ids =
        (some ⟨call, none⟩, ids) ∧
      call.script = handler request call.scope ∧
      (bounds ctx.start.time scope.deadline timeouts).argmin Deadline.expiresAt = some bound ∧
      let late : Ending := .responded (protocol.deadlineExceeded bound.timeout)
      (protocol.deadlineExceeded bound.timeout).NamesLimit protocol bound.timeout ∧
      (∀ m ending, (call.handlerRun ctx).finish = some (m, ending) → m.time < bound.expiresAt →
        ∃ m', (call.run ctx).finish = some (m', ending) ∧ m'.time = m.time) ∧
      ((∀ m ending, (call.handlerRun ctx).finish = some (m, ending) → bound.expiresAt < m.time) →
        ∃ m', (call.run ctx).finish = some (m', late) ∧ m'.time = bound.expiresAt) ∧
      ∀ moves,
        let s := (Nest.begin ctx.start.time call.guardList).run moves
        (∀ time ending, s.answer = some (time, ending) →
          (∀ end' last, s.ended = some (end', last) → end' < bound.expiresAt →
            time = end' ∧ ending = last) ∧
          ((∀ end' last, s.ended = some (end', last) → bound.expiresAt < end') →
            time = bound.expiresAt ∧ ending = late)) ∧
        (s.answer = none → s.now ≤ bound.expiresAt ∧
          ∀ end' last, s.ended = some (end', last) → end' = s.now) ∧
        (s.quiet = true → s.ended ≠ none ∨ bound.expiresAt ≤ s.now → s.answer ≠ none) ∧
        (∃ more, (∀ ending, .handlerEnds ending ∉ more) ∧ (s.run more).answer ≠ none) ∧
        ∀ given more, s.answer = some given → (s.run more).answer = some given := by
  obtain ⟨bound, hb, hlt, hlimit⟩ := exists_tightest hne hroom hparent
  have hg : Tightening protocol bound (nestGuards ctx.start.time protocol scope.deadline timeouts) :=
    tightening_nestGuards hne hb
  obtain ⟨hscript, hscope⟩ := script_guardedBy
    (nestGuards ctx.start.time protocol scope.deadline timeouts)
    { scope with deadline := nestDeadline ctx.start.time scope.deadline timeouts }
    (handler request
      { scope with deadline := nestDeadline ctx.start.time scope.deadline timeouts })
  refine ⟨_, bound, enter_nest hroom, ?_, hb, ?_⟩
  · rw [hscript, hscope]
  · rw [guardList_guardedBy]
    cases hn : nestGuards ctx.start.time protocol scope.deadline timeouts with
    | nil =>
      obtain ⟨last, hl, _⟩ := hg.innermost
      rw [hn] at hl
      cases hl
    | cons g guards =>
      rw [hn] at hg
      have hc : ∀ c, ctx.cancellation = some c → g.deadline.expiresAt ≤ c.moment.time := by
        intro c hc
        rw [hcancel] at hc
        cases hc
      have hu : ctx.Undisturbed g.deadline.expiresAt := ⟨htorn, hdrop, hc⟩
      exact ⟨namesLimit_deadlineExceeded protocol bound.timeout,
        fun m ending hf => finish_of_in_time hg hu hlt hf, finish_of_late hg hu hlt,
        Nest.law hg (Nat.le_of_lt hlt) hlimit⟩

def tiedDeadline : Deadline := ⟨20000000, Duration.ofMillis 50⟩

def tiedCall : Call :=
  let guard : Guard := ⟨.http, tiedDeadline, some (Duration.ofMillis 50)⟩
  guardedBy [guard, guard]
    (.handler ⟨none, some tiedDeadline⟩ { steps := [.hang], ending := .responded .empty })

theorem tightest_deadline_answers_of_tie :
    [Duration.zero, Duration.ofMillis 20] ≠ [] ∧
    (∀ t ∈ [Duration.zero, Duration.ofMillis 20],
      0 + (effectiveTimeout t).nanos < Instant.limit) ∧
    (∀ p, some tiedDeadline = some p → 0 < p.expiresAt) ∧
    enter 0 (fun _ _ => { steps := [.hang], ending := .responded .empty }) { uri := ⟨"/", none⟩ }
      ([Duration.zero, Duration.ofMillis 20].map (.deadline .http)) 0
      { deadline := some tiedDeadline } (.random 7) = (some ⟨tiedCall, none⟩, .random 7) ∧
    (Protocol.http.deadlineExceeded (Duration.ofMillis 50)).NamesLimit .http
      (Duration.ofMillis 50) ∧
    ∃ m, (tiedCall.run { start := .caller 0 0 }).finish =
        some (m, .responded (Protocol.http.deadlineExceeded (Duration.ofMillis 50))) ∧
      m.time = 20000000 := by
  have hne : [Duration.zero, Duration.ofMillis 20] ≠ [] := List.cons_ne_nil _ _
  have hroom : ∀ t ∈ [Duration.zero, Duration.ofMillis 20],
      0 + (effectiveTimeout t).nanos < Instant.limit := by decide
  have hparent : ∀ p, some tiedDeadline = some p → 0 < p.expiresAt := by
    intro p hp
    cases hp
    decide
  have hcall : enter 0 (fun _ _ => { steps := [.hang], ending := .responded .empty })
      { uri := ⟨"/", none⟩ } ([Duration.zero, Duration.ofMillis 20].map (.deadline .http)) 0
      { deadline := some tiedDeadline } (.random 7) = (some ⟨tiedCall, none⟩, .random 7) := rfl
  have htight : (bounds 0 (some tiedDeadline) [Duration.zero, Duration.ofMillis 20]).argmin
      Deadline.expiresAt = some tiedDeadline := by decide
  have hhang : (tiedCall.handlerRun { start := .caller 0 0 }).finish = none := rfl
  refine ⟨hne, hroom, hparent, hcall, ?_⟩
  obtain ⟨call, bound, hc, _, hb, hnames, _, hlate, _⟩ :=
    @tightest_deadline_answers .http
      (fun _ _ => { steps := [.hang], ending := .responded .empty }) { uri := ⟨"/", none⟩ }
      [Duration.zero, Duration.ofMillis 20] 0 { deadline := some tiedDeadline } (.random 7)
      { start := .caller 0 0 } hne hroom hparent rfl rfl rfl
  obtain rfl : tiedDeadline = bound := Option.some.inj (htight.symm.trans hb)
  have he : tiedCall = call :=
    congrArg Entered.call (Option.some.inj (congrArg Prod.fst (hcall.symm.trans hc)))
  subst he
  refine ⟨hnames, hlate ?_⟩
  intro m ending hf
  rw [hhang] at hf
  cases hf

end Gatehouse
