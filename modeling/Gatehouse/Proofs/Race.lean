import Gatehouse.Guard.Race

namespace Gatehouse

/-- The tokens of so many nested guards, the nearest first, after cancellations at some places. -/
def enclosingTokens (depth : Nat) (places : List Nat) : List Bool :=
  places.foldl (fun tokens place => cancelAt place tokens) (List.replicate depth false)

theorem enclosingTokens_append (depth : Nat) (ps qs : List Nat) :
    enclosingTokens depth (ps ++ qs) =
      qs.foldl (fun tokens place => cancelAt place tokens) (enclosingTokens depth ps) := by
  simp only [enclosingTokens, List.foldl_append]

theorem cancelAt_of_length_le {place : Nat} {tokens : List Bool} (h : tokens.length ≤ place) :
    cancelAt place tokens = tokens := if_neg (Nat.not_lt_of_le h)

theorem cancelAt_succ_cons {place : Nat} {own : Bool} {tokens : List Bool}
    (h : place < tokens.length) :
    cancelAt (place + 1) (own :: tokens) = true :: cancelAt place tokens := by
  have h' : place + 1 < (own :: tokens).length := Nat.succ_lt_succ h
  rw [cancelAt, cancelAt, if_pos h, if_pos h', List.replicate_succ]
  rfl

theorem tail_cancelAt_succ (place : Nat) (tokens : List Bool) :
    (cancelAt (place + 1) tokens).tail = cancelAt place tokens.tail := by
  cases tokens with
  | nil => rfl
  | cons own tokens =>
    by_cases h : place < tokens.length
    · rw [cancelAt_succ_cons h]
      rfl
    · have h' : (own :: tokens).length ≤ place + 1 := Nat.succ_le_succ (Nat.le_of_not_lt h)
      rw [cancelAt_of_length_le h', List.tail_cons,
        cancelAt_of_length_le (Nat.le_of_not_lt h)]

theorem true_mem_cancelAt {place : Nat} {tokens : List Bool} (h : place < tokens.length) :
    true ∈ cancelAt place tokens := by
  rw [cancelAt, if_pos h]
  exact List.mem_append_left _ (List.mem_replicate.2 ⟨Nat.succ_ne_zero place, rfl⟩)

theorem tail_cancelAt_zero (tokens : List Bool) : (cancelAt 0 tokens).tail = tokens.tail := by
  cases tokens with
  | nil => rfl
  | cons own tokens => rw [cancelAt_zero_cons]; rfl

theorem headD_cancelAt_zero {tokens : List Bool} (h : tokens ≠ []) :
    (cancelAt 0 tokens).headD false = true := by
  cases tokens with
  | nil => exact absurd rfl h
  | cons own tokens => rw [cancelAt_zero_cons]; rfl

theorem cancelAt_ne_nil {place : Nat} {tokens : List Bool} (h : tokens ≠ []) :
    cancelAt place tokens ≠ [] := by
  rw [← List.length_pos_iff] at h ⊢
  rwa [length_cancelAt]

theorem headD_cancelAt_succ {place : Nat} {tokens : List Bool} {exit : Prop}
    (h : tokens.headD false = true ↔ exit ∨ true ∈ tokens.tail) :
    (cancelAt (place + 1) tokens).headD false = true ↔
      exit ∨ true ∈ (cancelAt (place + 1) tokens).tail := by
  rw [tail_cancelAt_succ]
  cases tokens with
  | nil => exact h
  | cons own tokens =>
    by_cases hp : place < tokens.length
    · rw [cancelAt_succ_cons hp]
      exact ⟨fun _ => .inr (true_mem_cancelAt hp), fun _ => rfl⟩
    · have hp := Nat.le_of_not_lt hp
      rw [cancelAt_of_length_le (Nat.succ_le_succ hp), List.tail_cons, cancelAt_of_length_le hp]
      exact h

theorem headD_enclosingTokens (depth : Nat) (places : List Nat) :
    (enclosingTokens depth places).headD false = true ↔ true ∈ enclosingTokens depth places := by
  have step (tokens : List Bool) (place : Nat)
      (h : tokens.headD false = true ↔ true ∈ tokens) :
      (cancelAt place tokens).headD false = true ↔ true ∈ cancelAt place tokens := by
    cases tokens with
    | nil => exact h
    | cons own tokens =>
      by_cases hp : place < (own :: tokens).length
      · have hh : (cancelAt place (own :: tokens)).headD false = true := by
          rw [cancelAt, if_pos hp, List.replicate_succ]
          rfl
        exact iff_of_true hh (true_mem_cancelAt hp)
      · rw [cancelAt_of_length_le (Nat.le_of_not_lt hp)]
        exact h
  have start : (List.replicate depth false).headD false = true ↔
      true ∈ List.replicate depth false := by
    cases depth <;> simp [List.replicate_succ]
  rw [enclosingTokens]
  generalize List.replicate depth false = tokens at start
  induction places generalizing tokens with
  | nil => exact start
  | cons place places ih => exact ih _ (step tokens place start)

def TaskEnd.verdict : TaskEnd → Verdict
  | .done ending => .finished ending
  | .aborted => .aborted

namespace Race

variable {g : Guard} {r : Race}

theorem run_append (g : Guard) (r : Race) (before after : List Move) :
    r.run g (before ++ after) = (r.run g before).run g after := List.foldl_append

def Move.cancelled? : Move → Option Nat
  | .cancelEnclosing place => some place
  | _ => none

def settlement? (g : Guard) (r : Race) : Option Settlement :=
  (Verdict.of? r.task (r.isExpired g) r.isCancelled).map fun verdict =>
    ⟨r.task, r.isExpired g, r.isCancelled, g.answer verdict⟩

def settle (r : Race) (s : Settlement) : Race :=
  { r with
    looked := true
    tokens := cancelAt 0 r.tokens
    settlements := r.settlements ++ [s] }

theorem look_of_none (h : r.settlement? g = none) : r.look g = { r with looked := true } := by
  have hv := Option.map_eq_none_iff.1 h
  change Verdict.of? _ (({ r with looked := true } : Race).isExpired g)
    ({ r with looked := true } : Race).isCancelled = none at hv
  simp only [look, hv]

theorem look_of_some {s : Settlement} (h : r.settlement? g = some s) : r.look g = r.settle s := by
  obtain ⟨verdict, hv, rfl⟩ := Option.map_eq_some_iff.1 h
  change Verdict.of? _ (({ r with looked := true } : Race).isExpired g)
    ({ r with looked := true } : Race).isCancelled = some verdict at hv
  simp only [look, hv]
  rfl

/-- What a move can make of a race. -/
inductive Change (g : Guard) (r : Race) : Move → Race → Prop where
  | idle (move : Move) (h : move.cancelled? = none) : Change g r move r
  | wait (hr : r.exited = false) (hs : r.settlement? g = none) :
      Change g r .look { r with looked := true }
  | settle (s : Settlement) (hr : r.exited = false) (hs : r.settlement? g = some s) :
      Change g r .look (r.settle s)
  | taskEnds (task : TaskEnd) (hr : r.looked = true) (ht : r.task = none) :
      Change g r (.taskEnds task) { r with task := some task }
  | advance (time : Duration) : Change g r (.advance time) { r with now := r.now + time.nanos }
  | cancelEnclosing (place : Nat) :
      Change g r (.cancelEnclosing place) { r with tokens := cancelAt (place + 1) r.tokens }
  | leave (hr : r.exited = false) (hl : r.looked = false) :
      Change g r .drop { r with dropped := true }
  | abandon (hr : r.exited = false) (hl : r.looked = true) :
      Change g r .drop { r with dropped := true, tokens := cancelAt 0 r.tokens }

theorem change_step (g : Guard) (r : Race) (move : Move) : Change g r move (r.step g move) := by
  cases move with
  | look =>
    by_cases hr : r.exited = true
    · rw [step, if_pos hr]
      exact .idle _ rfl
    · rw [step, if_neg hr]
      have hr := eq_false_of_ne_true hr
      cases hs : r.settlement? g with
      | none =>
        rw [look_of_none hs]
        exact .wait hr hs
      | some s =>
        rw [look_of_some hs]
        exact .settle s hr hs
  | taskEnds task =>
    by_cases h : (r.looked && r.task.isNone) = true
    · rw [step, if_pos h]
      rw [Bool.and_eq_true, Option.isNone_iff_eq_none] at h
      exact .taskEnds task h.1 h.2
    · rw [step, if_neg h]
      exact .idle _ rfl
  | advance time => exact .advance time
  | cancelEnclosing place => exact .cancelEnclosing place
  | drop =>
    by_cases hr : r.exited = true
    · rw [step, if_pos hr]
      exact .idle _ rfl
    · rw [step, if_neg hr]
      have hr := eq_false_of_ne_true hr
      cases hl : r.looked with
      | true =>
        have hd : r.drop = { r with dropped := true, tokens := cancelAt 0 r.tokens } := if_pos hl
        rw [hd]
        exact .abandon hr hl
      | false =>
        have hd : r.drop = { r with dropped := true } := if_neg (Bool.eq_false_iff.1 hl)
        rw [hd]
        exact .leave hr hl

/-- The state of a race that has come about by moves. -/
structure Lawful (r : Race) : Prop where
  tokens_ne_nil : r.tokens ≠ []
  once : r.settlements.length ≤ 1
  token : r.isCancelled = true ↔ (r.looked = true ∧ r.exited = true) ∨ true ∈ r.tokens.tail

theorem settlements_of_not_exited (h : r.exited = false) : r.settlements = [] := by
  rw [exited, Bool.or_eq_false_iff, Bool.not_eq_false', List.isEmpty_iff] at h
  exact h.2

theorem exited_settle (r : Race) (s : Settlement) : (r.settle s).exited = true := by
  simp [settle, exited]

theorem Lawful.step (h : Lawful r) (move : Move) : Lawful (r.step g move) := by
  have hc := change_step g r move
  generalize r.step g move = r' at hc
  cases hc with
  | idle => exact h
  | wait hr hs =>
    have hn : ¬ (r.looked = true ∧ r.exited = true) := fun hl => by simp [hr] at hl
    have hn' : ¬ (true = true ∧ r.exited = true) := fun hl => by simp [hr] at hl
    have ht := h.token.trans (or_iff_right hn)
    exact ⟨h.tokens_ne_nil, h.once, ht.trans (or_iff_right hn').symm⟩
  | settle s hr hs =>
    have hn := settlements_of_not_exited hr
    constructor
    case tokens_ne_nil => exact cancelAt_ne_nil h.tokens_ne_nil
    case once =>
      rw [settle, hn]
      exact Nat.le_refl 1
    case token =>
      exact iff_of_true (headD_cancelAt_zero h.tokens_ne_nil) (.inl ⟨rfl, exited_settle r s⟩)
  | taskEnds task hr ht => exact ⟨h.tokens_ne_nil, h.once, h.token⟩
  | advance time => exact ⟨h.tokens_ne_nil, h.once, h.token⟩
  | cancelEnclosing place =>
    exact ⟨cancelAt_ne_nil h.tokens_ne_nil, h.once, headD_cancelAt_succ h.token⟩
  | leave hr hl =>
    constructor
    case tokens_ne_nil => exact h.tokens_ne_nil
    case once => exact h.once
    case token =>
      have ht := h.token
      simp only [hl, Bool.false_eq_true, false_and, false_or] at ht ⊢
      exact ht
  | abandon hr hl =>
    have ht := headD_cancelAt_zero h.tokens_ne_nil
    exact ⟨cancelAt_ne_nil h.tokens_ne_nil, h.once, iff_of_true ht (.inl ⟨hl, rfl⟩)⟩

theorem Lawful.run (h : Lawful r) (moves : List Move) : Lawful (r.run g moves) := by
  induction moves generalizing r with
  | nil => exact h
  | cons move moves ih => exact ih (h.step move)

theorem lawful_begin (now : Instant) (depth : Nat) (places : List Nat) :
    Lawful (begin now (enclosingTokens depth places)) := by
  constructor
  case tokens_ne_nil => exact List.cons_ne_nil _ _
  case once => exact Nat.zero_le 1
  case token =>
    have h := headD_enclosingTokens depth places
    simpa [begin, isCancelled] using h

theorem tail_tokens_step (g : Guard) (r : Race) (move : Move) :
    (r.step g move).tokens.tail =
      move.cancelled?.elim r.tokens.tail fun place => cancelAt place r.tokens.tail := by
  have hc := change_step g r move
  generalize r.step g move = r' at hc
  cases hc with
  | idle _ h => rw [h]; rfl
  | wait => rfl
  | settle => exact tail_cancelAt_zero _
  | taskEnds => rfl
  | advance => rfl
  | cancelEnclosing place => exact tail_cancelAt_succ place r.tokens
  | leave => rfl
  | abandon => exact tail_cancelAt_zero _

theorem tail_tokens_run (g : Guard) (r : Race) (moves : List Move) :
    (r.run g moves).tokens.tail =
      (moves.filterMap Move.cancelled?).foldl (fun tokens place => cancelAt place tokens)
        r.tokens.tail := by
  induction moves generalizing r with
  | nil => rfl
  | cons move moves ih =>
    rw [run_cons, ih, tail_tokens_step, List.filterMap_cons]
    cases move.cancelled? <;> rfl

theorem settlements_step_of_exited (h : r.exited = true) (move : Move) :
    (r.step g move).exited = true ∧ (r.step g move).settlements = r.settlements := by
  have hc := change_step g r move
  generalize r.step g move = r' at hc
  cases hc with
  | idle => exact ⟨h, rfl⟩
  | wait hr => exact Bool.noConfusion (h.symm.trans hr)
  | settle s hr => exact Bool.noConfusion (h.symm.trans hr)
  | taskEnds => exact ⟨h, rfl⟩
  | advance => exact ⟨h, rfl⟩
  | cancelEnclosing => exact ⟨h, rfl⟩
  | leave hr => exact Bool.noConfusion (h.symm.trans hr)
  | abandon hr => exact Bool.noConfusion (h.symm.trans hr)

theorem settlements_run_of_exited (h : r.exited = true) (moves : List Move) :
    (r.run g moves).exited = true ∧ (r.run g moves).settlements = r.settlements := by
  induction moves generalizing r with
  | nil => exact ⟨h, rfl⟩
  | cons move moves ih =>
    obtain ⟨he, hs⟩ := settlements_step_of_exited (g := g) h move
    obtain ⟨he', hs'⟩ := ih he
    exact ⟨he', hs'.trans hs⟩

theorem settlements_step (hr : r.settlements = []) (move : Move) :
    (r.step g move).settlements = [] ∨
      ∃ s, move = .look ∧ r.exited = false ∧ r.settlement? g = some s ∧
        r.step g move = r.settle s := by
  have hc := change_step g r move
  generalize r.step g move = r' at hc
  cases hc with
  | settle s he hs => exact .inr ⟨s, rfl, he, hs, rfl⟩
  | _ => exact .inl hr

theorem settled_at_look {moves : List Move} {s : Settlement} (hr : r.settlements = [])
    (h : s ∈ (r.run g moves).settlements) :
    ∃ before after, moves = before ++ .look :: after ∧ (r.run g before).exited = false ∧
      (r.run g before).settlement? g = some s := by
  induction moves generalizing r with
  | nil => exact absurd h (hr ▸ List.not_mem_nil)
  | cons move moves ih =>
    rcases settlements_step (g := g) hr move with hn | ⟨t, rfl, he, ht, hst⟩
    · obtain ⟨before, after, rfl, hb⟩ := ih hn h
      exact ⟨move :: before, after, rfl, hb⟩
    · rw [run_cons, hst, (settlements_run_of_exited (exited_settle r t) moves).2, settle, hr] at h
      rw [List.mem_singleton.1 h]
      exact ⟨[], moves, rfl, he, ht⟩

theorem Lawful.isCancelled_iff (h : Lawful r) (hr : r.exited = false) :
    r.isCancelled = true ↔ true ∈ r.tokens.tail := by
  rw [h.token]
  exact or_iff_right fun hl => Bool.noConfusion (hr.symm.trans hl.2)

/-- A guard keeps waiting while its task runs, its time is not up and no enclosing token is
cancelled. -/
theorem Lawful.settlement?_eq_none_iff (h : Lawful r) (hr : r.exited = false) :
    r.settlement? g = none ↔
      r.task = none ∧ r.now < g.deadline.expiresAt ∧ true ∉ r.tokens.tail := by
  rw [settlement?, Option.map_eq_none_iff, ← h.isCancelled_iff hr, ← Nat.not_le]
  cases ht : r.task with
  | none => by_cases he : g.deadline.expiresAt ≤ r.now <;> simp [Verdict.of?, isExpired, he]
  | some task => cases task <;> simp [Verdict.of?]

theorem answer_of_task {s : Settlement} {task : TaskEnd} (hs : r.settlement? g = some s)
    (ht : r.task = some task) :
    s.answer = g.answer task.verdict := by
  obtain ⟨verdict, hv, rfl⟩ := Option.map_eq_some_iff.1 hs
  rw [ht] at hv
  cases task <;> cases hv <;> rfl

theorem Lawful.answer_of_no_task (h : Lawful r) (hr : r.exited = false) {s : Settlement}
    (hs : r.settlement? g = some s) (ht : r.task = none) :
    (g.deadline.expiresAt ≤ r.now ∧
      s.answer = .responded (g.protocol.deadlineExceeded g.deadline.timeout)) ∨
    (r.now < g.deadline.expiresAt ∧ true ∈ r.tokens.tail ∧
      s.answer = .responded (g.protocol.deadlineExceeded g.cancelledTimeout)) := by
  obtain ⟨verdict, hv, rfl⟩ := Option.map_eq_some_iff.1 hs
  rw [ht] at hv
  by_cases he : g.deadline.expiresAt ≤ r.now
  · simp only [Verdict.of?, isExpired, he, decide_true, if_true, Option.some.injEq] at hv
    subst hv
    exact .inl ⟨he, rfl⟩
  · simp only [Verdict.of?, isExpired, he, decide_false, Bool.false_eq_true, if_false,
      Option.ite_none_right_eq_some, Option.some.injEq, h.isCancelled_iff hr] at hv
    obtain ⟨hm, rfl⟩ := hv
    exact .inr ⟨Nat.lt_of_not_le he, hm, rfl⟩

/-- After any moves a guard has answered at most once, by the first of the reasons that it saw. -/
theorem race_law (g : Guard) (now : Instant) (depth : Nat) (places : List Nat)
    (moves : List Move) :
    let start := begin now (enclosingTokens depth places)
    let r := start.run g moves
    r.settlements.length ≤ 1 ∧
    (∀ s ∈ r.settlements, ∃ before after, moves = before ++ .look :: after ∧
      let seen := start.run g before
      seen.exited = false ∧
      (∀ ending, seen.task = some (.done ending) → s.answer = ending) ∧
      (seen.task = some .aborted → s.answer = .responded g.protocol.handlerAborted) ∧
      (seen.task = none →
        (g.deadline.expiresAt ≤ seen.now ∧
          s.answer = .responded (g.protocol.deadlineExceeded g.deadline.timeout)) ∨
        (seen.now < g.deadline.expiresAt ∧ true ∈ seen.tokens.tail ∧
          s.answer = .responded (g.protocol.deadlineExceeded g.cancelledTimeout)))) ∧
    (r.exited = false → ((r.step g .look).settlements = [] ↔
      r.task = none ∧ r.now < g.deadline.expiresAt ∧ true ∉ r.tokens.tail)) ∧
    (r.isCancelled = true ↔ (r.looked = true ∧ r.exited = true) ∨ true ∈ r.tokens.tail) ∧
    r.tokens.tail = enclosingTokens depth (places ++ moves.filterMap Move.cancelled?) := by
  intro start r
  have hl : Lawful start := lawful_begin now depth places
  have hr : Lawful r := hl.run moves
  refine ⟨hr.once, ?_, ?_, hr.token, ?_⟩
  · intro s hs
    obtain ⟨before, after, hm, he, ht⟩ := settled_at_look rfl hs
    exact ⟨before, after, hm, he, fun ending hd => answer_of_task ht hd, answer_of_task ht,
      (hl.run before).answer_of_no_task he ht⟩
  · intro he
    rw [← hr.settlement?_eq_none_iff he]
    have hn := settlements_of_not_exited he
    rw [step, if_neg (Bool.eq_false_iff.1 he)]
    cases hs : r.settlement? g with
    | none => simp [look_of_none hs, hn]
    | some s => simp [look_of_some hs, settle]
  · rw [enclosingTokens_append, tail_tokens_run]
    rfl

end Race

end Gatehouse
