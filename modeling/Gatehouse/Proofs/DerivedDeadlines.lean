import Mathlib.Data.List.MinMax
import Gatehouse.Deadline

namespace Gatehouse.DeadlineForest

def child (f : DeadlineForest) (parent : Option Nat) (timeout : Duration) : DeadlineNode :=
  let own : Deadline := ⟨f.now + timeout.nanos, timeout⟩
  let above := parent.bind (f.nodes[·]?)
  { deadline := own.under (above.map (·.deadline)), own, parent
    cancelled := above.any (·.cancelled) }

variable {f : DeadlineForest}

theorem parent?_eq_ok {parent : Option Nat} {above : Option DeadlineNode} :
    f.parent? parent = .ok above ↔
      (∀ p ∈ parent, p < f.nodes.length) ∧ above = parent.bind (f.nodes[·]?) := by
  cases parent with
  | none => simp [parent?, eq_comm]
  | some p =>
    cases hp : f.nodes[p]? with
    | none => simpa [parent?, hp] using fun h => absurd h (Nat.not_lt.2 (by simpa using hp))
    | some n =>
      have hlt : p < f.nodes.length := (List.getElem?_eq_some_iff.1 hp).1
      simp [parent?, hlt, eq_comm]

theorem step_derive {parent : Option Nat} {timeout : Duration}
    (hp : ∀ p ∈ parent, p < f.nodes.length) :
    f.step (.derive parent timeout) =
      if f.now + timeout.nanos < Instant.limit then
        (.ok (), { f with nodes := f.nodes ++ [f.child parent timeout] })
      else (.error .clockOverflow, f) := by
  have hk := parent?_eq_ok.2 ⟨hp, rfl⟩
  by_cases ht : f.now + timeout.nanos < Instant.limit
  · rw [if_pos ht, step, apply, derive, hk, Deadline.alone?, Instant.after?, if_pos ht]
    rfl
  · rw [if_neg ht, step, apply, derive, hk, Deadline.alone?, Instant.after?, if_neg ht]
    rfl

/-- An operation adds a node for a deadline under known ones, moves the clock on, or fails. -/
theorem step_cases (f : DeadlineForest) (op : Op) :
    (∃ parent timeout, op = .derive parent timeout ∧ (∀ p ∈ parent, p < f.nodes.length) ∧
      (f.step op).2 = { f with nodes := f.nodes ++ [f.child parent timeout] }) ∨
    (∃ time, op = .advance time ∧ (f.step op).2 = { f with now := f.now + time.nanos }) ∨
    (f.step op).2 = f := by
  cases op with
  | derive parent timeout =>
    cases hk : f.parent? parent with
    | error e =>
      right; right
      rw [step, apply, derive, hk]
    | ok above =>
      have hp := (parent?_eq_ok.1 hk).1
      rw [step_derive hp]
      split
      · exact .inl ⟨parent, timeout, rfl, hp, rfl⟩
      · exact .inr (.inr rfl)
  | advance time =>
    right
    by_cases ht : f.now + time.nanos < Instant.limit
    · left
      refine ⟨time, rfl, ?_⟩
      rw [step, apply, advance, Instant.after?, if_pos ht]
    · right
      rw [step, apply, advance, Instant.after?, if_neg ht]

theorem nodes_step (f : DeadlineForest) (op : Op) : f.nodes <+: (f.step op).2.nodes := by
  rcases f.step_cases op with ⟨parent, timeout, _, _, hs⟩ | ⟨time, _, hs⟩ | hs
  · rw [hs]
    exact List.prefix_append _ _
  · simp only [hs, List.prefix_refl]
  · simp only [hs, List.prefix_refl]

theorem now_step (f : DeadlineForest) (op : Op) : f.now ≤ (f.step op).2.now := by
  rcases f.step_cases op with ⟨parent, timeout, _, _, hs⟩ | ⟨time, _, hs⟩ | hs
  · rw [hs]
  · rw [hs]
    exact Nat.le_add_right _ _
  · rw [hs]

theorem nodes_run (f : DeadlineForest) (ops : List Op) : f.nodes <+: (f.run ops).nodes := by
  induction ops generalizing f with
  | nil => exact List.prefix_refl _
  | cons op ops ih => exact (f.nodes_step op).trans (ih _)

theorem now_run (f : DeadlineForest) (ops : List Op) : f.now ≤ (f.run ops).now := by
  induction ops generalizing f with
  | nil => exact Nat.le_refl _
  | cons op ops ih => exact Nat.le_trans (f.now_step op) (ih _)

theorem getElem?_run {i : Nat} {node : DeadlineNode} (h : f.nodes[i]? = some node)
    (ops : List Op) : (f.run ops).nodes[i]? = some node := by
  obtain ⟨hi, he⟩ := List.getElem?_eq_some_iff.1 h
  obtain ⟨added, ha⟩ := f.nodes_run ops
  rw [← ha, List.getElem?_append_left hi]
  exact h

/-- Every node that a run adds comes from an operation that asks for its deadline, under its parent
and on the clock of that moment. -/
theorem asked_of_run {ops : List Op} {i : Nat} {node : DeadlineNode}
    (h : (f.run ops).nodes[i]? = some node) (hi : f.nodes.length ≤ i) :
    ∃ before timeout after, ops = before ++ .derive node.parent timeout :: after ∧
      (f.run before).nodes.length = i ∧
      node.own = ⟨(f.run before).now + timeout.nanos, timeout⟩ := by
  induction ops generalizing f with
  | nil => exact absurd (List.getElem?_eq_some_iff.1 h).1 (Nat.not_lt.2 hi)
  | cons op ops ih =>
    rw [run_cons] at h
    by_cases hn : (f.step op).2.nodes.length ≤ i
    · obtain ⟨before, timeout, after, rfl, hb⟩ := ih h hn
      exact ⟨op :: before, timeout, after, rfl, hb⟩
    -- the node is there after the first operation, so this is the one that made it
    · rcases f.step_cases op with ⟨parent, timeout, rfl, _, hs⟩ | ⟨time, _, hs⟩ | hs
      · rw [hs] at hn h
        rw [List.length_append, List.length_singleton] at hn
        have he : i = f.nodes.length := by omega
        have hc : (f.nodes ++ [f.child parent timeout])[i]? = some (f.child parent timeout) := by
          rw [he, List.getElem?_concat_length]
        rw [getElem?_run hc ops, Option.some.injEq] at h
        subst h he
        exact ⟨[], timeout, ops, rfl, rfl, rfl⟩
      · rw [hs] at hn
        exact absurd hi hn
      · rw [hs] at hn
        exact absurd hi hn

/-- Parents come before their children, and a child's deadline is its own one under that of its
parent. -/
structure Grown (f : DeadlineForest) : Prop where
  parent_lt : ∀ {i : Nat} {node : DeadlineNode} {p : Nat},
    f.nodes[i]? = some node → node.parent = some p → p < i
  deadline : ∀ {i : Nat} {node : DeadlineNode}, f.nodes[i]? = some node →
    node.deadline = node.own.under ((node.parent.bind (f.nodes[·]?)).map (·.deadline))

theorem Grown.begin (start : Instant) : Grown { now := start } where
  parent_lt h := by cases h
  deadline h := by cases h

theorem Grown.derive (h : f.Grown) {parent : Option Nat} {timeout : Duration}
    (hp : ∀ p ∈ parent, p < f.nodes.length) :
    Grown { f with nodes := f.nodes ++ [f.child parent timeout] } := by
  have known {i : Nat} {node : DeadlineNode}
      (hn : (f.nodes ++ [f.child parent timeout])[i]? = some node) :
      f.nodes[i]? = some node ∨ i = f.nodes.length ∧ node = f.child parent timeout := by
    rw [List.getElem?_append] at hn
    split at hn
    · exact .inl hn
    · have hlt := (List.getElem?_eq_some_iff.1 hn).1
      rw [List.length_singleton] at hlt
      have hi : i = f.nodes.length := by omega
      subst hi
      simp only [Nat.sub_self, List.getElem?_cons_zero, Option.some.injEq] at hn
      exact .inr ⟨rfl, hn.symm⟩
  -- a parent that is known is found at the same place after the addition
  have same {above : Option Nat} (ha : ∀ p ∈ above, p < f.nodes.length) :
      above.bind ((f.nodes ++ [f.child parent timeout])[·]?) = above.bind (f.nodes[·]?) := by
    cases above with
    | none => rfl
    | some p => exact List.getElem?_append_left (ha p rfl)
  constructor
  · intro i node p hn hq
    rcases known hn with hn | ⟨rfl, rfl⟩
    · exact h.parent_lt hn hq
    · exact hp p hq
  · intro i node hn
    rcases known hn with hn | ⟨rfl, rfl⟩
    · have hlt := (List.getElem?_eq_some_iff.1 hn).1
      rw [same fun p hq => Nat.lt_trans (h.parent_lt hn hq) hlt]
      exact h.deadline hn
    · exact congrArg (fun above => Deadline.under _ (above.map (·.deadline))) (same hp).symm

theorem Grown.step (h : f.Grown) (op : Op) : (f.step op).2.Grown := by
  rcases f.step_cases op with ⟨parent, timeout, _, hp, hs⟩ | ⟨time, _, hs⟩ | hs
  · rw [hs]
    exact h.derive hp
  · rw [hs]
    exact ⟨h.parent_lt, h.deadline⟩
  · rw [hs]
    exact h

theorem Grown.run (h : f.Grown) (ops : List Op) : (f.run ops).Grown := by
  induction ops generalizing f with
  | nil => exact h
  | cons op ops ih => exact ih (h.step op)

theorem Grown.exists_parent (h : f.Grown) {i : Nat} {node : DeadlineNode} {p : Nat}
    (hn : f.nodes[i]? = some node) (hp : node.parent = some p) :
    ∃ above, f.nodes[p]? = some above ∧
      node.deadline = node.own.under (some above.deadline) := by
  have hlt := Nat.lt_trans (h.parent_lt hn hp) (List.getElem?_eq_some_iff.1 hn).1
  refine ⟨_, List.getElem?_eq_getElem hlt, ?_⟩
  rw [h.deadline hn, hp, Option.bind_some, List.getElem?_eq_getElem hlt, Option.map_some]

/-- The ancestors of the node at a place, from the outermost in, and the node itself. -/
def lineage (f : DeadlineForest) (i : Nat) : List DeadlineNode :=
  match f.nodes[i]? with
  | none => []
  | some node =>
    match node.parent with
    | none => [node]
    | some p => if p < i then f.lineage p ++ [node] else [node]
termination_by i

theorem Grown.lineage_eq (h : f.Grown) {i : Nat} {node : DeadlineNode}
    (hn : f.nodes[i]? = some node) :
    f.lineage i = node.parent.elim [] f.lineage ++ [node] := by
  rw [lineage, hn]
  cases hp : node.parent with
  | none => simp only [hp, Option.elim_none, List.nil_append]
  | some p => simp only [hp, if_pos (h.parent_lt hn hp), Option.elim_some]

/-- The deadline in force at a node is the earliest of those asked for along its line, the outermost
of equals. -/
theorem Grown.argmin_lineage (h : f.Grown) {i : Nat} {node : DeadlineNode}
    (hn : f.nodes[i]? = some node) :
    ((f.lineage i).map (·.own)).argmin (·.expiresAt) = some node.deadline := by
  induction i using Nat.strong_induction_on generalizing node with
  | _ i ih =>
    rw [h.lineage_eq hn, List.map_append, List.map_singleton, List.argmin_concat]
    cases hp : node.parent with
    | none =>
      rw [h.deadline hn, hp]
      rfl
    | some p =>
      obtain ⟨above, ha, hd⟩ := h.exists_parent hn hp
      rw [hd, Option.elim_some, ih p (h.parent_lt hn hp) ha, Deadline.under]
      by_cases hle : above.deadline.expiresAt ≤ node.own.expiresAt
      · simp only [if_pos hle, if_neg (Nat.not_lt.2 hle)]
      · simp only [if_neg hle, if_pos (Nat.not_le.1 hle)]

theorem Grown.expiresAt_le (h : f.Grown) {i : Nat} {node : DeadlineNode}
    (hn : f.nodes[i]? = some node) :
    ∀ above ∈ f.lineage i, node.deadline.expiresAt ≤ above.deadline.expiresAt := by
  induction i using Nat.strong_induction_on generalizing node with
  | _ i ih =>
    rw [h.lineage_eq hn]
    intro above ha
    rcases List.mem_append.1 ha with ha | ha
    · cases hp : node.parent with
      | none =>
        rw [hp] at ha
        exact absurd ha List.not_mem_nil
      | some p =>
        rw [hp] at ha
        obtain ⟨parent, hf, hd⟩ := h.exists_parent hn hp
        calc node.deadline.expiresAt
            = min parent.deadline.expiresAt node.own.expiresAt := by
              rw [hd, Deadline.expiresAt_under_some]
          _ ≤ parent.deadline.expiresAt := Nat.min_le_left _ _
          _ ≤ above.deadline.expiresAt := ih p (h.parent_lt hn hp) hf above ha
    · rw [List.mem_singleton.1 ha]

theorem remaining_le_of_expiresAt_le {d e : Deadline} (h : d.expiresAt ≤ e.expiresAt)
    (now : Instant) : d.remaining now ≤ e.remaining now :=
  Nat.sub_le_sub_right h now

/-- However deadlines are derived and the clock moves on, each is the earliest of those asked for
along its line of ancestors, of equals the outermost, and stays so. -/
theorem derived_deadline_is_tightest (start : Instant) (ops : List Op) :
    let f := run { now := start } ops
    (∀ i node, f.nodes[i]? = some node →
      (∃ before timeout after, ops = before ++ .derive node.parent timeout :: after ∧
        (run { now := start } before).nodes.length = i ∧
        node.own = ⟨(run { now := start } before).now + timeout.nanos, timeout⟩) ∧
      f.lineage i = node.parent.elim [] f.lineage ++ [node] ∧
      ((f.lineage i).map (·.own)).argmin (·.expiresAt) = some node.deadline ∧
      node.deadline.remaining f.now + f.now = max node.deadline.expiresAt f.now ∧
      (∀ above ∈ f.lineage i, node.deadline.remaining f.now ≤ above.deadline.remaining f.now) ∧
      ∀ later, (f.run later).nodes[i]? = some node ∧
        node.deadline.remaining (f.run later).now ≤ node.deadline.remaining f.now) ∧
    ∀ parent timeout, (∀ p ∈ parent, p < f.nodes.length) →
      if f.now + timeout.nanos < Instant.limit then
        ∃ node, f.step (.derive parent timeout) = (.ok (), { f with nodes := f.nodes ++ [node] }) ∧
          node.parent = parent ∧ node.own = ⟨f.now + timeout.nanos, timeout⟩
      else f.step (.derive parent timeout) = (.error .clockOverflow, f) := by
  intro f
  have grown : f.Grown := (Grown.begin start).run ops
  constructor
  · intro i node hn
    exact ⟨asked_of_run hn (Nat.zero_le i), grown.lineage_eq hn, grown.argmin_lineage hn,
      Nat.sub_add_eq_max _ _,
      fun above ha => remaining_le_of_expiresAt_le (grown.expiresAt_le hn above ha) f.now,
      fun later => ⟨getElem?_run hn later, Nat.sub_le_sub_left (f.now_run later) _⟩⟩
  · intro parent timeout hp
    rw [step_derive hp]
    split
    · exact ⟨_, rfl, rfl, rfl⟩
    · rfl

/-- A child that asks for the very expiry of its parent, and a child of that one which asks for
more. -/
theorem derived_deadline_is_tightest_of_tie :
    let ops : List Op := [.derive none (.ofMillis 5000), .advance (.ofMillis 2000),
      .derive (some 0) (.ofMillis 3000), .derive (some 1) (.ofMillis 9000)]
    let f := run {} ops
    ∃ node, f.nodes[2]? = some node ∧
      node.deadline = ⟨5000000000, .ofMillis 5000⟩ ∧ node.own.timeout = .ofMillis 9000 ∧
      ((f.lineage 2).map (·.own)).argmin (·.expiresAt) = some node.deadline ∧
      ∀ later, (f.run later).nodes[2]? = some node := by
  intro ops f
  obtain ⟨node, hn⟩ : ∃ node, f.nodes[2]? = some node := ⟨_, rfl⟩
  obtain ⟨_, _, hm, _, _, hl⟩ := (derived_deadline_is_tightest 0 ops).1 2 node hn
  cases hn
  exact ⟨_, rfl, by decide, rfl, hm, fun later => (hl later).1⟩

end Gatehouse.DeadlineForest
