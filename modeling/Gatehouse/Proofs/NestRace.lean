import Gatehouse.Proofs.Nest
import Gatehouse.Proofs.Race

namespace Gatehouse

theorem split_cases {α : Type} {front back front' back' : List α} {a b : α}
    (h : front ++ a :: back = front' ++ b :: back') :
    (front' = front ∧ b = a ∧ back' = back) ∨
      (∃ between, front = front' ++ b :: between ∧ back' = between ++ a :: back) ∨
      ∃ between, front' = front ++ a :: between ∧ back = between ++ b :: back' := by
  rcases List.append_eq_append_iff.1 h with ⟨between, hf, hb⟩ | ⟨between, hf, hb⟩
  · cases between with
    | nil =>
      rw [List.append_nil] at hf
      cases hb
      exact .inl ⟨hf, rfl, rfl⟩
    | cons c between =>
      cases hb
      exact .inr (.inr ⟨between, hf, rfl⟩)
  · cases between with
    | nil =>
      rw [List.append_nil] at hf
      cases hb
      exact .inl ⟨hf.symm, rfl, rfl⟩
    | cons c between =>
      cases hb
      exact .inr (.inl ⟨between, hf, rfl⟩)

/-- The race of a guard that stands in a nest between others. -/
structure Plays (r : Race) (s : Nest) (outer : List Post) (post : Post) (inner : List Post) :
    Prop where
  lawful : r.Lawful
  now_eq : r.now = s.now
  looked_eq : r.looked = post.looked
  dropped : r.dropped = false
  task_eq : r.task = taskEnd? s.ended inner
  answers : r.settlements.map (·.answer) = post.answer.toList.map (·.2)
  depth : r.tokens.tail.length = outer.length
  cancelled : true ∈ r.tokens.tail ↔ outer.any (·.answer.isSome) = true

namespace Plays

variable {r : Race} {s : Nest} {outer inner : List Post} {post : Post}

theorem not_exited (h : Plays r s outer post inner) (hn : post.answer = none) :
    r.exited = false := by
  have ha := h.answers
  rw [hn, Option.toList_none, List.map_nil, List.map_eq_nil_iff] at ha
  rw [Race.exited, h.dropped, ha]
  rfl

theorem settlement?_eq (h : Plays r s outer post inner) (hn : post.answer = none) :
    (r.settlement? post.guard).map (·.answer) =
      (post.look s.now (taskEnd? s.ended inner) (outer.any (·.answer.isSome))).answer.map (·.2) := by
  have hc : r.isCancelled = outer.any (·.answer.isSome) := by
    rw [Bool.eq_iff_iff, h.lawful.isCancelled_iff (h.not_exited hn)]
    exact h.cancelled
  have he : r.isExpired post.guard = decide (post.guard.deadline.expiresAt ≤ s.now) := by
    rw [Race.isExpired, h.now_eq]
  rw [Race.settlement?, hc, he, h.task_eq, Option.map_map, Post.look, Option.map_map]
  rfl

theorem look (h : Plays r s outer post inner) (hn : post.answer = none) :
    Plays (r.run post.guard [.look]) (s.lookAt outer post inner) outer
      (post.look s.now (taskEnd? s.ended inner) (outer.any (·.answer.isSome))) inner := by
  have hl : (r.step post.guard .look).Lawful := h.lawful.step .look
  have hs := h.settlement?_eq hn
  have hx := h.not_exited hn
  have hz := Race.settlements_of_not_exited hx
  have hstep : r.step post.guard .look = r.look post.guard := by
    rw [Race.step, if_neg (Bool.eq_false_iff.1 hx)]
  rw [Race.run_cons, Race.run_nil]
  cases hr : r.settlement? post.guard with
  | none =>
    rw [hr] at hs
    have hnone := Option.map_eq_none_iff.1 hs.symm
    rw [hstep, Race.look_of_none hr] at hl ⊢
    constructor
    case lawful => exact hl
    case now_eq => exact h.now_eq
    case looked_eq => rfl
    case dropped => exact h.dropped
    case task_eq => exact h.task_eq
    case answers =>
      rw [hnone]
      exact congrArg (List.map _) hz
    case depth => exact h.depth
    case cancelled => exact h.cancelled
  | some settled =>
    rw [hr] at hs
    obtain ⟨given, hg, ha⟩ := Option.map_eq_some_iff.1 hs.symm
    rw [hstep, Race.look_of_some hr] at hl ⊢
    constructor
    case lawful => exact hl
    case now_eq => exact h.now_eq
    case looked_eq => rfl
    case dropped => exact h.dropped
    case task_eq => exact h.task_eq
    case answers =>
      rw [hg, Race.settle, hz]
      exact congrArg (· :: []) ha.symm
    case depth =>
      rw [Race.settle, tail_cancelAt_zero]
      exact h.depth
    case cancelled =>
      rw [Race.settle, tail_cancelAt_zero]
      exact h.cancelled

theorem any_middle {front back : List Post} {p : Post} :
    (front ++ p :: back).any (·.answer.isSome) =
      (p.answer.isSome || (front ++ back).any (·.answer.isSome)) := by
  simp only [List.any_append, List.any_cons]
  exact Bool.or_left_comm _ _ _

theorem outer_look {front back : List Post} {p given : Post}
    (h : Plays r s (front ++ p :: back) post inner) (hn : p.answer = none) (s' : Nest)
    (hnow : s'.now = s.now) (hend : s'.ended = s.ended) :
    ∃ turns, Plays (r.run post.guard turns) s' (front ++ given :: back) post inner := by
  have hn' := h.now_eq.trans hnow.symm
  have ht : r.task = taskEnd? s'.ended inner := by
    rw [hend]
    exact h.task_eq
  have hc := h.cancelled
  rw [any_middle, hn, Option.isSome_none, Bool.false_or] at hc
  have hd : r.tokens.tail.length = (front ++ given :: back).length := by
    rw [h.depth, List.length_append, List.length_append, List.length_cons, List.length_cons]
  cases ha : given.answer with
  | none =>
    have hany : true ∈ r.tokens.tail ↔ (front ++ given :: back).any (·.answer.isSome) = true := by
      rw [any_middle, ha, Option.isSome_none, Bool.false_or]
      exact hc
    exact ⟨[], h.lawful, hn', h.looked_eq, h.dropped, ht, h.answers, hd, hany⟩
  | some answer =>
    have hlt : back.length < r.tokens.tail.length := by
      rw [h.depth, List.length_append, List.length_cons]
      omega
    have hl : (r.step post.guard (.cancelEnclosing back.length)).Lawful := h.lawful.step _
    have hd' : (cancelAt (back.length + 1) r.tokens).tail.length =
        (front ++ given :: back).length := by
      rw [tail_cancelAt_succ, length_cancelAt]
      exact hd
    have hany : true ∈ (cancelAt (back.length + 1) r.tokens).tail ↔
        (front ++ given :: back).any (·.answer.isSome) = true := by
      rw [tail_cancelAt_succ, any_middle, ha]
      exact iff_of_true (true_mem_cancelAt hlt) rfl
    exact ⟨[.cancelEnclosing back.length], hl, hn', h.looked_eq, h.dropped, ht, h.answers, hd', hany⟩

theorem task_ends (h : Plays r s outer post inner) (hl : post.looked = true)
    (hn : taskEnd? s.ended inner = none) (s' : Nest) (inner' : List Post)
    (hnow : s'.now = s.now) :
    ∃ turns, Plays (r.run post.guard turns) s' outer post inner' := by
  cases hd : taskEnd? s'.ended inner' with
  | none =>
    have ht : r.task = taskEnd? s'.ended inner' := by
      rw [hd, ← hn]
      exact h.task_eq
    exact ⟨[], h.lawful, h.now_eq.trans hnow.symm, h.looked_eq, h.dropped, ht, h.answers, h.depth,
      h.cancelled⟩
  | some task =>
    have hr : (r.looked && r.task.isNone) = true := by
      rw [h.looked_eq, hl, h.task_eq, hn]
      rfl
    have hlaw : (r.step post.guard (.taskEnds task)).Lawful := h.lawful.step _
    have hstep : r.step post.guard (.taskEnds task) = { r with task := some task } := if_pos hr
    exists [.taskEnds task]
    rw [Race.run_cons, Race.run_nil]
    rw [hstep] at hlaw ⊢
    exact ⟨hlaw, h.now_eq.trans hnow.symm, h.looked_eq, h.dropped, hd.symm, h.answers, h.depth,
      h.cancelled⟩

theorem of_same (h : Plays r s outer post inner) (s' : Nest) {inner' : List Post}
    (hnow : s'.now = s.now) (ht : taskEnd? s'.ended inner' = taskEnd? s.ended inner) :
    Plays r s' outer post inner' :=
  ⟨h.lawful, h.now_eq.trans hnow.symm, h.looked_eq, h.dropped, h.task_eq.trans ht.symm, h.answers,
    h.depth, h.cancelled⟩

theorem step_look (h : Plays r s outer post inner) (hp : s.posts = outer ++ post :: inner)
    (place : Nat) :
    ∃ outer' post' inner' turns, (s.look place).posts = outer' ++ post' :: inner' ∧
      outer'.length = outer.length ∧ post'.guard = post.guard ∧
      Plays (r.run post.guard turns) (s.look place) outer' post' inner' := by
  rcases Nest.look_cases s place with he | ⟨o, p, i, hq, _, ho, hn, he⟩
  · rw [he]
    exact ⟨outer, post, inner, [], hp, rfl, rfl, h⟩
  · rw [he]
    rcases split_cases (hp.symm.trans hq) with ⟨rfl, rfl, rfl⟩ | ⟨back, rfl, rfl⟩ |
      ⟨front, rfl, rfl⟩
    · exact ⟨o, _, i, [.look], rfl, rfl, rfl, h.look hn⟩
    · obtain ⟨turns, ht⟩ := h.outer_look hn (s.lookAt o p (back ++ post :: inner)) rfl rfl
      have hposts (p' : Post) : o ++ p' :: (back ++ post :: inner) =
          (o ++ p' :: back) ++ post :: inner := by
        rw [List.append_assoc, List.cons_append]
      have hlen (p' : Post) : (o ++ p' :: back).length = (o ++ p :: back).length := by
        rw [List.length_append, List.length_append, List.length_cons, List.length_cons]
      exact ⟨_, post, inner, turns, hposts _, hlen _, rfl, ht⟩
    · have hl := ho post (List.mem_append_right _ List.mem_cons_self)
      have hposts (p' : Post) : (outer ++ post :: front) ++ p' :: i =
          outer ++ post :: (front ++ p' :: i) := by
        rw [List.append_assoc, List.cons_append]
      cases front with
      | nil =>
        have hnone : taskEnd? s.ended (p :: i) = none := by
          rw [taskEnd?, hn]
          rfl
        obtain ⟨turns, ht⟩ := h.task_ends hl hnone (s.lookAt (outer ++ [post]) p i) _ rfl
        exact ⟨outer, post, _, turns, hposts _, rfl, rfl, ht⟩
      | cons next front =>
        exact ⟨outer, post, _, [], hposts _, rfl, rfl, h.of_same _ rfl rfl⟩

theorem step_handlerEnds (h : Plays r s outer post inner) (hp : s.posts = outer ++ post :: inner)
    (ending : Ending) :
    ∃ turns, Plays (r.run post.guard turns) (s.handlerEnds ending) outer post inner := by
  rw [Nest.handlerEnds]
  split
  · rename_i hc
    obtain ⟨hall, hend⟩ := Bool.and_eq_true_iff.1 hc
    cases inner with
    | nil =>
      have hl := List.all_eq_true.1 hall post (Nest.mem_of_split hp)
      have hnone : taskEnd? s.ended [] = none := by
        rw [taskEnd?, Option.isNone_iff_eq_none.1 hend]
        rfl
      exact h.task_ends hl hnone _ [] rfl
    | cons next inner => exact ⟨[], h.of_same _ rfl rfl⟩
  · exact ⟨[], h⟩

theorem step_advance (h : Plays r s outer post inner) (time : Duration) :
    ∃ turns, Plays (r.run post.guard turns) (s.advance time) outer post inner := by
  rw [Nest.advance]
  split
  · have hl : (r.step post.guard (.advance time)).Lawful := h.lawful.step _
    exact ⟨[.advance time], hl, congrArg (· + time.nanos) h.now_eq, h.looked_eq, h.dropped,
      h.task_eq, h.answers, h.depth, h.cancelled⟩
  · exact ⟨[], h⟩

theorem step (h : Plays r s outer post inner) (hp : s.posts = outer ++ post :: inner)
    (move : Nest.Move) :
    ∃ outer' post' inner' turns, (s.step move).posts = outer' ++ post' :: inner' ∧
      outer'.length = outer.length ∧ post'.guard = post.guard ∧
      Plays (r.run post.guard turns) (s.step move) outer' post' inner' := by
  cases move with
  | look place => exact h.step_look hp place
  | handlerEnds ending =>
    obtain ⟨turns, ht⟩ := h.step_handlerEnds hp ending
    have hp' : (s.handlerEnds ending).posts = outer ++ post :: inner := by
      rw [Nest.handlerEnds]
      split <;> exact hp
    exact ⟨outer, post, inner, turns, hp', rfl, rfl, ht⟩
  | advance time =>
    obtain ⟨turns, ht⟩ := h.step_advance time
    have hp' : (s.advance time).posts = outer ++ post :: inner := by
      rw [Nest.advance]
      split <;> exact hp
    exact ⟨outer, post, inner, turns, hp', rfl, rfl, ht⟩

theorem run (h : Plays r s outer post inner) (hp : s.posts = outer ++ post :: inner)
    (moves : List Nest.Move) :
    ∃ outer' post' inner' turns, (s.run moves).posts = outer' ++ post' :: inner' ∧
      outer'.length = outer.length ∧ post'.guard = post.guard ∧
      Plays (r.run post.guard turns) (s.run moves) outer' post' inner' := by
  induction moves generalizing r s outer post inner with
  | nil => exact ⟨outer, post, inner, [], hp, rfl, rfl, h⟩
  | cons move moves ih =>
    obtain ⟨o, p, i, turns, hp', hlen, hg, h'⟩ := h.step hp move
    obtain ⟨o', p', i', turns', hp'', hlen', hg', h''⟩ := ih h' hp'
    rw [hg, ← Race.run_append] at h''
    exact ⟨o', p', i', turns ++ turns', hp'', hlen'.trans hlen, hg'.trans hg, h''⟩

theorem begin (now : Instant) (front back : List Guard) (g : Guard) :
    Plays (Race.begin now (enclosingTokens front.length []))
      (Nest.begin now (front ++ g :: back)) (front.map fun g => { guard := g }) { guard := g }
      (back.map fun g => { guard := g }) := by
  have hlen : (enclosingTokens front.length []).length = front.length := List.length_replicate
  constructor
  case lawful => exact Race.lawful_begin now front.length []
  case now_eq => rfl
  case looked_eq => rfl
  case dropped => rfl
  case task_eq => cases back <;> rfl
  case answers => rfl
  case depth =>
    rw [List.length_map]
    exact hlen
  case cancelled =>
    apply iff_of_false
    · intro hm
      exact Bool.noConfusion (List.eq_of_mem_replicate hm)
    · simp

end Plays

/-- After any moves of a nest each of its guards is where some moves of its own race bring it. -/
theorem Nest.plays_race (now : Instant) (front back : List Guard) (g : Guard)
    (moves : List Nest.Move) :
    let s := (Nest.begin now (front ++ g :: back)).run moves
    ∃ outer post inner turns, s.posts = outer ++ post :: inner ∧ outer.length = front.length ∧
      post.guard = g ∧
      Plays ((Race.begin now (enclosingTokens front.length [])).run g turns) s outer post inner := by
  have hp : (Nest.begin now (front ++ g :: back)).posts = (front.map fun g => { guard := g }) ++
      { guard := g } :: (back.map fun g => { guard := g }) := by
    rw [Nest.begin, List.map_append, List.map_cons]
  obtain ⟨outer, post, inner, turns, hs, hlen, hg, h⟩ := (Plays.begin now front back g).run hp moves
  rw [List.length_map] at hlen
  exact ⟨outer, post, inner, turns, hs, hlen, hg, h⟩

end Gatehouse
