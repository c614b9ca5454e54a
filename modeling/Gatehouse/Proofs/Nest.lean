import Gatehouse.Guard
import Mathlib.Algebra.GroupWithZero.Nat
import Mathlib.Data.List.Induction

/-!
Guards nested around a handler, on a clock that stands still while anything is left to do. Each
guard is looked at in any order and any number of times; the next one out waits for its answer, and
the ones inside it are cancelled by it.
-/
namespace Gatehouse

theorem Verdict.of?_eq_none_iff {task : Option TaskEnd} {expired cancelled : Bool} :
    Verdict.of? task expired cancelled = none ↔
      task = none ∧ expired = false ∧ cancelled = false := by
  cases task with
  | none => cases expired <;> cases cancelled <;> simp [Verdict.of?]
  | some task => cases task <;> simp [Verdict.of?]

/-- A guard of a nest: whether it has been looked at, and when and what it answered. -/
structure Post where
  guard : Guard
  looked : Bool := false
  answer : Option (Instant × Ending) := none
deriving DecidableEq

/-- The end of the task that is waited for right outside some guards. -/
def taskEnd? (ended : Option (Instant × Ending)) : List Post → Option TaskEnd
  | [] => ended.map fun (_, ending) => .done ending
  | post :: _ => post.answer.map fun (_, ending) => .done ending

def Post.look (now : Instant) (task : Option TaskEnd) (cancelled : Bool) (post : Post) : Post :=
  { post with
    looked := true
    answer := (Verdict.of? task (post.guard.deadline.expiresAt ≤ now) cancelled).map fun verdict =>
      (now, post.guard.answer verdict) }

def Post.pending (post : Post) : Nat :=
  (if post.looked then 0 else 1) + (if post.answer.isSome then 0 else 1)

theorem Post.pending_look {now : Instant} {task : Option TaskEnd} {cancelled : Bool} {post : Post}
    (hn : post.answer = none) (hc : post.look now task cancelled ≠ post) :
    (post.look now task cancelled).pending < post.pending := by
  have hl : (post.look now task cancelled).looked = true := rfl
  cases ha : (post.look now task cancelled).answer with
  | some given => simp [pending, hl, ha, hn]
  | none =>
    have hw : post.looked = false := by
      rw [← Bool.not_eq_true]
      intro hlooked
      apply hc
      obtain ⟨guard, looked, answer⟩ := post
      simp_all [look]
    simp [pending, hl, ha, hn, hw]

structure Nest where
  now : Instant
  posts : List Post
  ended : Option (Instant × Ending) := none
deriving DecidableEq

namespace Nest

def begin (now : Instant) (guards : List Guard) : Nest where
  now := now
  posts := guards.map fun g => { guard := g }

def lookAt (s : Nest) (outer : List Post) (post : Post) (inner : List Post) : Nest :=
  let cancelled := outer.any (·.answer.isSome)
  { s with posts := outer ++ post.look s.now (taskEnd? s.ended inner) cancelled :: inner }

/-- A guard is looked at in a task that the first look at the guard around it has started, until it
has answered. -/
def look (s : Nest) (place : Nat) : Nest :=
  let outer := s.posts.take place
  match s.posts.drop place with
  | [] => s
  | post :: inner =>
    if outer.all (·.looked) && post.answer.isNone then s.lookAt outer post inner else s

def handlerEnds (s : Nest) (ending : Ending) : Nest :=
  if s.posts.all (·.looked) && s.ended.isNone then { s with ended := some (s.now, ending) } else s

def quiet (s : Nest) : Bool := (List.range s.posts.length).all fun place => s.look place = s

/-- Time passes once nothing is left to do, and not beyond the timer of a guard that waits. -/
def advance (s : Nest) (time : Duration) : Nest :=
  let due (post : Post) := post.answer.isSome || s.now + time.nanos ≤ post.guard.deadline.expiresAt
  if s.quiet && s.posts.all due then { s with now := s.now + time.nanos } else s

inductive Move where
  | look (place : Nat)
  | handlerEnds (ending : Ending)
  | advance (time : Duration)
deriving DecidableEq

def step (s : Nest) : Move → Nest
  | .look place => s.look place
  | .handlerEnds ending => s.handlerEnds ending
  | .advance time => s.advance time

def run (s : Nest) (moves : List Move) : Nest := moves.foldl step s

@[simp] theorem run_nil (s : Nest) : s.run [] = s := rfl

@[simp] theorem run_cons (s : Nest) (move : Move) (moves : List Move) :
    s.run (move :: moves) = (s.step move).run moves := rfl

theorem run_append (s : Nest) (before after : List Move) :
    s.run (before ++ after) = (s.run before).run after := List.foldl_append

def answer (s : Nest) : Option (Instant × Ending) := s.posts.head?.bind (·.answer)

variable {s : Nest} {outer inner : List Post} {post : Post}

theorem look_eq_lookAt (hp : s.posts = outer ++ post :: inner) (ho : ∀ p ∈ outer, p.looked = true)
    (hn : post.answer = none) :
    s.look outer.length = s.lookAt outer post inner := by
  have hl : outer.all (·.looked) = true := List.all_eq_true.2 ho
  simp only [look, hp, List.drop_left, List.take_left, hl, hn, Option.isNone_none, Bool.and_self,
    if_true]

theorem look_cases (s : Nest) (place : Nat) :
    s.look place = s ∨
      ∃ outer post inner, s.posts = outer ++ post :: inner ∧ outer.length = place ∧
        (∀ p ∈ outer, p.looked = true) ∧ post.answer = none ∧
        s.look place = s.lookAt outer post inner := by
  cases hd : s.posts.drop place with
  | nil =>
    left
    rw [look, hd]
  | cons post inner =>
    have hp : s.posts = s.posts.take place ++ post :: inner := by
      rw [← hd, List.take_append_drop]
    have hlen : (s.posts.take place).length = place := by
      have hlt : place < s.posts.length := by
        rw [← Nat.not_le, ← List.drop_eq_nil_iff, hd]
        exact List.cons_ne_nil _ _
      rw [List.length_take, Nat.min_eq_left (Nat.le_of_lt hlt)]
    by_cases h : ((s.posts.take place).all (·.looked) && post.answer.isNone) = true
    · rw [Bool.and_eq_true, List.all_eq_true, Option.isNone_iff_eq_none] at h
      right
      refine ⟨_, post, inner, hp, hlen, h.1, h.2, ?_⟩
      have hl := look_eq_lookAt hp h.1 h.2
      rwa [hlen] at hl
    · left
      simp only [look, hd, if_neg h]

theorem look_eq_of_quiet (hq : s.quiet = true) (place : Nat) : s.look place = s := by
  by_cases h : place < s.posts.length
  · have hr := List.all_eq_true.1 hq place (List.mem_range.2 h)
    exact of_decide_eq_true hr
  · have hd : s.posts.drop place = [] := List.drop_eq_nil_of_le (Nat.le_of_not_lt h)
    rw [look, hd]

end Nest

/-- The guards of a nest under a tightest deadline: it is in force for the innermost guard, and no
other one that is in force expires as early. -/
structure Tightening (protocol : Protocol) (bound : Deadline) (guards : List Guard) : Prop where
  protocol_eq : ∀ g ∈ guards, g.protocol = protocol
  inForce : ∀ g ∈ guards, g.deadline = bound ∨ bound.expiresAt < g.deadline.expiresAt
  inward : guards.Pairwise fun outer inner => inner.deadline.expiresAt ≤ outer.deadline.expiresAt
  innermost : ∃ g, guards.getLast? = some g ∧ g.deadline = bound

theorem Tightening.cons {protocol : Protocol} {bound : Deadline} {guards : List Guard} {g : Guard}
    (hp : g.protocol = protocol)
    (hf : g.deadline = bound ∨ bound.expiresAt < g.deadline.expiresAt)
    (hi : ∀ inner ∈ guards, inner.deadline.expiresAt ≤ g.deadline.expiresAt)
    (h : Tightening protocol bound guards) : Tightening protocol bound (g :: guards) := by
  obtain ⟨last, hl, hd⟩ := h.innermost
  constructor
  case protocol_eq => exact List.forall_mem_cons.2 ⟨hp, h.protocol_eq⟩
  case inForce => exact List.forall_mem_cons.2 ⟨hf, h.inForce⟩
  case inward => exact List.pairwise_cons.2 ⟨hi, h.inward⟩
  case innermost =>
    have hl' : (g :: guards).getLast? = some last := by
      rw [List.getLast?_cons, hl, Option.getD_some]
    exact ⟨last, hl', hd⟩

/-- What may be answered under a tightest deadline: how a handler ended in time, or at the deadline
that the time is up if the handler did not end earlier. -/
def Due (protocol : Protocol) (bound : Deadline) (ended : Option (Instant × Ending)) (time : Instant)
    (answer : Ending) : Prop :=
  (ended = some (time, answer) ∧ time ≤ bound.expiresAt) ∨
    (time = bound.expiresAt ∧ answer = .responded (protocol.deadlineExceeded bound.timeout) ∧
      ∀ end' ending, ended = some (end', ending) → bound.expiresAt ≤ end')

theorem Due.in_time_or_late {protocol : Protocol} {bound : Deadline}
    {ended : Option (Instant × Ending)} {time : Instant} {answer : Ending}
    (h : Due protocol bound ended time answer) :
    (∀ end' last, ended = some (end', last) → end' < bound.expiresAt →
      time = end' ∧ answer = last) ∧
    ((∀ end' last, ended = some (end', last) → bound.expiresAt < end') →
      time = bound.expiresAt ∧
      answer = .responded (protocol.deadlineExceeded bound.timeout)) := by
  rcases h with ⟨he, hle⟩ | ⟨ht, hl, hend⟩
  · constructor
    · intro end' last he' _
      rw [he] at he'
      cases he'
      exact ⟨rfl, rfl⟩
    · intro hlate
      exact absurd (hlate time answer he) (Nat.not_lt_of_le hle)
  · constructor
    · intro end' last he' hlt
      exact absurd hlt (Nat.not_lt_of_le (hend end' last he'))
    · intro _
      exact ⟨ht, hl⟩

namespace Nest

structure Kept (protocol : Protocol) (bound : Deadline) (s : Nest) : Prop where
  tightening : Tightening protocol bound (s.posts.map (·.guard))
  looked : ∀ p ∈ s.posts, p.answer.isSome = true → p.looked = true
  waiting : ∀ p ∈ s.posts, p.answer = none →
    s.now ≤ bound.expiresAt ∧
    (∀ time ending, s.ended = some (time, ending) → time = s.now) ∧
    ∀ q ∈ s.posts, ∀ time ending, q.answer = some (time, ending) → time = s.now
  due : ∀ p ∈ s.posts, ∀ time ending, p.answer = some (time, ending) →
    time ≤ s.now ∧ Due protocol bound s.ended time ending
  inward : s.posts.Pairwise fun outer inner => outer.answer.isSome = true →
    s.now < inner.guard.deadline.expiresAt → inner.answer.isSome = true

variable {s : Nest} {outer inner : List Post} {post : Post} {protocol : Protocol}
  {bound : Deadline}

theorem Kept.inForce (h : s.Kept protocol bound) (hp : post ∈ s.posts) :
    post.guard.deadline = bound ∨ bound.expiresAt < post.guard.deadline.expiresAt :=
  h.tightening.inForce _ (List.mem_map_of_mem hp)

theorem Kept.expiresAt_ge (h : s.Kept protocol bound) (hp : post ∈ s.posts) :
    bound.expiresAt ≤ post.guard.deadline.expiresAt := by
  rcases h.inForce hp with he | hlt
  · exact Nat.le_of_eq (congrArg Deadline.expiresAt he.symm)
  · exact Nat.le_of_lt hlt

theorem mem_of_split (hp : s.posts = outer ++ post :: inner) : post ∈ s.posts := by
  rw [hp]
  exact List.mem_append_right _ List.mem_cons_self

theorem split_next {next : Post} (hp : s.posts = outer ++ post :: next :: inner) :
    s.posts = (outer ++ [post]) ++ next :: inner := by
  rw [hp, List.append_assoc, List.singleton_append]

theorem Kept.expiresAt_le (h : s.Kept protocol bound) (hp : s.posts = outer ++ post :: inner) :
    ∀ p ∈ inner, p.guard.deadline.expiresAt ≤ post.guard.deadline.expiresAt := by
  have hg := h.tightening.inward
  rw [hp, List.map_append, List.map_cons, List.pairwise_append, List.pairwise_cons] at hg
  intro p hi
  exact hg.2.1.1 _ (List.mem_map_of_mem hi)

theorem Kept.inner_answered (h : s.Kept protocol bound) (hp : s.posts = outer ++ post :: inner)
    (ha : post.answer.isSome = true) :
    ∀ p ∈ inner, s.now < p.guard.deadline.expiresAt → p.answer.isSome = true := by
  have hi := h.inward
  rw [hp, List.pairwise_append, List.pairwise_cons] at hi
  intro p hpi
  exact hi.2.1.1 p hpi ha

theorem Kept.answered_of_outer (h : s.Kept protocol bound) (hp : s.posts = outer ++ post :: inner)
    (ho : outer.any (·.answer.isSome) = true) (hlt : s.now < post.guard.deadline.expiresAt) :
    post.answer.isSome = true := by
  have hi := h.inward
  rw [hp, List.pairwise_append] at hi
  obtain ⟨o, hm, ha⟩ := List.any_eq_true.1 ho
  exact hi.2.2 o hm post List.mem_cons_self ha hlt

theorem Kept.expired_of_no_task (h : s.Kept protocol bound)
    (hp : s.posts = outer ++ post :: inner) (hn : post.answer = none) {verdict : Verdict}
    (hv : Verdict.of? none (post.guard.deadline.expiresAt ≤ s.now)
      (outer.any (·.answer.isSome)) = some verdict) :
    verdict = .expired ∧ post.guard.deadline = bound ∧ s.now = bound.expiresAt := by
  have hm := mem_of_split hp
  obtain ⟨hb, _⟩ := h.waiting post hm hn
  by_cases he : post.guard.deadline.expiresAt ≤ s.now
  · simp only [Verdict.of?, he, decide_true, if_true, Option.some.injEq] at hv
    rcases h.inForce hm with hd | hlt
    · rw [hd] at he
      exact ⟨hv.symm, hd, Nat.le_antisymm hb he⟩
    · exact absurd (Nat.le_trans he hb) (Nat.not_le_of_lt hlt)
  · simp only [Verdict.of?, he, decide_false, Bool.false_eq_true, if_false,
      Option.ite_none_right_eq_some] at hv
    have hs := h.answered_of_outer hp hv.1 (Nat.lt_of_not_le he)
    rw [hn] at hs
    cases hs

theorem Kept.task_due (h : s.Kept protocol bound) (hp : s.posts = outer ++ post :: inner)
    (hn : post.answer = none) {task : TaskEnd} (ht : taskEnd? s.ended inner = some task) :
    ∃ ending, task = .done ending ∧ Due protocol bound s.ended s.now ending ∧
      ∀ p ∈ inner, s.now < p.guard.deadline.expiresAt → p.answer.isSome = true := by
  obtain ⟨hb, hh, hs⟩ := h.waiting post (mem_of_split hp) hn
  cases inner with
  | nil =>
    obtain ⟨⟨time, ending⟩, he, rfl⟩ := Option.map_eq_some_iff.1 ht
    have htime := hh time ending he
    subst htime
    exact ⟨ending, rfl, .inl ⟨he, hb⟩, fun p hi => absurd hi List.not_mem_nil⟩
  | cons next inner =>
    obtain ⟨⟨time, ending⟩, he, rfl⟩ := Option.map_eq_some_iff.1 ht
    have hp' := split_next hp
    have hm := mem_of_split hp'
    have htime := hs next hm time ending he
    subst htime
    have ha : next.answer.isSome = true := by rw [he]; rfl
    have hinner : ∀ p ∈ next :: inner, s.now < p.guard.deadline.expiresAt →
        p.answer.isSome = true := by
      intro p hi hlt
      rcases List.mem_cons.1 hi with rfl | hi
      · exact ha
      · exact h.inner_answered hp' ha p hi hlt
    exact ⟨ending, rfl, (h.due next hm _ ending he).2, hinner⟩

/-- An answer that a look brings is due, and all guards inside have answered before or are out of
time. -/
theorem Kept.due_of_look (h : s.Kept protocol bound) (hp : s.posts = outer ++ post :: inner)
    (hn : post.answer = none) {time : Instant} {ending : Ending}
    (ha : (post.look s.now (taskEnd? s.ended inner) (outer.any (·.answer.isSome))).answer =
      some (time, ending)) :
    time = s.now ∧ Due protocol bound s.ended time ending ∧
      ∀ p ∈ inner, s.now < p.guard.deadline.expiresAt → p.answer.isSome = true := by
  obtain ⟨verdict, hv, he⟩ := Option.map_eq_some_iff.1 ha
  obtain ⟨rfl, rfl⟩ := Prod.ext_iff.1 he
  cases ht : taskEnd? s.ended inner with
  | some task =>
    obtain ⟨ending, rfl, hd, hi⟩ := h.task_due hp hn ht
    rw [ht] at hv
    cases hv
    exact ⟨rfl, hd, hi⟩
  | none =>
    rw [ht] at hv
    obtain ⟨rfl, hd, hnow⟩ := h.expired_of_no_task hp hn hv
    have hm := mem_of_split hp
    have hpr := h.tightening.protocol_eq _ (List.mem_map_of_mem hm)
    have hanswer : post.guard.answer .expired =
        .responded (protocol.deadlineExceeded bound.timeout) := by
      rw [← hpr, ← hd]
      rfl
    have hend : ∀ end' ending, s.ended = some (end', ending) → bound.expiresAt ≤ end' := by
      intro end' ending he
      rw [(h.waiting post hm hn).2.1 end' ending he]
      exact Nat.le_of_eq hnow.symm
    have hinner : ∀ p ∈ inner, s.now < p.guard.deadline.expiresAt → p.answer.isSome = true := by
      intro p hi hlt
      have hle := h.expiresAt_le hp p hi
      rw [hd, ← hnow] at hle
      exact absurd hlt (Nat.not_lt_of_le hle)
    exact ⟨rfl, .inr ⟨hnow, hanswer, hend⟩, hinner⟩

theorem Kept.lookAt (h : s.Kept protocol bound) (hp : s.posts = outer ++ post :: inner)
    (hn : post.answer = none) : (s.lookAt outer post inner).Kept protocol bound := by
  have hm := mem_of_split hp
  obtain ⟨hb, hh, hs⟩ := h.waiting post hm hn
  -- every post is the one looked at, or was there before
  have cases_mem : ∀ p ∈ (s.lookAt outer post inner).posts, p ∈ s.posts ∨
      p = post.look s.now (taskEnd? s.ended inner) (outer.any (·.answer.isSome)) := by
    intro p hmem
    rw [hp]
    rcases List.mem_append.1 hmem with ho | hi
    · exact .inl (List.mem_append_left _ ho)
    · rcases List.mem_cons.1 hi with rfl | hi
      · exact .inr rfl
      · exact .inl (List.mem_append_right _ (List.mem_cons_of_mem _ hi))
  constructor
  case tightening =>
    have hg := h.tightening
    rw [hp, List.map_append, List.map_cons] at hg
    rw [Nest.lookAt, List.map_append, List.map_cons]
    exact hg
  case looked =>
    intro p hmem ha
    rcases cases_mem p hmem with hold | rfl
    · exact h.looked p hold ha
    · rfl
  case waiting =>
    intro _ _ _
    have hstamped : ∀ p ∈ (s.lookAt outer post inner).posts, ∀ time ending,
        p.answer = some (time, ending) → time = s.now := by
      intro p hmem time ending ha
      rcases cases_mem p hmem with hold | rfl
      · exact hs p hold time ending ha
      · exact (h.due_of_look hp hn ha).1
    exact ⟨hb, hh, hstamped⟩
  case due =>
    intro p hmem time ending ha
    rcases cases_mem p hmem with hold | rfl
    · exact h.due p hold time ending ha
    · obtain ⟨rfl, hd, _⟩ := h.due_of_look hp hn ha
      exact ⟨Nat.le_refl _, hd⟩
  case inward =>
    have hi := h.inward
    rw [hp, List.pairwise_append, List.pairwise_cons] at hi
    rw [Nest.lookAt, List.pairwise_append, List.pairwise_cons]
    obtain ⟨hio, ⟨_, hii⟩, hioi⟩ := hi
    constructor
    · exact hio
    constructor
    · constructor
      · intro p hpi ha hlt
        obtain ⟨⟨time, ending⟩, hl⟩ := Option.isSome_iff_exists.1 ha
        exact (h.due_of_look hp hn hl).2.2 p hpi hlt
      · exact hii
    · intro o ho p hmem ha hlt
      rcases List.mem_cons.1 hmem with rfl | hpi
      · have hany : outer.any (·.answer.isSome) = true := List.any_eq_true.2 ⟨o, ho, ha⟩
        have hs := h.answered_of_outer hp hany hlt
        rw [hn] at hs
        cases hs
      · exact hioi o ho p (List.mem_cons_of_mem _ hpi) ha hlt

theorem Kept.handlerEnds (h : s.Kept protocol bound) (ending : Ending) :
    (s.handlerEnds ending).Kept protocol bound := by
  rw [Nest.handlerEnds]
  split
  · rename_i hc
    rw [Bool.and_eq_true, Option.isNone_iff_eq_none] at hc
    constructor
    case tightening => exact h.tightening
    case looked => exact h.looked
    case waiting =>
      intro p hp hn
      obtain ⟨hb, _, hs⟩ := h.waiting p hp hn
      have hend : ∀ time last, some (s.now, ending) = some (time, last) → time = s.now := by
        intro time last he
        cases he
        rfl
      exact ⟨hb, hend, hs⟩
    case due =>
      intro p hp time last ha
      obtain ⟨hle, hd⟩ := h.due p hp time last ha
      -- what was answered before the handler ended was answered at the deadline
      rcases hd with ⟨he, _⟩ | ⟨ht, hl, _⟩
      · rw [hc.2] at he
        cases he
      · have hend : ∀ end' given, some (s.now, ending) = some (end', given) →
            bound.expiresAt ≤ end' := by
          intro end' given he
          cases he
          rw [← ht]
          exact hle
        exact ⟨hle, .inr ⟨ht, hl, hend⟩⟩
    case inward => exact h.inward
  · exact h

theorem Kept.innermost (h : s.Kept protocol bound) :
    ∃ last ∈ s.posts, last.guard.deadline = bound := by
  obtain ⟨g, hg, hd⟩ := h.tightening.innermost
  obtain ⟨last, hm, rfl⟩ := List.mem_map.1 (List.mem_of_getLast? hg)
  exact ⟨last, hm, hd⟩

theorem look_post_of_quiet (hq : s.quiet = true) (hp : s.posts = outer ++ post :: inner)
    (ho : ∀ p ∈ outer, p.looked = true) (hn : post.answer = none) :
    post.looked = true ∧ taskEnd? s.ended inner = none ∧
      s.now < post.guard.deadline.expiresAt ∧ outer.any (·.answer.isSome) = false := by
  have hl := look_eq_lookAt hp ho hn
  rw [look_eq_of_quiet hq] at hl
  have hposts := congrArg Nest.posts hl
  rw [lookAt, hp] at hposts
  have hpost := (List.cons.inj (List.append_cancel_left hposts)).1
  constructor
  · rw [hpost]
    rfl
  · have ha := congrArg Post.answer hpost
    rw [hn] at ha
    have hv := Verdict.of?_eq_none_iff.1 (Option.map_eq_none_iff.1 ha.symm)
    rw [decide_eq_false_iff_not, Nat.not_le] at hv
    exact hv

theorem Kept.looked_of_quiet (h : s.Kept protocol bound) (hq : s.quiet = true) :
    ∀ outer inner, s.posts = outer ++ inner → ∀ p ∈ outer, p.looked = true := by
  intro outer
  induction outer using List.reverseRecOn with
  | nil => exact fun _ _ p hp => absurd hp List.not_mem_nil
  | append_singleton outer post ih =>
    intro inner hp p hm
    rw [List.append_assoc, List.singleton_append] at hp
    have ho := ih _ hp
    rcases List.mem_append.1 hm with hm | hm
    · exact ho p hm
    · rw [List.mem_singleton.1 hm]
      cases hn : post.answer with
      | none => exact (look_post_of_quiet hq hp ho hn).1
      | some given => exact h.looked post (mem_of_split hp) (by rw [hn]; rfl)

/-- In a quiet nest whoever stands inside a guard that waits is waited for: all guards there wait,
and so the handler runs. -/
theorem Kept.inner_waits (h : s.Kept protocol bound) (hq : s.quiet = true)
    (hp : s.posts = outer ++ post :: inner) (hn : post.answer = none) :
    (∀ p ∈ inner, p.answer = none) ∧ s.ended = none := by
  induction inner generalizing outer post with
  | nil =>
    have ht := (look_post_of_quiet hq hp (h.looked_of_quiet hq _ _ hp) hn).2.1
    exact ⟨fun p hm => absurd hm List.not_mem_nil, Option.map_eq_none_iff.1 ht⟩
  | cons next inner ih =>
    have ht := (look_post_of_quiet hq hp (h.looked_of_quiet hq _ _ hp) hn).2.1
    have hnext := Option.map_eq_none_iff.1 ht
    obtain ⟨hi, he⟩ := ih (split_next hp) hnext
    exact ⟨List.forall_mem_cons.2 ⟨hnext, hi⟩, he⟩

theorem Kept.all_wait (h : s.Kept protocol bound) (hq : s.quiet = true) (hm : post ∈ s.posts)
    (hn : post.answer = none) :
    (∀ p ∈ s.posts, p.answer = none) ∧ s.ended = none ∧ s.now < bound.expiresAt := by
  obtain ⟨outer, inner, hp⟩ := List.append_of_mem hm
  obtain ⟨hi, he⟩ := h.inner_waits hq hp hn
  have ho := (look_post_of_quiet hq hp (h.looked_of_quiet hq _ _ hp) hn).2.2.2
  have hall : ∀ p ∈ s.posts, p.answer = none := by
    intro p hpm
    rw [hp] at hpm
    rcases List.mem_append.1 hpm with hpo | hpi
    · have hf := List.any_eq_false.1 ho p hpo
      rwa [Bool.not_eq_true, Option.isSome_eq_false_iff, Option.isNone_iff_eq_none] at hf
    · rcases List.mem_cons.1 hpi with rfl | hpi
      · exact hn
      · exact hi p hpi
  obtain ⟨last, hlast, hd⟩ := h.innermost
  obtain ⟨front, back, hs⟩ := List.append_of_mem hlast
  have hlt := (look_post_of_quiet hq hs (h.looked_of_quiet hq _ _ hs) (hall last hlast)).2.2.1
  rw [hd] at hlt
  exact ⟨hall, he, hlt⟩

theorem Kept.advance (h : s.Kept protocol bound) (time : Duration) :
    (s.advance time).Kept protocol bound := by
  rw [Nest.advance]
  split
  · rename_i hc
    obtain ⟨hq, hdue⟩ := Bool.and_eq_true_iff.1 hc
    constructor
    case tightening => exact h.tightening
    case looked => exact h.looked
    case waiting =>
      intro p hp hn
      obtain ⟨hall, he, _⟩ := h.all_wait hq hp hn
      obtain ⟨last, hlast, hd⟩ := h.innermost
      have hle := List.all_eq_true.1 hdue last hlast
      rw [hall last hlast, hd, Option.isSome_none, Bool.false_or, decide_eq_true_eq] at hle
      constructor
      · exact hle
      constructor
      · intro end' ending hend
        rw [he] at hend
        cases hend
      · intro q hqm answered ending ha
        rw [hall q hqm] at ha
        cases ha
    case due =>
      intro p hp answered ending ha
      obtain ⟨hle, hd⟩ := h.due p hp answered ending ha
      exact ⟨Nat.le_add_right_of_le hle, hd⟩
    case inward =>
      apply h.inward.imp
      intro o i hoi ho hlt
      exact hoi ho (Nat.lt_of_le_of_lt (Nat.le_add_right _ _) hlt)
  · exact h

theorem Kept.step (h : s.Kept protocol bound) (move : Move) : (s.step move).Kept protocol bound := by
  cases move with
  | look place =>
    rw [Nest.step]
    rcases look_cases s place with he | ⟨outer, post, inner, hp, _, _, hn, he⟩
    · rw [he]
      exact h
    · rw [he]
      exact h.lookAt hp hn
  | handlerEnds ending => exact h.handlerEnds ending
  | advance time => exact h.advance time

theorem Kept.run (h : s.Kept protocol bound) (moves : List Move) :
    (s.run moves).Kept protocol bound := by
  induction moves generalizing s with
  | nil => exact h
  | cons move moves ih => exact ih (h.step move)

theorem kept_begin {guards : List Guard} (hg : Tightening protocol bound guards) {now : Instant}
    (hnow : now ≤ bound.expiresAt) : (begin now guards).Kept protocol bound := by
  have none_answered : ∀ p ∈ (begin now guards).posts, p.answer = none := by
    intro p hp
    obtain ⟨g, _, rfl⟩ := List.mem_map.1 hp
    rfl
  constructor
  case tightening =>
    rw [begin, List.map_map]
    exact (List.map_id guards).symm ▸ hg
  case looked =>
    intro p hp ha
    rw [none_answered p hp] at ha
    cases ha
  case waiting =>
    intro p hp _
    constructor
    · exact hnow
    constructor
    · intro time ending he
      cases he
    · intro q hq time ending ha
      rw [none_answered q hq] at ha
      cases ha
  case due =>
    intro p hp time ending ha
    rw [none_answered p hp] at ha
    cases ha
  case inward =>
    rw [begin, List.pairwise_map]
    apply hg.inward.imp
    intro o i _ ha
    cases ha

theorem answer_eq_some {time : Instant} {ending : Ending} (ha : s.answer = some (time, ending)) :
    ∃ first ∈ s.posts, first.answer = some (time, ending) := by
  obtain ⟨first, hf, ha⟩ := Option.bind_eq_some_iff.1 ha
  exact ⟨first, List.mem_of_mem_head? hf, ha⟩

theorem Kept.answer_due (h : s.Kept protocol bound) {time : Instant} {ending : Ending}
    (ha : s.answer = some (time, ending)) : Due protocol bound s.ended time ending := by
  obtain ⟨first, hm, ha⟩ := answer_eq_some ha
  exact (h.due first hm time ending ha).2

theorem Kept.waits (h : s.Kept protocol bound) (ha : s.answer = none) :
    ∃ first ∈ s.posts, first.answer = none := by
  cases hp : s.posts with
  | nil =>
    obtain ⟨last, hm, _⟩ := h.innermost
    rw [hp] at hm
    exact absurd hm List.not_mem_nil
  | cons first inner =>
    rw [Nest.answer, hp] at ha
    exact ⟨first, List.mem_cons_self, ha⟩

theorem Kept.now_le (h : s.Kept protocol bound) (ha : s.answer = none) :
    s.now ≤ bound.expiresAt ∧ ∀ time ending, s.ended = some (time, ending) → time = s.now := by
  obtain ⟨first, hm, hn⟩ := h.waits ha
  obtain ⟨hb, hh, _⟩ := h.waiting first hm hn
  exact ⟨hb, hh⟩

theorem Kept.answered_of_quiet (h : s.Kept protocol bound) (hq : s.quiet = true)
    (hd : s.ended ≠ none ∨ bound.expiresAt ≤ s.now) : s.answer ≠ none := by
  intro ha
  obtain ⟨first, hm, hn⟩ := h.waits ha
  obtain ⟨_, he, hlt⟩ := h.all_wait hq hm hn
  rcases hd with hd | hle
  · exact hd he
  · exact Nat.not_lt_of_le hle hlt

def pending (s : Nest) : Nat := (s.posts.map Post.pending).sum

theorem pending_look {place : Nat} (h : s.look place ≠ s) : (s.look place).pending < s.pending := by
  rcases look_cases s place with he | ⟨outer, post, inner, hp, _, _, hn, he⟩
  · exact absurd he h
  · rw [he] at h ⊢
    have hc : post.look s.now (taskEnd? s.ended inner) (outer.any (·.answer.isSome)) ≠ post := by
      intro hpost
      apply h
      rw [lookAt, hpost, ← hp]
    have hlt := Post.pending_look hn hc
    simp only [pending, lookAt, hp, List.map_append, List.map_cons, List.sum_append, List.sum_cons]
    omega

theorem exists_look_of_not_quiet (h : s.quiet ≠ true) : ∃ place, s.look place ≠ s := by
  by_contra hn
  apply h
  rw [quiet, List.all_eq_true]
  intro place _
  rw [decide_eq_true_eq]
  by_contra hp
  exact hn ⟨place, hp⟩

/-- Looks bring a nest to rest, in any order as long as each of them changes something. -/
theorem exists_quiet (s : Nest) : ∃ places : List Nat, (s.run (places.map .look)).quiet = true := by
  induction hn : s.pending using Nat.strongRecOn generalizing s with
  | _ n ih =>
    by_cases hq : s.quiet = true
    · exact ⟨[], hq⟩
    · obtain ⟨place, hp⟩ := exists_look_of_not_quiet hq
      obtain ⟨places, hr⟩ := ih _ (hn ▸ pending_look hp) (s.look place) rfl
      exact ⟨place :: places, hr⟩

theorem now_look (s : Nest) (place : Nat) : (s.look place).now = s.now := by
  rcases look_cases s place with he | ⟨_, _, _, _, _, _, _, he⟩ <;> rw [he]
  rfl

theorem now_run_looks (s : Nest) (places : List Nat) :
    (s.run (places.map .look)).now = s.now := by
  induction places generalizing s with
  | nil => rfl
  | cons place places ih => exact (ih (s.look place)).trans (now_look s place)

theorem Kept.advance_to_bound (h : s.Kept protocol bound) (hq : s.quiet = true)
    (ha : s.answer = none) (hb : bound.expiresAt < Instant.limit) :
    ∃ time, s.advance time = { s with now := bound.expiresAt } := by
  obtain ⟨first, hm, hn⟩ := h.waits ha
  obtain ⟨hall, _, hlt⟩ := h.all_wait hq hm hn
  have hlong : bound.expiresAt - s.now < 18446744073709551616000000000 :=
    Nat.lt_of_le_of_lt (Nat.sub_le _ _) (Nat.lt_trans hb (by decide))
  have hsum : s.now + (bound.expiresAt - s.now) = bound.expiresAt :=
    Nat.add_sub_cancel' (Nat.le_of_lt hlt)
  exists ⟨bound.expiresAt - s.now, hlong⟩
  rw [Nest.advance, if_pos, hsum]
  rw [Bool.and_eq_true, List.all_eq_true]
  constructor
  · exact hq
  · intro p hp
    rw [hsum, hall p hp, Option.isSome_none, Bool.false_or, decide_eq_true_eq]
    exact h.expiresAt_ge hp

theorem Kept.completes (h : s.Kept protocol bound) (hb : bound.expiresAt < Instant.limit) :
    ∃ moves, (∀ ending, .handlerEnds ending ∉ moves) ∧ (s.run moves).answer ≠ none := by
  have only_looks (places : List Nat) (ending : Ending) :
      Move.handlerEnds ending ∉ places.map Move.look := by
    intro hm
    obtain ⟨_, _, he⟩ := List.mem_map.1 hm
    cases he
  obtain ⟨places, hq⟩ := s.exists_quiet
  have h₁ := h.run (places.map .look)
  by_cases ha : (s.run (places.map .look)).answer = none
  · obtain ⟨time, ht⟩ := h₁.advance_to_bound hq ha hb
    obtain ⟨last, hq₂⟩ := ((s.run (places.map .look)).advance time).exists_quiet
    have h₂ := (h₁.advance time).run (last.map .look)
    refine ⟨places.map .look ++ .advance time :: last.map .look, ?_, ?_⟩
    · intro ending hm
      rcases List.mem_append.1 hm with hm | hm
      · exact only_looks places ending hm
      · rcases List.mem_cons.1 hm with he | hm
        · cases he
        · exact only_looks last ending hm
    · rw [run_append, run_cons]
      apply h₂.answered_of_quiet hq₂
      right
      exact Nat.le_of_eq (by rw [now_run_looks, ht])
  · exact ⟨places.map .look, only_looks places, ha⟩

theorem answer_step {given : Instant × Ending} (ha : s.answer = some given) (move : Move) :
    (s.step move).answer = some given := by
  cases move with
  | look place =>
    rw [step]
    rcases look_cases s place with he | ⟨outer, post, inner, hp, _, _, hn, he⟩
    · rw [he]
      exact ha
    · rw [he]
      cases outer with
      | nil =>
        rw [answer, hp] at ha
        exact absurd ha (by simp [hn])
      | cons first outer =>
        rw [answer, hp] at ha
        exact ha
  | handlerEnds ending =>
    rw [step, handlerEnds]
    split <;> exact ha
  | advance time =>
    rw [step, advance]
    split <;> exact ha

theorem answer_run {given : Instant × Ending} (ha : s.answer = some given) (moves : List Move) :
    (s.run moves).answer = some given := by
  induction moves generalizing s with
  | nil => exact ha
  | cons move moves ih => exact ih (answer_step ha move)

/-- After any moves the caller gets the end of a handler that ended before the tightest deadline,
and at that deadline the answer that names it otherwise. -/
theorem law {guards : List Guard} {now : Instant} (hg : Tightening protocol bound guards)
    (hnow : now ≤ bound.expiresAt) (hb : bound.expiresAt < Instant.limit) (moves : List Move) :
    let s := (begin now guards).run moves
    (∀ time ending, s.answer = some (time, ending) →
      (∀ end' last, s.ended = some (end', last) → end' < bound.expiresAt →
        time = end' ∧ ending = last) ∧
      ((∀ end' last, s.ended = some (end', last) → bound.expiresAt < end') →
        time = bound.expiresAt ∧
        ending = .responded (protocol.deadlineExceeded bound.timeout))) ∧
    (s.answer = none → s.now ≤ bound.expiresAt ∧
      ∀ end' last, s.ended = some (end', last) → end' = s.now) ∧
    (s.quiet = true → s.ended ≠ none ∨ bound.expiresAt ≤ s.now → s.answer ≠ none) ∧
    (∃ more, (∀ ending, .handlerEnds ending ∉ more) ∧ (s.run more).answer ≠ none) ∧
    ∀ given more, s.answer = some given → (s.run more).answer = some given := by
  intro s
  have h : s.Kept protocol bound := (kept_begin hg hnow).run moves
  exact ⟨fun time ending ha => (h.answer_due ha).in_time_or_late, h.now_le, h.answered_of_quiet,
    h.completes hb, fun given more ha => answer_run ha more⟩

end Nest

end Gatehouse
