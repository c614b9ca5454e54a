import Gatehouse.Server.Basic

namespace Gatehouse.Server

/-- What happens to a server before it serves: it is started, or someone begins to wait for the stop
signal. -/
inductive Op where
  | start (http grpc : Opening)
  | addWaiter

def Op.opened? : Op → Option Listeners
  | .start (.opened http) (.opened grpc) => some ⟨http, grpc⟩
  | _ => none

def step (s : Server) : Op → Server
  | .start http grpc => (s.start http grpc).2
  | .addWaiter => { s with lifecycle := s.lifecycle.addWaiter }

def run (s : Server) (ops : List Op) : Server := ops.foldl step s

def lastOpened? (ops : List Op) : Option Listeners := (ops.filterMap Op.opened?).getLast?

variable {s : Server} {http grpc : Opening} {l : Listeners} {ops : List Op}

theorem start_of_opened (s : Server) (h : (Op.start http grpc).opened? = some l) :
    s.start http grpc = (.ok (l, [info "listeners bound" (addressFields l)]),
      { s with httpListener := some l.http, grpcListener := some l.grpc }) := by
  cases http with
  | refused => cases h
  | unnamed => cases h
  | opened =>
    cases grpc with
    | refused => cases h
    | unnamed => cases h
    | opened =>
      cases h
      rfl

theorem start_of_not_opened (s : Server) (h : (Op.start http grpc).opened? = none) :
    ∃ e, s.start http grpc = (.error e, s) := by
  cases http with
  | refused => exact ⟨_, rfl⟩
  | unnamed => cases grpc <;> exact ⟨_, rfl⟩
  | opened =>
    cases grpc with
    | refused => exact ⟨_, rfl⟩
    | unnamed => exact ⟨_, rfl⟩
    | opened => cases h

theorem start_ok_iff (s : Server) :
    (∃ events, (s.start http grpc).1 = .ok (l, events)) ↔
      (Op.start http grpc).opened? = some l := by
  cases ho : (Op.start http grpc).opened? with
  | none =>
    obtain ⟨e, he⟩ := start_of_not_opened s ho
    rw [he]
    exact iff_of_false (fun ⟨_, h⟩ => nomatch h) (Option.some_ne_none l).symm
  | some bound =>
    rw [start_of_opened s ho]
    constructor
    · rintro ⟨events, h⟩
      cases h
      rfl
    · rintro h
      cases h
      exact ⟨_, rfl⟩

theorem start_of_error {e : StartError} (h : (s.start http grpc).1 = .error e) :
    (s.start http grpc).2 = s := by
  cases ho : (Op.start http grpc).opened? with
  | none =>
    obtain ⟨e, he⟩ := start_of_not_opened s ho
    rw [he]
  | some bound =>
    rw [start_of_opened s ho] at h
    cases h

/-- What a server keeps to until it serves, when the last listeners that it opened are given. -/
structure Holds (config : ServerConfig) (held : Option Listeners) (s : Server) : Prop where
  http : s.httpListener = held.map Listeners.http
  grpc : s.grpcListener = held.map Listeners.grpc
  config : s.config = config
  starting : s.lifecycle.state = .starting
  triggered : s.lifecycle.triggered = false
  waiters : ∀ told ∈ s.lifecycle.waiters, told = false
  awaitsSignal : s.awaitsSignal = false

variable {config : ServerConfig} {held : Option Listeners}

theorem holds_new (config : ServerConfig) : Holds config none { config } :=
  ⟨rfl, rfl, rfl, rfl, rfl, fun _ ht => absurd ht List.not_mem_nil, rfl⟩

theorem Holds.step (h : s.Holds config held) (op : Op) :
    (s.step op).Holds config (op.opened?.or held) := by
  cases op with
  | start http grpc =>
    rw [Server.step]
    cases ho : (Op.start http grpc).opened? with
    | none =>
      obtain ⟨e, he⟩ := start_of_not_opened s ho
      rw [he]
      exact h
    | some bound =>
      rw [start_of_opened s ho]
      exact { h with http := rfl, grpc := rfl }
  | addWaiter =>
    refine { h with waiters := fun told ht => ?_ }
    rcases List.mem_append.1 ht with ht | ht
    · exact h.waiters told ht
    · rw [List.mem_singleton.1 ht, h.triggered]

theorem lastOpened?_cons_or (op : Op) (ops : List Op) (held : Option Listeners) :
    (lastOpened? (op :: ops)).or held = (lastOpened? ops).or (op.opened?.or held) := by
  rw [lastOpened?, lastOpened?, List.filterMap_cons]
  cases op.opened? with
  | none => rfl
  | some l =>
    rw [List.getLast?_cons]
    cases (ops.filterMap Op.opened?).getLast? <;> rfl

theorem Holds.run (h : s.Holds config held) (ops : List Op) :
    (s.run ops).Holds config ((lastOpened? ops).or held) := by
  induction ops generalizing s held with
  | nil => exact h
  | cons op ops ih =>
    rw [lastOpened?_cons_or]
    exact ih (h.step op)

theorem Holds.listeners (h : s.Holds config held) : s.listeners = held := by
  rw [Server.listeners, h.http, h.grpc]
  cases held <;> rfl

theorem lastOpened?_eq_none_iff :
    lastOpened? ops = none ↔ ∀ op ∈ ops, op.opened? = none := by
  rw [lastOpened?, List.getLast?_eq_none_iff, List.filterMap_eq_nil_iff]

theorem serve_error_iff : s.serve.1 = .error .notStarted ↔ s.listeners = none := by
  rw [serve]
  cases s.listeners with
  | none => exact iff_of_true rfl rfl
  | some l => exact iff_of_false (fun h => nomatch h) (Option.some_ne_none l)

theorem serve_of_none (h : s.listeners = none) : s.serve.2 = s := by
  rw [serve, h]

/-- However often a server is started, it holds both listeners of the last start that succeeded, or
none. -/
theorem start_all_or_nothing (config : ServerConfig) (ops : List Op) :
    let s := Server.run { config } ops
    s.httpListener = (lastOpened? ops).map Listeners.http ∧
    s.grpcListener = (lastOpened? ops).map Listeners.grpc ∧
    s.config = config ∧
    (∀ http grpc,
      (∀ l, (∃ events, (s.start http grpc).1 = .ok (l, events)) ↔
        (Op.start http grpc).opened? = some l) ∧
      ∀ e, (s.start http grpc).1 = .error e → (s.start http grpc).2 = s) ∧
    (s.serve.1 = .error .notStarted ↔ ∀ op ∈ ops, op.opened? = none) ∧
    (s.serve.1 = .error .notStarted →
      s.serve.2 = s ∧ s.lifecycle.state = .starting ∧ (∀ told ∈ s.lifecycle.waiters, told = false) ∧
      s.awaitsSignal = false) := by
  intro s
  have h : s.Holds config (lastOpened? ops) := by
    rw [← Option.or_none (o := lastOpened? ops)]
    exact (holds_new config).run ops
  refine ⟨h.http, h.grpc, h.config, fun http grpc => ⟨fun l => start_ok_iff s, ?_⟩, ?_, ?_⟩
  case refine_1 => exact fun e => start_of_error
  case refine_2 => rw [serve_error_iff, h.listeners, lastOpened?_eq_none_iff]
  case refine_3 =>
    intro he
    have hn := serve_error_iff.1 he
    exact ⟨serve_of_none hn, h.starting, h.waiters, h.awaitsSignal⟩

theorem start_all_or_nothing_of_second :
    let http : SocketAddress := .v4 ⟨127, 0, 0, 1⟩ 8080
    let grpc : SocketAddress := .v4 ⟨127, 0, 0, 1⟩ 50051
    let s := run { config := {} }
      [.start (.opened http) (.opened grpc), .addWaiter, .start (.opened grpc) (.refused "in use")]
    let t := run { config := {} } [.addWaiter, .start (.opened http) (.unnamed "closed")]
    s.httpListener = some http ∧ s.grpcListener = some grpc ∧ s.serve.1 ≠ .error .notStarted ∧
    t.serve.1 = .error .notStarted ∧ t.serve.2 = t ∧ t.lifecycle.state = .starting := by
  intro http grpc s t
  obtain ⟨hs, gs, -, -, es, -⟩ := start_all_or_nothing {}
    [.start (.opened http) (.opened grpc), .addWaiter, .start (.opened grpc) (.refused "in use")]
  obtain ⟨-, -, -, -, et, nt⟩ := start_all_or_nothing {}
    [.addWaiter, .start (.opened http) (.unnamed "closed")]
  have he : t.serve.1 = .error .notStarted := by
    refine et.2 fun op ho => ?_
    rcases List.mem_cons.1 ho with rfl | ho
    · rfl
    · rw [List.mem_singleton.1 ho]
      rfl
  obtain ⟨hk, hst, -⟩ := nt he
  have hn : s.serve.1 ≠ .error .notStarted := fun h => nomatch es.1 h _ List.mem_cons_self
  exact ⟨hs, gs, hn, he, hk, hst⟩

end Gatehouse.Server
