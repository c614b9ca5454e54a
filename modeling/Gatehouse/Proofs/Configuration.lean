import Gatehouse.Config.ServerConfig
import Gatehouse.Deadline
import Gatehouse.Proofs.Addresses

namespace Gatehouse

theorem millisFrom_of_readFrom {cs : List Char} {n m : Nat}
    (h : Decimal.readFrom n cs = some m) (hm : m < UInt64.size) :
    millisFrom n cs = .ok m.toUInt64 := by
  induction cs generalizing n with
  | nil =>
    cases h
    rfl
  | cons c cs ih =>
    rw [Decimal.readFrom] at h
    rw [millisFrom]
    cases hc : Decimal.value? c with
    | none => rw [hc] at h; cases h
    | some d =>
      rw [hc] at h
      dsimp only at h ⊢
      rw [if_pos (Nat.lt_of_le_of_lt (Decimal.le_of_readFrom h) hm)]
      exact ih h

theorem millisOf_digits (n : UInt64) : millisOf (Decimal.digits n.toNat) = .ok n := by
  have hplus : '+' ∉ Decimal.digits n.toNat := Decimal.not_mem_digits (by decide) _
  have hread := millisFrom_of_readFrom (Decimal.readFrom_digits n.toNat) n.toNat_lt
  rw [millisOf.eq_def]
  split
  · rename_i h
    exact absurd h (Decimal.digits_ne_nil _)
  · rename_i h
    exact absurd (h ▸ List.mem_cons_self) hplus
  · rename_i ds h
    exact absurd (h ▸ List.mem_cons_self) hplus
  · exact hread.trans (congrArg Except.ok UInt64.ofNat_toNat)

@[simp] theorem LogFormat.ofText?_name (f : LogFormat) : ofText? f.name = some f := by
  cases f <;> decide

/-- What settings have for those in a list. -/
def Settings.supplied (v : Settings) (given : List Setting) : Supplied where
  httpAddr := if .httpAddr ∈ given then some v.httpAddr else none
  grpcAddr := if .grpcAddr ∈ given then some v.grpcAddr else none
  handlerTimeout := if .handlerTimeout ∈ given then some v.handlerTimeout else none
  requestIdHeader := if .requestIdHeader ∈ given then some v.requestIdHeader else none
  logFormat := if .logFormat ∈ given then some v.logFormat else none
  logFilter := if .logFilter ∈ given then some v.logFilter else none

section

variable {v : Settings} {given others : List Setting} {s : Setting}

theorem Settings.supplied_congr (h : ∀ s, s ∈ given ↔ s ∈ others) :
    v.supplied given = v.supplied others := by
  simp only [supplied, h]

@[simp] theorem Settings.has_supplied : (v.supplied given).has s = decide (s ∈ given) := by
  cases s <;> simp only [supplied, Supplied.has] <;> split <;> simp [*]

theorem Settings.supply_text :
    (v.supplied given).supply s (v.text s) = .ok (v.supplied (s :: given)) := by
  cases s with
  | httpAddr =>
    simp only [Supplied.supply, text, Supplied.addressOf, SocketAddress.ofText?_text]
    simp [supplied, Except.map]
  | grpcAddr =>
    simp only [Supplied.supply, text, Supplied.addressOf, SocketAddress.ofText?_text]
    simp [supplied, Except.map]
  | handlerTimeout =>
    simp only [Supplied.supply, text, Decimal.text, String.toList_ofList, millisOf_digits]
    simp [supplied, Except.map]
  | requestIdHeader => simp [Supplied.supply, text, supplied]
  | logFormat =>
    simp only [Supplied.supply, text, LogFormat.ofText?_name]
    simp [supplied]
  | logFilter => simp [Supplied.supply, text, supplied]

theorem Settings.read_text :
    (v.supplied given).read s (v.text s) = .ok (v.supplied (s :: given)) := by
  rw [Supplied.read, supply_text]

theorem Settings.supplied_of_text {w : Settings} (h : v.text s = w.text s) :
    v.supplied [s] = w.supplied [s] := by
  have hv : (v.supplied []).read s (v.text s) = .ok (v.supplied [s]) := read_text
  have hw : (w.supplied []).read s (w.text s) = .ok (w.supplied [s]) := read_text
  rw [h] at hv
  exact Except.ok.inj (hv.symm.trans hw)

theorem Settings.settings_supplied
    (h : ∀ s, s ∉ given → v.text s = ({} : Settings).text s) :
    (v.supplied given).settings = v := by
  have filled {α : Type} (s : Setting) (field : Supplied → Option α) {x d : α}
      (hx : field (v.supplied [s]) = some x) (hd : field (({} : Settings).supplied [s]) = some d) :
      (if s ∈ given then some x else none).getD d = x := by
    split
    · rfl
    · rename_i hs
      rw [supplied_of_text (h s hs), hd] at hx
      exact Option.some.inj hx
  simp only [Supplied.settings, supplied]
  rw [filled .httpAddr (·.httpAddr) rfl rfl, filled .grpcAddr (·.grpcAddr) rfl rfl,
    filled .handlerTimeout (·.handlerTimeout) rfl rfl,
    filled .requestIdHeader (·.requestIdHeader) rfl rfl,
    filled .logFormat (·.logFormat) rfl rfl, filled .logFilter (·.logFilter) rfl rfl]

end

/-- The spellings of an option: its value stands behind an equals sign, or is the next argument. -/
inductive Spelling where
  | joined
  | spaced
deriving DecidableEq

namespace Spelling

def arguments (spelling : Spelling) (s : Setting) (text : String) : List String :=
  match spelling with
  | .joined => ["--" ++ s.name ++ "=" ++ text]
  | .spaced => ["--" ++ s.name, text]

/-- An argument that is a value alone must not begin as an option does. -/
def Fits (spelling : Spelling) (text : String) : Prop :=
  spelling = .joined ∨ text = "-" ∨ text.toList.head? ≠ some '-'

instance (spelling : Spelling) (text : String) : Decidable (spelling.Fits text) :=
  inferInstanceAs (Decidable (_ ∨ _ ∨ _))

end Spelling

def Settings.arguments (v : Settings) (given : List (Setting × Spelling)) : List String :=
  given.flatMap fun (s, spelling) => spelling.arguments s (v.text s)

theorem Argument.ofText_of_chars {text : String} {c : Char} {cs : List Char}
    (h : text.toList = '-' :: '-' :: c :: cs) :
    Argument.ofText text =
      match Fields.cut? '=' (c :: cs) with
      | some (name, value) => .long (String.ofList name) (some (String.ofList value))
      | none => .long (String.ofList (c :: cs)) none := by
  rw [ofText, h]
  rfl

theorem Argument.ofText_joined (s : Setting) (text : String) :
    Argument.ofText ("--" ++ s.name ++ "=" ++ text) = .long s.name (some text) := by
  have hname : '=' ∉ s.name.toList := by cases s <;> decide
  have hchars : ("--" ++ s.name ++ "=" ++ text).toList =
      '-' :: '-' :: (s.name.toList ++ '=' :: text.toList) := by
    simp only [String.toList_append, List.append_assoc]
    rfl
  obtain ⟨c, cs, hc⟩ := List.exists_cons_of_ne_nil
    (List.append_ne_nil_of_right_ne_nil s.name.toList (List.cons_ne_nil '=' text.toList))
  rw [hc] at hchars
  rw [ofText_of_chars hchars, ← hc, Fields.cut?_append hname]
  simp only [String.ofList_toList]

theorem Argument.ofText_flag (s : Setting) :
    Argument.ofText ("--" ++ s.name) = .long s.name none := by
  cases s <;> decide

theorem Argument.ofText_value {text : String} (h : Spelling.spaced.Fits text) :
    Argument.ofText text = .plain text := by
  rcases h with h | rfl | h
  · cases h
  · decide
  · have none (cs : List Char) : text.toList ≠ '-' :: cs := by
      intro he
      rw [he] at h
      exact h rfl
    rw [ofText]
    split
    · exact absurd ‹_› (none _)
    · exact absurd ‹_› (none _)
    · exact absurd ‹_› (none _)
    · rfl

namespace ArgumentReader

variable {r : ArgumentReader} {v : Settings} {done : List Setting} {s : Setting}
  {spelling : Spelling} {text name : String} {value : Option String}

theorem run_long (h : Argument.ofText text = .long name value) (rest : List String) :
    r.run (text :: rest) = (r.long name value).bind (·.run rest) := by
  rw [run.eq_def]
  dsimp only
  rw [h]
  rfl

theorem run_plain (h : Argument.ofText text = .plain text) (rest : List String) :
    r.run (text :: rest) = (r.plain text).bind (·.run rest) := by
  rw [run.eq_def]
  dsimp only
  rw [h]
  rfl

theorem take_text (h : s ∉ done) :
    take (v.supplied done) s (v.text s) = .ok (v.supplied (s :: done)) := by
  rw [take, Settings.has_supplied, if_neg (by simpa using h), Settings.read_text]

theorem long_flag (hr : r.settle = .ok (v.supplied done)) :
    r.long s.name none = .ok ⟨v.supplied done, some (s, none)⟩ := by
  rw [long, Setting.ofName?_name, hr]
  rfl

theorem long_text (hr : r.settle = .ok (v.supplied done)) (hs : s ∉ done) :
    r.long s.name (some (v.text s)) = .ok { supplied := v.supplied (s :: done) } := by
  rw [long, Setting.ofName?_name, hr]
  change (take (v.supplied done) s (v.text s)).bind _ = _
  rw [take_text hs]
  rfl

theorem run_option (hr : r.settle = .ok (v.supplied done)) (hs : s ∉ done)
    (hf : spelling.Fits (v.text s)) (rest : List String) :
    ∃ next : ArgumentReader, next.settle = .ok (v.supplied (s :: done)) ∧
      r.run (spelling.arguments s (v.text s) ++ rest) = next.run rest := by
  cases spelling with
  | joined =>
    refine ⟨{ supplied := v.supplied (s :: done) }, rfl, ?_⟩
    rw [Spelling.arguments, List.singleton_append, run_long (Argument.ofText_joined s _),
      long_text hr hs]
    rfl
  | spaced =>
    refine ⟨⟨v.supplied done, some (s, some (v.text s))⟩, take_text hs, ?_⟩
    rw [Spelling.arguments, List.cons_append, List.singleton_append,
      run_long (Argument.ofText_flag s), long_flag hr]
    exact run_plain (Argument.ofText_value hf) rest

theorem run_arguments {given : List (Setting × Spelling)}
    (hr : r.settle = .ok (v.supplied done)) (hn : (given.map Prod.fst).Nodup)
    (hd : ∀ s ∈ given.map Prod.fst, s ∉ done)
    (hf : ∀ option ∈ given, option.2.Fits (v.text option.1)) :
    r.run (v.arguments given) = .ok (v.supplied (given.map Prod.fst ++ done)) := by
  induction given generalizing r done with
  | nil => exact hr
  | cons option given ih =>
    obtain ⟨s, spelling⟩ := option
    rw [List.map_cons, List.nodup_cons] at hn
    have hs : s ∉ done := hd s List.mem_cons_self
    obtain ⟨next, hnext, hrun⟩ :=
      run_option hr hs (hf _ List.mem_cons_self) (v.arguments given)
    have hrest : ∀ t ∈ given.map Prod.fst, t ∉ s :: done := by
      intro t ht hts
      rcases List.mem_cons.1 hts with rfl | hts
      · exact hn.1 ht
      · exact hd t (List.mem_cons_of_mem s ht) hts
    have hread := ih hnext hn.2 hrest fun o ho => hf o (List.mem_cons_of_mem _ ho)
    refine hrun.trans (hread.trans (congrArg Except.ok (Settings.supplied_congr ?_)))
    intro t
    simp only [List.map_cons, List.cons_append, List.mem_append, List.mem_cons, or_left_comm]

end ArgumentReader

section

variable {env : Environment} {v : Settings} {given : List Setting} {s : Setting}

/-- What is known of a setting that no argument gives: its variable holds its text, or is not set,
and then the setting is at its default. -/
def Settings.Known (v : Settings) (env : Environment) (s : Setting) : Prop :=
  env.get? s.variableName = some (v.text s) ∨
    env.get? s.variableName = none ∧ v.text s = ({} : Settings).text s

instance (v : Settings) (env : Environment) (s : Setting) : Decidable (v.Known env s) :=
  inferInstanceAs (Decidable (_ ∨ _ ∧ _))

theorem Supplied.readVariable_known (he : s ∉ given → v.Known env s) :
    ∃ found, readVariable env (v.supplied given) s = .ok (v.supplied found) ∧
      (∀ t ∈ given, t ∈ found) ∧ (s ∉ found → v.text s = ({} : Settings).text s) := by
  rw [readVariable, Settings.has_supplied]
  by_cases hs : s ∈ given
  · rw [if_pos (decide_eq_true hs)]
    exact ⟨given, rfl, fun t ht => ht, fun h => absurd hs h⟩
  · rw [if_neg (by simpa using hs)]
    rcases he hs with hset | ⟨hunset, hdefault⟩
    · rw [hset]
      exact ⟨s :: given, Settings.read_text, fun t ht => List.mem_cons_of_mem s ht,
        fun h => absurd List.mem_cons_self h⟩
    · rw [hunset]
      exact ⟨given, rfl, fun t ht => ht, fun _ => hdefault⟩

theorem Supplied.read_variables (todo : List Setting) (he : ∀ s, s ∉ given → v.Known env s) :
    ∃ found, todo.foldlM (readVariable env) (v.supplied given) = .ok (v.supplied found) ∧
      (∀ s ∈ given, s ∈ found) ∧
      ∀ s ∈ todo, s ∉ found → v.text s = ({} : Settings).text s := by
  induction todo generalizing given with
  | nil => exact ⟨given, rfl, fun s hs => hs, fun s hs => absurd hs List.not_mem_nil⟩
  | cons s todo ih =>
    obtain ⟨next, hread, hnext, hs⟩ := readVariable_known (he s)
    obtain ⟨found, hfold, hfound, hrest⟩ := ih fun t ht => he t fun h => ht (hnext t h)
    refine ⟨found, ?_, fun t ht => hfound t (hnext t ht), ?_⟩
    · rw [List.foldlM_cons, hread]
      exact hfold
    · intro t ht hn
      rcases List.mem_cons.1 ht with rfl | ht
      · exact hs fun h => hn (hfound t h)
      · exact hrest t ht hn

theorem Settings.read_arguments {given : List (Setting × Spelling)}
    (hn : (given.map Prod.fst).Nodup)
    (hf : ∀ option ∈ given, option.2.Fits (v.text option.1))
    (he : ∀ s, s ∉ given.map Prod.fst → v.Known env s) :
    Settings.read env (v.arguments given) = .ok v := by
  have hempty : ({} : ArgumentReader).settle = .ok (v.supplied []) := rfl
  have hrun := ArgumentReader.run_arguments hempty hn (fun _ _ => List.not_mem_nil) hf
  rw [List.append_nil] at hrun
  obtain ⟨found, hfound, _, hrest⟩ := Supplied.read_variables Setting.all he
  rw [read, hrun]
  change (Setting.all.foldlM (Supplied.readVariable env) _).bind _ = _
  rw [hfound]
  exact congrArg Except.ok (settings_supplied fun s hs => hrest s s.mem_all hs)

end

/-- Texts that spell the name of a header: token characters, at least one and not too many. -/
def IsFieldName (text : String) : Prop :=
  text.toList ≠ [] ∧ text.toList.length ≤ 65535 ∧ text.toList.all isTokenChar = true

instance (text : String) : Decidable (IsFieldName text) :=
  inferInstanceAs (Decidable (_ ∧ _ ∧ _))

theorem toLower_token (c : Char) :
    isTokenChar c.toLower = isTokenChar c ∧ c.toLower.toLower = c.toLower := by
  have ascii : ∀ n < 128, isTokenChar (Char.ofNat n).toLower = isTokenChar (Char.ofNat n) ∧
      (Char.ofNat n).toLower.toLower = (Char.ofNat n).toLower := by decide +kernel
  by_cases hc : c.toNat < 128
  · have hlow := ascii c.toNat hc
    rwa [Char.ofNat_toNat] at hlow
  · have hsame : c.toLower = c := by
      refine dif_neg fun h => hc ?_
      exact Nat.lt_of_le_of_lt (UInt32.le_iff_toNat_le.1 h.2) (by decide)
    rw [hsame]
    exact ⟨rfl, hsame⟩

theorem isHeaderName_lower {text : String} :
    isHeaderName (text.toList.map Char.toLower) = true ↔ IsFieldName text := by
  simp only [isHeaderName, IsFieldName, Bool.and_eq_true, List.length_map, List.all_map,
    List.all_eq_true, decide_eq_true_eq, Function.comp_apply, toLower_token, and_true,
    Bool.not_eq_true', List.isEmpty_eq_false_iff, ne_eq, List.map_eq_nil_iff, and_assoc]

theorem HeaderName.ofText?_of_isFieldName {text : String} (h : IsFieldName text) :
    ∃ name, ofText? text = some name ∧
      name.text = String.ofList (text.toList.map Char.toLower) := by
  refine ⟨⟨String.ofList (text.toList.map Char.toLower), ?_⟩, ?_, rfl⟩
  · rw [String.toList_ofList]
    exact isHeaderName_lower.2 h
  · exact dif_pos _

theorem HeaderName.ofText?_eq_none {text : String} (h : ¬ IsFieldName text) :
    ofText? text = none := by
  refine dif_neg fun hn => h (isHeaderName_lower.1 ?_)
  rwa [String.toList_ofList] at hn

theorem ServerConfig.ofSettings_of_none {v : Settings}
    (h : HeaderName.ofText? v.requestIdHeader = none) :
    ofSettings v = .error (.invalidHeaderName v.requestIdHeader) := by
  unfold ofSettings
  rw [h]

theorem ServerConfig.ofSettings_of_some {v : Settings} {header : HeaderName}
    (h : HeaderName.ofText? v.requestIdHeader = some header) :
    ofSettings v =
      if v.httpAddr = v.grpcAddr ∧ v.httpAddr.port ≠ 0 then .error (.addressConflict v.httpAddr)
      else .ok
        { httpAddr := v.httpAddr
          grpcAddr := v.grpcAddr
          middleware := ⟨effectiveTimeout (Duration.ofMillis v.handlerTimeout), header⟩
          logging := ⟨v.logFormat, v.logFilter⟩ } := by
  unfold ofSettings
  rw [h]

theorem ServerConfig.middleware_of_ofSettings {settings : Settings} {config : ServerConfig}
    (h : ServerConfig.ofSettings settings = .ok config) :
    ∃ header, HeaderName.ofText? settings.requestIdHeader = some header ∧
      config.middleware =
        ⟨effectiveTimeout (Duration.ofMillis settings.handlerTimeout), header⟩ := by
  cases hh : HeaderName.ofText? settings.requestIdHeader with
  | none =>
    rw [ofSettings_of_none hh] at h
    cases h
  | some header =>
    rw [ofSettings_of_some hh] at h
    split at h
    · cases h
    · cases h
      exact ⟨header, rfl, rfl⟩

theorem nanos_effectiveTimeout (ms : UInt64) :
    (effectiveTimeout (Duration.ofMillis ms)).nanos =
      (if ms = 0 then 30000 else ms.toNat) * 1000000 := by
  rw [effectiveTimeout]
  by_cases h : ms = 0
  · rw [if_pos h, h]
    rfl
  · have hpos : ms.toNat ≠ 0 := fun h0 => h (UInt64.toNat_inj.1 h0)
    have hnanos : (Duration.ofMillis ms).nanos ≠ 0 := Nat.mul_ne_zero hpos (by decide)
    rw [if_neg h, if_neg hnanos, Duration.nanos_ofMillis]

theorem nanos_effectiveTimeout_le (ms : UInt64) :
    (effectiveTimeout (Duration.ofMillis ms)).nanos ≤ 18446744073709551615 * 1000000 := by
  rw [nanos_effectiveTimeout]
  apply Nat.mul_le_mul_right
  split
  · decide
  · exact Nat.le_of_lt_succ ms.toNat_lt

theorem nanos_effectiveTimeout_lt (ms : UInt64) :
    (effectiveTimeout (Duration.ofMillis ms)).nanos < Instant.limit :=
  Nat.lt_of_le_of_lt (nanos_effectiveTimeout_le ms) (by decide)

theorem Deadline.derive?_none_of_lt {now : Instant} {timeout : Duration}
    (h : now + timeout.nanos < Instant.limit) :
    derive? now none timeout = some ⟨now + timeout.nanos, timeout⟩ := by
  rw [derive?, alone?, Instant.after?_eq_some.2 ⟨rfl, h⟩]
  rfl

theorem Deadline.derive?_of_lt {now : Instant} {timeout : Duration}
    (h : now + timeout.nanos < Instant.limit) :
    ∃ deadline, derive? now none timeout = some deadline ∧
      deadline.expiresAt = now + timeout.nanos :=
  ⟨_, derive?_none_of_lt h, rfl⟩

/-- Settings are read as what they are from options in any order and spelling, from variables and
from defaults, and the answer depends on nothing else. -/
theorem config_decided_by_settings {env : Environment} {v : Settings}
    {given : List (Setting × Spelling)} (hn : (given.map Prod.fst).Nodup)
    (hf : ∀ option ∈ given, option.2.Fits (v.text option.1))
    (he : ∀ s, s ∉ given.map Prod.fst → v.Known env s) :
    Settings.read env (v.arguments given) = .ok v ∧
    (¬ IsFieldName v.requestIdHeader →
      ServerConfig.ofSettings v = .error (.invalidHeaderName v.requestIdHeader)) ∧
    (IsFieldName v.requestIdHeader → v.httpAddr = v.grpcAddr ∧ v.httpAddr.port ≠ 0 →
      ServerConfig.ofSettings v = .error (.addressConflict v.httpAddr)) ∧
    (IsFieldName v.requestIdHeader → ¬ (v.httpAddr = v.grpcAddr ∧ v.httpAddr.port ≠ 0) →
      ∃ config, ServerConfig.ofSettings v = .ok config ∧
        config.httpAddr = v.httpAddr ∧ config.grpcAddr = v.grpcAddr ∧
        config.logging.format = v.logFormat ∧ config.logging.filter = v.logFilter ∧
        config.middleware.requestIdHeader.text =
          String.ofList (v.requestIdHeader.toList.map Char.toLower) ∧
        config.middleware.handlerTimeout.nanos =
          (if v.handlerTimeout = 0 then 30000 else v.handlerTimeout.toNat) * 1000000) := by
  refine ⟨Settings.read_arguments hn hf he, ?_, ?_, ?_⟩
  · intro hname
    exact ServerConfig.ofSettings_of_none (HeaderName.ofText?_eq_none hname)
  · intro hname hshared
    obtain ⟨name, hn, _⟩ := HeaderName.ofText?_of_isFieldName hname
    rw [ServerConfig.ofSettings_of_some hn, if_pos hshared]
  · intro hname hshared
    obtain ⟨name, hn, ht⟩ := HeaderName.ofText?_of_isFieldName hname
    rw [ServerConfig.ofSettings_of_some hn, if_neg hshared]
    exact ⟨_, rfl, rfl, rfl, rfl, rfl, ht, nanos_effectiveTimeout _⟩

theorem config_decided_by_settings_of_four :
    let v : Settings :=
      { httpAddr := .v6 ⟨[0x2001, 0xdb8, 0, 0, 0, 0, 0, 1], rfl⟩ 8443 7
        handlerTimeout := 1500
        requestIdHeader := "X-Trace-Id"
        logFormat := .json
        logFilter := "-" }
    let given : List (Setting × Spelling) :=
      [(.logFilter, .spaced), (.httpAddr, .spaced), (.requestIdHeader, .joined),
        (.logFormat, .spaced)]
    let env : Environment :=
      [("COURIER_HANDLER_TIMEOUT_MS", "1500"), ("COURIER_HTTP_ADDR", "nowhere")]
    v.arguments given = ["--log-filter", "-", "--http-addr", "[2001:db8::1%7]:8443",
      "--request-id-header=X-Trace-Id", "--log-format", "json"] ∧
    (given.map Prod.fst).Nodup ∧
    (∀ option ∈ given, option.2.Fits (v.text option.1)) ∧
    (∀ s, s ∉ given.map Prod.fst → v.Known env s) ∧
    Settings.read env (v.arguments given) = .ok v ∧
    ∃ config, ServerConfig.ofSettings v = .ok config ∧
      config.middleware.requestIdHeader.text = "x-trace-id" := by
  intro v given env
  have hn : (given.map Prod.fst).Nodup := by decide
  have hf : ∀ option ∈ given, option.2.Fits (v.text option.1) := by decide +kernel
  have he : ∀ s, s ∉ given.map Prod.fst → v.Known env s := by
    intro s
    cases s <;> decide +kernel
  obtain ⟨hread, _, _, haccepted⟩ := config_decided_by_settings hn hf he
  have hname : IsFieldName v.requestIdHeader := by decide
  have hshared : ¬ (v.httpAddr = v.grpcAddr ∧ v.httpAddr.port ≠ 0) :=
    fun h => SocketAddress.noConfusion h.1
  obtain ⟨config, hc, _, _, _, _, ht, _⟩ := haccepted hname hshared
  exact ⟨by decide +kernel, hn, hf, he, hread, config, hc, ht.trans (by decide)⟩

end Gatehouse
