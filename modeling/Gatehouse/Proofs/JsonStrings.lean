import Gatehouse.Proofs.Utf8
import Gatehouse.RequestId
import Gatehouse.Text.Decimal
import Gatehouse.Text.Fields

/-!
JSON strings against their format: a row of pieces, each a character or a code unit, which means a
text if its surrogates come in pairs. The ID of a request goes to JSON and back by them.
-/
namespace Gatehouse.JsonString

def shortEscapes : List (Char × Char) :=
  [('"', '"'), ('\\', '\\'), ('/', '/'), ('b', '\x08'), ('f', '\x0c'), ('n', '\n'), ('r', '\r'),
    ('t', '\t')]

/-- One piece of a string and a way to write it: a character as it is, unless it has to be escaped;
a character by its short escape; or a code unit by four hexadecimal digits. -/
inductive Token : List Char → Piece → Prop
  | plain {c : Char} (hq : c ≠ '"') (hb : c ≠ '\\') (hc : 0x20 ≤ c.toNat) : Token [c] (.char c)
  | short {e c : Char} (h : (e, c) ∈ shortEscapes) : Token ['\\', e] (.char c)
  | unit {digits : List Char} {u : Nat} (hl : digits.length = 4)
      (hu : Hex.readFrom 0 digits = some u) : Token ('\\' :: 'u' :: digits) (.unit u)

inductive Written : List Char → List Piece → Prop
  | nil : Written [] []
  | cons {token body : List Char} {p : Piece} {ps : List Piece} (ht : Token token p)
      (hb : Written body ps) : Written (token ++ body) (p :: ps)

/-- The text that pieces stand for. A code unit stands for the character of that number, and a high
and a low surrogate in a row stand for one character beyond the first 65536. -/
inductive Means : List Piece → List Char → Prop
  | nil : Means [] []
  | char {c : Char} {ps : List Piece} {cs : List Char} (h : Means ps cs) :
      Means (.char c :: ps) (c :: cs)
  | unit {c : Char} {ps : List Piece} {cs : List Char} (h : Means ps cs) :
      Means (.unit c.toNat :: ps) (c :: cs)
  | pair {high low : Nat} {c : Char} {ps : List Piece} {cs : List Char}
      (hh : isHighSurrogate high = true) (hl : isLowSurrogate low = true)
      (hc : c.toNat = 0x10000 + (high - 0xD800) * 0x400 + (low - 0xDC00)) (h : Means ps cs) :
      Means (.unit high :: .unit low :: ps) (c :: cs)

/-- A code unit between other pieces that is a surrogate without its partner. -/
def Alone (before : List Piece) (u : Nat) (after : List Piece) : Prop :=
  isHighSurrogate u = true ∧ (∀ v, after.head? = some (.unit v) → isLowSurrogate v = false) ∨
    isLowSurrogate u = true ∧ ∀ v, before.getLast? = some (.unit v) → isHighSurrogate v = false

def Unpaired (ps : List Piece) : Prop :=
  ∃ before u after, ps = before ++ .unit u :: after ∧ Alone before u after

def enclosed (lead body trail : List Char) : List Char := lead ++ '"' :: (body ++ '"' :: trail)

theorem low_eq_false_of_high {u : Nat} (h : isHighSurrogate u = true) :
    isLowSurrogate u = false := by
  simp only [isHighSurrogate, isLowSurrogate, Bool.and_eq_true, decide_eq_true_eq,
    Bool.and_eq_false_iff, decide_eq_false_iff_not] at h ⊢
  omega

theorem high_eq_false_of_low {u : Nat} (h : isLowSurrogate u = true) :
    isHighSurrogate u = false := by
  apply Bool.eq_false_iff.2
  intro hh
  rw [low_eq_false_of_high hh] at h
  cases h

theorem isHighSurrogate_toNat (c : Char) : isHighSurrogate c.toNat = false := by
  have hv : c.toNat < 0xD800 ∨ 0xDFFF < c.toNat ∧ c.toNat < 0x110000 := c.valid
  simp only [isHighSurrogate, Bool.and_eq_false_iff, decide_eq_false_iff_not]
  omega

theorem isLowSurrogate_toNat (c : Char) : isLowSurrogate c.toNat = false := by
  have hv : c.toNat < 0xD800 ∨ 0xDFFF < c.toNat ∧ c.toNat < 0x110000 := c.valid
  simp only [isLowSurrogate, Bool.and_eq_false_iff, decide_eq_false_iff_not]
  omega

theorem toNat_ofNat_of_unit {u : Nat} (hh : isHighSurrogate u = false)
    (hl : isLowSurrogate u = false) (hb : u < 0x10000) : (Char.ofNat u).toNat = u := by
  simp only [isHighSurrogate, isLowSurrogate, Bool.and_eq_false_iff,
    decide_eq_false_iff_not] at hh hl
  exact Utf8.toNat_ofNat_of_valid (by omega)

theorem toNat_pairChar {high low : Nat} (hh : isHighSurrogate high = true)
    (hl : isLowSurrogate low = true) :
    (pairChar high low).toNat = 0x10000 + (high - 0xD800) * 0x400 + (low - 0xDC00) := by
  simp only [isHighSurrogate, isLowSurrogate, Bool.and_eq_true, decide_eq_true_eq] at hh hl
  exact Utf8.toNat_ofNat_of_valid (by omega)

variable {u v : Nat} {ps : List Piece}

theorem join?_of_not_high (hh : isHighSurrogate u = false) (ps : List Piece) :
    join? (.unit u :: ps) =
      if isLowSurrogate u then none else (join? ps).map (Char.ofNat u :: ·) := by
  rw [join?.eq_def]
  split
  · rename_i h; cases h
  · rename_i h; cases h
  · rename_i h
    cases h
    rw [hh]
    rfl
  · rename_i h
    cases h
    rw [hh]
    rfl

theorem join?_unit (hh : isHighSurrogate u = false) (hl : isLowSurrogate u = false)
    (ps : List Piece) : join? (.unit u :: ps) = (join? ps).map (Char.ofNat u :: ·) := by
  rw [join?_of_not_high hh, hl]
  rfl

theorem join?_low (hl : isLowSurrogate u = true) (ps : List Piece) :
    join? (.unit u :: ps) = none := by
  rw [join?_of_not_high (high_eq_false_of_low hl), hl]
  rfl

theorem join?_pair (hh : isHighSurrogate u = true) (hl : isLowSurrogate v = true)
    (ps : List Piece) :
    join? (.unit u :: .unit v :: ps) = (join? ps).map (pairChar u v :: ·) := by
  rw [join?, if_pos hh, if_pos hl]

theorem join?_high (hh : isHighSurrogate u = true)
    (ha : ∀ v, ps.head? = some (.unit v) → isLowSurrogate v = false) :
    join? (.unit u :: ps) = none := by
  rw [join?.eq_def]
  split
  · rename_i h; cases h
  · rename_i h; cases h
  · rename_i h
    cases h
    rw [if_pos hh, ha _ rfl]
    rfl
  · rename_i h
    cases h
    rw [hh]
    rfl

/-- Pieces taken as they are joined: surrogates in pairs, all others one by one, up to a surrogate
without its partner. -/
theorem pieces_induction {motive : List Piece → Prop} (nil : motive [])
    (char : ∀ c ps, motive ps → motive (.char c :: ps))
    (unit : ∀ u ps, isHighSurrogate u = false → isLowSurrogate u = false → motive ps →
      motive (.unit u :: ps))
    (pair : ∀ u v ps, isHighSurrogate u = true → isLowSurrogate v = true → motive ps →
      motive (.unit u :: .unit v :: ps))
    (high : ∀ u ps, isHighSurrogate u = true →
      (∀ v, ps.head? = some (.unit v) → isLowSurrogate v = false) → motive (.unit u :: ps))
    (low : ∀ u ps, isLowSurrogate u = true → motive (.unit u :: ps)) (ps : List Piece) :
    motive ps := by
  induction ps using join?.induct with
  | case1 => exact nil
  | case2 c ps ih => exact char c ps ih
  | case3 u v ps hh hl ih => exact pair u v ps hh hl ih
  | case4 u v ps hh hl =>
    refine high u _ hh fun w hw => ?_
    cases hw
    exact Bool.eq_false_iff.2 hl
  | case5 u v ps hh hl => exact low u _ hl
  | case6 u v ps hh hl ih =>
    exact unit u _ (Bool.eq_false_iff.2 hh) (Bool.eq_false_iff.2 hl) ih
  | case7 u ps hn hs =>
    rcases Bool.or_eq_true_iff.1 hs with hh | hl
    · refine high u ps hh fun v hv => ?_
      obtain ⟨rest, rfl⟩ := List.head?_eq_some_iff.1 hv
      exact absurd rfl (hn v rest)
    · exact low u ps hl
  | case8 u ps _ hs ih =>
    obtain ⟨hh, hl⟩ := Bool.or_eq_false_iff.1 (Bool.eq_false_iff.2 hs)
    exact unit u ps hh hl ih

theorem join?_of_means {cs : List Char} (h : Means ps cs) : join? ps = some cs := by
  induction h with
  | nil => rfl
  | char _ ih => rw [join?, ih]; rfl
  | @unit c ps cs _ ih =>
    rw [join?_unit (isHighSurrogate_toNat c) (isLowSurrogate_toNat c), ih, Char.ofNat_toNat]
    rfl
  | @pair high low c ps cs hh hl hc _ ih =>
    have hp : pairChar high low = c := Char.toNat_inj.1 ((toNat_pairChar hh hl).trans hc.symm)
    rw [join?_pair hh hl, ih, hp]
    rfl

theorem means_of_join? {cs : List Char} (hb : ∀ u, .unit u ∈ ps → u < 0x10000)
    (h : join? ps = some cs) : Means ps cs := by
  have rest {c : Char} {ps : List Piece} {cs : List Char}
      (h : (join? ps).map (c :: ·) = some cs) : ∃ ds, join? ps = some ds ∧ cs = c :: ds := by
    obtain ⟨ds, hd, rfl⟩ := Option.map_eq_some_iff.1 h
    exact ⟨ds, hd, rfl⟩
  induction ps using pieces_induction generalizing cs with
  | nil =>
    cases h
    exact .nil
  | char c ps ih =>
    obtain ⟨ds, hd, rfl⟩ := rest h
    exact .char (ih (fun u hu => hb u (List.mem_cons_of_mem _ hu)) hd)
  | unit u ps hh hl ih =>
    rw [join?_unit hh hl] at h
    obtain ⟨ds, hd, rfl⟩ := rest h
    have hm := Means.unit (c := Char.ofNat u) (ih (fun v hv => hb v (List.mem_cons_of_mem _ hv)) hd)
    rwa [toNat_ofNat_of_unit hh hl (hb u List.mem_cons_self)] at hm
  | pair u v ps hh hl ih =>
    rw [join?_pair hh hl] at h
    obtain ⟨ds, hd, rfl⟩ := rest h
    have hm := ih (fun w hw => hb w (List.mem_cons_of_mem _ (List.mem_cons_of_mem _ hw))) hd
    exact .pair hh hl (toNat_pairChar hh hl) hm
  | high u ps hh ha =>
    rw [join?_high hh ha] at h
    cases h
  | low u ps hl =>
    rw [join?_low hl] at h
    cases h

theorem alone_cons {p : Piece} {before after : List Piece}
    (hp : ∀ w, p = .unit w → isHighSurrogate w = false) :
    Alone (p :: before) u after ↔ Alone before u after := by
  rw [Alone, Alone, List.getLast?_cons]
  cases before.getLast? with
  | some q => exact Iff.rfl
  | none =>
    refine or_congr_right (and_congr_right fun _ => iff_of_true (fun v hv => ?_) fun v hv => ?_)
    · exact hp v (Option.some.inj hv)
    · cases hv

theorem unpaired_cons {p : Piece}
    (hp : ∀ w, p = .unit w → isHighSurrogate w = false ∧ isLowSurrogate w = false) :
    Unpaired (p :: ps) ↔ Unpaired ps := by
  have hh : ∀ w, p = .unit w → isHighSurrogate w = false := fun w hw => (hp w hw).1
  constructor
  · rintro ⟨before, u, after, he, ha⟩
    cases before with
    | nil =>
      obtain ⟨rfl, rfl⟩ := List.cons.inj he
      obtain ⟨hu, hl⟩ := hp u rfl
      rcases ha with ⟨ha, _⟩ | ⟨ha, _⟩
      · rw [hu] at ha
        cases ha
      · rw [hl] at ha
        cases ha
    | cons q before =>
      obtain ⟨rfl, rfl⟩ := List.cons.inj he
      exact ⟨before, u, after, rfl, (alone_cons hh).1 ha⟩
  · rintro ⟨before, u, after, rfl, ha⟩
    exact ⟨p :: before, u, after, rfl, (alone_cons hh).2 ha⟩

theorem unpaired_pair (hh : isHighSurrogate u = true) (hl : isLowSurrogate v = true) :
    Unpaired (.unit u :: .unit v :: ps) ↔ Unpaired ps := by
  have hul : isLowSurrogate u = false := low_eq_false_of_high hh
  have hvh : isHighSurrogate v = false := high_eq_false_of_low hl
  have hv : ∀ w, Piece.unit v = .unit w → isHighSurrogate w = false := by
    rintro w ⟨⟩
    exact hvh
  have drop {before after : List Piece} {w : Nat} :
      Alone (.unit u :: .unit v :: before) w after ↔ Alone before w after :=
    Iff.trans (by rw [Alone, Alone, List.getLast?_cons_cons]) (alone_cons hv)
  constructor
  · rintro ⟨before, w, after, he, ha⟩
    cases before with
    | nil =>
      cases he
      rcases ha with ⟨_, ha⟩ | ⟨ha, _⟩
      · rw [ha v rfl] at hl
        cases hl
      · rw [hul] at ha
        cases ha
    | cons q before =>
      obtain ⟨rfl, hr⟩ := List.cons.inj he
      cases before with
      | nil =>
        cases hr
        rcases ha with ⟨ha, _⟩ | ⟨_, ha⟩
        · rw [hvh] at ha
          cases ha
        · rw [ha u rfl] at hh
          cases hh
      | cons r before =>
        obtain ⟨rfl, rfl⟩ := List.cons.inj hr
        exact ⟨before, w, after, rfl, drop.1 ha⟩
  · rintro ⟨before, w, after, rfl, ha⟩
    exact ⟨.unit u :: .unit v :: before, w, after, rfl, drop.2 ha⟩

theorem join?_eq_none_iff : join? ps = none ↔ Unpaired ps := by
  induction ps using pieces_induction with
  | nil =>
    refine iff_of_false (Option.some_ne_none _) ?_
    rintro ⟨before, u, after, he, _⟩
    exact absurd he.symm (List.append_ne_nil_of_right_ne_nil _ (List.cons_ne_nil _ _))
  | char c ps ih =>
    rw [join?, Option.map_eq_none_iff, ih]
    exact (unpaired_cons fun w hw => by cases hw).symm
  | unit u ps hh hl ih =>
    rw [join?_unit hh hl, Option.map_eq_none_iff, ih, unpaired_cons]
    rintro w ⟨⟩
    exact ⟨hh, hl⟩
  | pair u v ps hh hl ih =>
    rw [join?_pair hh hl, Option.map_eq_none_iff, ih, unpaired_pair hh hl]
  | high u ps hh ha => exact iff_of_true (join?_high hh ha) ⟨[], u, ps, rfl, .inl ⟨hh, ha⟩⟩
  | low u ps hl =>
    refine iff_of_true (join?_low hl ps) ⟨[], u, ps, rfl, .inr ⟨hl, fun v hv => ?_⟩⟩
    cases hv

theorem short?_iff {e c : Char} : short? e = some c ↔ (e, c) ∈ shortEscapes := by
  simp only [short?, shortEscapes, List.mem_cons, Prod.mk.injEq, List.not_mem_nil, or_false]
  grind

theorem unit?_eq (a b c d : Char) : unit? a b c d = Hex.readFrom 0 [a, b, c, d] := by
  simp only [unit?, Hex.readFrom]
  cases Hex.value? a with
  | none => rfl
  | some w =>
    cases Hex.value? b with
    | none => rfl
    | some x =>
      cases Hex.value? c with
      | none => rfl
      | some y =>
        cases Hex.value? d with
        | none => rfl
        | some z =>
          refine congrArg some ?_
          omega

theorem pieces?_token {token : List Char} {p : Piece} (h : Token token p) (rest : List Char) :
    pieces? (token ++ rest) = (pieces? rest).map fun (ps, after) => (p :: ps, after) := by
  cases h with
  | @plain c hq hb hc =>
    have hraw : (decide (c = '\\') || decide (c.toNat < 0x20)) = false := by
      rw [decide_eq_false hb, decide_eq_false (Nat.not_lt_of_le hc)]
      rfl
    rw [List.singleton_append, pieces?]
    · rw [hraw]
      cases pieces? rest <;> rfl
    · exact hq
    · exact fun _ _ _ _ _ h => absurd h hb
    · exact fun _ _ h => absurd h hb
  | @short e c h =>
    have hs := short?_iff.2 h
    rw [List.cons_append, List.singleton_append, pieces?]
    · rw [hs]
      cases pieces? rest <;> rfl
    · rintro a b c d rest rfl
      cases hs
  | @unit digits u hl hu =>
    obtain ⟨a, b, c, d, rfl⟩ : ∃ a b c d, digits = [a, b, c, d] := by
      match digits, hl with
      | [a, b, c, d], _ => exact ⟨a, b, c, d, rfl⟩
    change pieces? ('\\' :: 'u' :: a :: b :: c :: d :: rest) = _
    rw [pieces?, unit?_eq, hu]
    cases pieces? rest <;> rfl

theorem pieces?_written {body : List Char} (h : Written body ps) (after : List Char) :
    pieces? (body ++ '"' :: after) = some (ps, after) := by
  induction h with
  | nil => rfl
  | cons ht _ ih =>
    rw [List.append_assoc, pieces?_token ht, ih]
    rfl

theorem written_of_pieces? {text after : List Char} (h : pieces? text = some (ps, after)) :
    ∃ body, text = body ++ '"' :: after ∧ Written body ps := by
  have next {p : Piece} {token rest : List Char} {ps : List Piece} (ht : Token token p)
      (h : (pieces? rest).bind (fun (ps, after) => some (p :: ps, after)) = some (ps, after))
      (ih : ∀ {ps}, pieces? rest = some (ps, after) →
        ∃ body, rest = body ++ '"' :: after ∧ Written body ps) :
      ∃ body, token ++ rest = body ++ '"' :: after ∧ Written body ps := by
    obtain ⟨⟨qs, behind⟩, hr, he⟩ := Option.bind_eq_some_iff.1 h
    cases he
    obtain ⟨body, rfl, hb⟩ := ih hr
    exact ⟨token ++ body, (List.append_assoc _ _ _).symm, .cons ht hb⟩
  induction text using pieces?.induct generalizing ps with
  | case1 => cases h
  | case2 rest =>
    cases h
    exact ⟨[], rfl, .nil⟩
  | case3 a b c d rest ih =>
    rw [pieces?] at h
    obtain ⟨u, hu, h⟩ := Option.bind_eq_some_iff.1 h
    rw [unit?_eq] at hu
    exact next (.unit rfl hu) h ih
  | case4 e rest hn ih =>
    rw [pieces?] at h
    · obtain ⟨c, hc, h⟩ := Option.bind_eq_some_iff.1 h
      exact next (.short (short?_iff.1 hc)) h ih
    · exact hn
  | case5 c rest hq hu hb hraw =>
    rw [pieces?, if_pos hraw] at h
    · cases h
    · exact hq
    · exact hu
    · exact hb
  | case6 c rest hq hu hb hraw ih =>
    rw [pieces?, if_neg hraw] at h
    · obtain ⟨hs, hc⟩ := Bool.or_eq_false_iff.1 (Bool.eq_false_iff.2 hraw)
      have hc := Nat.le_of_not_lt (of_decide_eq_false hc)
      exact next (.plain hq (of_decide_eq_false hs) hc) h ih
    · exact hq
    · exact hu
    · exact hb

/-- A text is one JSON string of these pieces: a quote, the pieces, a quote, and blanks around. -/
def Holds (text : List Char) (ps : List Piece) : Prop :=
  ∃ lead body trail, lead.all isBlank = true ∧ trail.all isBlank = true ∧
    text = enclosed lead body trail ∧ Written body ps

theorem decode?_enclosed {lead body : List Char} (hl : lead.all isBlank = true)
    (hw : Written body ps) (trail : List Char) :
    decode? (enclosed lead body trail) = if trail.all isBlank then join? ps else none := by
  have hd : (enclosed lead body trail).dropWhile isBlank = '"' :: (body ++ '"' :: trail) := by
    rw [enclosed, List.dropWhile_append_of_pos (List.all_eq_true.1 hl)]
    rfl
  rw [decode?, hd]
  simp only [pieces?_written hw]
  rfl

theorem decode?_of_holds {text : List Char} (h : Holds text ps) : decode? text = join? ps := by
  obtain ⟨lead, body, trail, hl, ht, rfl, hw⟩ := h
  rw [decode?_enclosed hl hw, if_pos ht]

theorem holds_of_decode? {text cs : List Char} (h : decode? text = some cs) :
    ∃ ps, Holds text ps ∧ join? ps = some cs := by
  rw [decode?] at h
  split at h
  · rename_i rest hd
    obtain ⟨⟨ps, trail⟩, hp, h⟩ := Option.bind_eq_some_iff.1 h
    obtain ⟨ht, hj⟩ := Option.ite_none_right_eq_some.1 h
    obtain ⟨body, rfl, hw⟩ := written_of_pieces? hp
    refine ⟨ps, ⟨text.takeWhile isBlank, body, trail, ?_, ht, ?_, hw⟩, hj⟩
    · exact List.all_takeWhile
    · rw [enclosed, ← hd, List.takeWhile_append_dropWhile]
  · cases h

theorem lt_of_token {token : List Char} (h : Token token (.unit u)) : u < 0x10000 := by
  cases h with
  | unit hl hu =>
    have hlt := Hex.readFrom_lt hu
    rwa [hl] at hlt

theorem lt_of_written {body : List Char} (h : Written body ps) : .unit u ∈ ps → u < 0x10000 := by
  induction h with
  | nil => exact fun hu => absurd hu List.not_mem_nil
  | cons ht _ ih =>
    intro hu
    rcases List.mem_cons.1 hu with rfl | hu
    · exact lt_of_token ht
    · exact ih hu

theorem decode?_eq_some_iff {text cs : List Char} :
    decode? text = some cs ↔ ∃ ps, Holds text ps ∧ Means ps cs := by
  constructor
  · intro h
    obtain ⟨ps, hh, hj⟩ := holds_of_decode? h
    obtain ⟨_, _, _, _, _, _, hw⟩ := id hh
    exact ⟨ps, hh, means_of_join? (fun _ => lt_of_written hw) hj⟩
  · rintro ⟨ps, hh, hm⟩
    rw [decode?_of_holds hh, join?_of_means hm]

theorem decode?_eq_none_iff {text : List Char} :
    decode? text = none ↔ ∀ ps, Holds text ps → Unpaired ps := by
  constructor
  · intro h ps hh
    rw [decode?_of_holds hh] at h
    exact join?_eq_none_iff.1 h
  · intro h
    cases hd : decode? text with
    | none => rfl
    | some cs =>
      obtain ⟨ps, hh, hj⟩ := holds_of_decode? hd
      rw [join?_eq_none_iff.2 (h ps hh)] at hj
      cases hj

/-- A quote is no blank, so what a string holds can be told from the blanks around it. -/
theorem body_of_enclosed {lead body trail lead' body' trail' : List Char}
    (hl : lead.all isBlank = true) (ht : trail.all isBlank = true)
    (hl' : lead'.all isBlank = true) (ht' : trail'.all isBlank = true)
    (h : enclosed lead body trail = enclosed lead' body' trail') : body = body' := by
  have quote {cs : List Char} (h : cs.all isBlank = true) : '"' ∉ cs := by
    intro hq
    have hb := List.all_eq_true.1 h _ hq
    revert hb
    decide
  have quote_reverse {cs : List Char} (h : cs.all isBlank = true) : '"' ∉ cs.reverse :=
    fun hq => quote h (List.mem_reverse.1 hq)
  have cut {a b a' b' : List Char} (ha : '"' ∉ a) (ha' : '"' ∉ a')
      (h : a ++ '"' :: b = a' ++ '"' :: b') : b = b' := by
    have hc := Fields.cut?_append ha b
    rw [h, Fields.cut?_append ha'] at hc
    exact (Prod.ext_iff.1 (Option.some.inj hc)).2.symm
  have hr := congrArg List.reverse (cut (quote hl) (quote hl') h)
  simp only [List.reverse_append, List.reverse_cons, List.append_assoc,
    List.singleton_append] at hr
  exact List.reverse_inj.1 (cut (quote_reverse ht) (quote_reverse ht') hr)

theorem toNat_ge_of_token {token : List Char} {p : Piece} (h : Token token p) :
    ∀ c ∈ token, 0x20 ≤ c.toNat := by
  cases h with
  | plain _ _ hc =>
    intro d hd
    rwa [List.mem_singleton.1 hd]
  | @short e c h =>
    have all : ∀ e ∈ shortEscapes, 0x20 ≤ e.1.toNat := by decide
    intro d hd
    rcases List.mem_cons.1 hd with rfl | hd
    · decide
    · rw [List.mem_singleton.1 hd]
      exact all _ h
  | unit _ hu =>
    intro d hd
    rcases List.mem_cons.1 hd with rfl | hd
    · decide
    rcases List.mem_cons.1 hd with rfl | hd
    · decide
    obtain ⟨v, hv⟩ := Option.isSome_iff_exists.1 (Hex.value?_of_readFrom hu hd)
    exact Nat.le_trans (by decide) (Hex.bounds_of_value? hv).2

theorem toNat_ge_of_written {body : List Char} (h : Written body ps) :
    ∀ c ∈ body, 0x20 ≤ c.toNat := by
  induction h with
  | nil => exact fun c hc => absurd hc List.not_mem_nil
  | cons ht _ ih =>
    intro c hc
    rcases List.mem_append.1 hc with hc | hc
    · exact toNat_ge_of_token ht c hc
    · exact ih c hc

theorem decode?_of_raw_control {lead body trail : List Char} (hl : lead.all isBlank = true)
    (ht : trail.all isBlank = true) {c : Char} (hc : c ∈ body) (hraw : c.toNat < 0x20) :
    decode? (enclosed lead body trail) = none := by
  rw [decode?_eq_none_iff]
  rintro ps ⟨lead', body', trail', hl', ht', he, hw⟩
  obtain rfl := body_of_enclosed hl ht hl' ht' he
  exact absurd (toNat_ge_of_written hw c hc) (Nat.not_le_of_lt hraw)

theorem escape_cases (c : Char) :
    (∃ e, (e, c) ∈ shortEscapes ∧ e ≠ '/' ∧ escape c = ['\\', e]) ∨
    (c.toNat < 0x20 ∧ escape c = '\\' :: 'u' :: Hex.fixed 4 c.toNat) ∨
    (c ≠ '"' ∧ c ≠ '\\' ∧ 0x20 ≤ c.toNat ∧ escape c = [c]) := by
  have short {e d : Char} (hc : c = d) (h : (e, d) ∈ shortEscapes) (hs : e ≠ '/') :
      ∃ x, (x, c) ∈ shortEscapes ∧ x ≠ '/' ∧ ['\\', e] = ['\\', x] := ⟨e, hc ▸ h, hs, rfl⟩
  fun_cases escape c with
  | case1 h => exact .inl (short h (by decide) (by decide))
  | case2 _ h => exact .inl (short h (by decide) (by decide))
  | case3 _ _ h => exact .inl (short h (by decide) (by decide))
  | case4 _ _ _ h => exact .inl (short h (by decide) (by decide))
  | case5 _ _ _ _ h => exact .inl (short h (by decide) (by decide))
  | case6 _ _ _ _ _ h => exact .inl (short h (by decide) (by decide))
  | case7 _ _ _ _ _ _ h => exact .inl (short h (by decide) (by decide))
  | case8 _ _ _ _ _ _ _ hc => exact .inr (.inl ⟨hc, rfl⟩)
  | case9 hq hb _ _ _ _ _ hc => exact .inr (.inr ⟨hq, hb, Nat.le_of_not_lt hc, rfl⟩)

theorem exists_token_escape (c : Char) :
    ∃ p, Token (escape c) p ∧ ∀ {ps cs}, Means ps cs → Means (p :: ps) (c :: cs) := by
  rcases escape_cases c with ⟨e, he, _, ht⟩ | ⟨hc, ht⟩ | ⟨hq, hb, hc, ht⟩
  · exact ⟨.char c, ht ▸ .short he, .char⟩
  · refine ⟨.unit c.toNat, ht ▸ .unit rfl ?_, .unit⟩
    rw [Hex.readFrom_fixed, Nat.mod_eq_of_lt (Nat.lt_trans hc (by decide)), Nat.mul_zero,
      Nat.zero_add]
  · exact ⟨.char c, ht ▸ .plain hq hb hc, .char⟩

theorem exists_written_escape (cs : List Char) :
    ∃ ps, Written (cs.flatMap escape) ps ∧ Means ps cs := by
  induction cs with
  | nil => exact ⟨[], .nil, .nil⟩
  | cons c cs ih =>
    obtain ⟨p, ht, hp⟩ := exists_token_escape c
    obtain ⟨ps, hw, hm⟩ := ih
    exact ⟨p :: ps, List.flatMap_cons ▸ .cons ht hw, hp hm⟩

theorem length_escape_le {token : List Char} {c : Char}
    (h : Token token (.char c) ∨ ∃ u, Token token (.unit u)) :
    (escape c).length ≤ token.length := by
  have short : ∀ e ∈ shortEscapes,
      (escape e.2).length ≤ 2 ∧ (e.1 ≠ '/' → e.2 = '"' ∨ e.2 = '\\' ∨ e.2.toNat < 0x20) := by
    decide
  rcases h with h | ⟨u, h⟩
  · cases h with
    | plain hq hb hc =>
      rcases escape_cases c with ⟨e, he, hs, _⟩ | ⟨hlt, _⟩ | ⟨_, _, _, ht⟩
      · rcases (short _ he).2 hs with heq | heq | hlt
        · exact absurd heq hq
        · exact absurd heq hb
        · exact absurd hlt (Nat.not_lt_of_le hc)
      · exact absurd hlt (Nat.not_lt_of_le hc)
      · exact Nat.le_of_eq (congrArg List.length ht)
    | short he => exact (short _ he).1
  · cases h with
    | unit hl _ =>
      rw [List.length_cons, List.length_cons, hl]
      rcases escape_cases c with ⟨e, _, _, ht⟩ | ⟨_, ht⟩ | ⟨_, _, _, ht⟩
      · exact ht ▸ Nat.le_add_left 2 4
      · exact Nat.le_of_eq (congrArg List.length ht)
      · exact ht ▸ Nat.le_add_left 1 5

theorem length_le_of_written {body cs : List Char} (hw : Written body ps) (hm : Means ps cs) :
    (cs.flatMap escape).length ≤ body.length := by
  induction hm generalizing body with
  | nil => exact Nat.zero_le _
  | char _ ih =>
    cases hw with
    | cons ht hw =>
      rw [List.flatMap_cons, List.length_append, List.length_append]
      exact Nat.add_le_add (length_escape_le (.inl ht)) (ih hw)
  | unit _ ih =>
    cases hw with
    | cons ht hw =>
      rw [List.flatMap_cons, List.length_append, List.length_append]
      exact Nat.add_le_add (length_escape_le (.inr ⟨_, ht⟩)) (ih hw)
  | pair _ _ _ _ ih =>
    cases hw with
    | cons hh hw =>
      cases hw with
      | cons _ hw =>
        rw [List.flatMap_cons, List.length_append, List.length_append, List.length_append]
        exact Nat.add_le_add (length_escape_le (.inr ⟨_, hh⟩)) (Nat.le_add_left_of_le (ih hw))

theorem holds_encode (cs : List Char) : ∃ ps, Holds (encode cs) ps ∧ Means ps cs := by
  obtain ⟨ps, hw, hm⟩ := exists_written_escape cs
  exact ⟨ps, ⟨[], cs.flatMap escape, [], rfl, rfl, rfl, hw⟩, hm⟩

theorem length_encode_le {text cs : List Char} (h : decode? text = some cs) :
    (encode cs).length ≤ text.length := by
  obtain ⟨ps, ⟨lead, body, trail, _, _, rfl, hw⟩, hm⟩ := decode?_eq_some_iff.1 h
  have hle := length_le_of_written hw hm
  simp only [encode, enclosed, List.cons_append, List.length_append, List.length_cons,
    List.length_nil]
  omega

end Gatehouse.JsonString

namespace Gatehouse.Json

inductive Value where
  | null
  | string (text : String)
  | number (n : Nat)

/-- A value and a way to write it, without blanks around it. -/
inductive Written : List Char → Value → Prop
  | null : Written "null".toList .null
  | string {body cs : List Char} {ps : List JsonString.Piece} (hw : JsonString.Written body ps)
      (hm : JsonString.Means ps cs) :
      Written (JsonString.enclosed [] body []) (.string (String.ofList cs))
  | number {digits : List Char} {n : Nat} (h : Decimal.IsNumeral digits n) :
      Written digits (.number n)

end Gatehouse.Json

namespace Gatehouse

theorem RequestId.ofJson?_eq_some_iff {text : String} {id : RequestId} :
    ofJson? text = some id ↔ JsonString.decode? text.toList = some id.text.toList := by
  rw [ofJson?, Option.map_eq_some_iff]
  constructor
  · rintro ⟨cs, hd, rfl⟩
    rw [hd, String.toList_ofList]
  · intro hd
    refine ⟨id.text.toList, hd, ?_⟩
    rw [String.ofList_toList]

theorem RequestId.toList_json (id : RequestId) : id.json.toList = JsonString.encode id.text.toList :=
  String.toList_ofList

theorem RequestId.ofJson?_json (id : RequestId) : ofJson? id.json = some id := by
  rw [ofJson?_eq_some_iff, toList_json]
  exact JsonString.decode?_eq_some_iff.2 (JsonString.holds_encode _)

/-- What reads as an ID is one JSON string that means it, and the ID is written as the shortest of
them. -/
theorem request_id_reads_back_from_json (id : RequestId) (text : String) :
    (∃ body ps, id.json.toList = JsonString.enclosed [] body [] ∧ JsonString.Written body ps ∧
      JsonString.Means ps id.text.toList) ∧
    RequestId.ofJson? id.json = some id ∧
    (∀ read, RequestId.ofJson? text = some read →
      RequestId.ofJson? read.json = some read ∧ read.json.length ≤ text.length) ∧
    (RequestId.ofJson? text = some id ↔
      ∃ ps, JsonString.Holds text.toList ps ∧ JsonString.Means ps id.text.toList) ∧
    (RequestId.ofJson? text = none ↔
      ∀ ps, JsonString.Holds text.toList ps → JsonString.Unpaired ps) ∧
    ∀ lead body trail, lead.all JsonString.isBlank = true → trail.all JsonString.isBlank = true →
      text.toList = JsonString.enclosed lead body trail → (∃ c ∈ body, c.toNat < 0x20) →
      RequestId.ofJson? text = none := by
  refine ⟨?_, id.ofJson?_json, ?_, ?_, ?_, ?_⟩
  · obtain ⟨ps, hw, hm⟩ := JsonString.exists_written_escape id.text.toList
    exact ⟨_, ps, id.toList_json, hw, hm⟩
  · intro read hr
    refine ⟨read.ofJson?_json, ?_⟩
    rw [← String.length_toList, ← String.length_toList, read.toList_json]
    exact JsonString.length_encode_le (RequestId.ofJson?_eq_some_iff.1 hr)
  · rw [RequestId.ofJson?_eq_some_iff, JsonString.decode?_eq_some_iff]
  · rw [RequestId.ofJson?, Option.map_eq_none_iff, JsonString.decode?_eq_none_iff]
  · rintro lead body trail hl ht he ⟨c, hc, hraw⟩
    rw [RequestId.ofJson?, he, JsonString.decode?_of_raw_control hl ht hc hraw]
    rfl

theorem request_id_reads_back_from_json_of_pair :
    let text := "\t\"\\uD83d\\uDe00\\/\\n\" "
    let id : RequestId := ⟨"😀/\n"⟩
    RequestId.ofJson? text = some id ∧ RequestId.ofJson? id.json = some id ∧
    id.json.length ≤ text.length ∧
    RequestId.ofJson? "\"\\ud83d/\"" = none ∧ RequestId.ofJson? "\"\n\"" = none := by
  intro text id
  have hr : RequestId.ofJson? text = some id := by decide +kernel
  obtain ⟨_, hback, hread, _⟩ := request_id_reads_back_from_json id text
  obtain ⟨_, _, _, _, _, hraw⟩ := request_id_reads_back_from_json id "\"\n\""
  exact ⟨hr, hback, (hread id hr).2, by decide +kernel,
    hraw [] ['\n'] [] rfl rfl rfl ⟨'\n', List.mem_singleton_self _, by decide⟩⟩

end Gatehouse
