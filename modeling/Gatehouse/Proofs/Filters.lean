import Gatehouse.Log.Filter
import Gatehouse.Proofs.Reading
import Gatehouse.Proofs.Utf8

namespace Gatehouse

namespace LevelLimit

theorem ofChars?_name (l : LevelLimit) : ofChars? l.name.toList = some l := by
  cases l with
  | none => rfl
  | some level => cases level <;> rfl

theorem isLower_of_mem_name {l : LevelLimit} {c : Char} (h : c ∈ l.name.toList) :
    c.isLower = true := by
  have all : l.name.toList.all Char.isLower = true := by
    cases l with
    | none => rfl
    | some level => cases level <;> rfl
  exact List.all_eq_true.1 all c h

theorem any_mayStart_name (l : LevelLimit) : l.name.toList.head?.any Directive.mayStart = true := by
  cases l with
  | none => rfl
  | some level => cases level <;> rfl

theorem verbosity_le_max_left (l m : LevelLimit) : l.verbosity ≤ (l.max m).verbosity := by
  rw [max]
  split
  · exact Nat.le_of_lt ‹_›
  · exact Nat.le_refl _

theorem verbosity_le_max_right (l m : LevelLimit) : m.verbosity ≤ (l.max m).verbosity := by
  rw [max]
  split
  · exact Nat.le_refl _
  · exact Nat.not_lt.1 ‹_›

end LevelLimit

namespace Directive

variable {cs : List Char} {d : Directive}

theorem toList_text_of_target (t : String) (l : LevelLimit) :
    (text ⟨some t, l⟩).toList = t.toList ++ '=' :: l.name.toList := by
  simp [text]

/-- What is read as a directive is a level, or the target of the directive and nothing or an equals
sign behind it. -/
theorem ofChars?_eq_ok (h : ofChars? cs = .ok d) : cs.head?.any mayStart = true ∧
    (d.target = none ∨ ∃ t rest, d.target = some (String.ofList t) ∧ cs = t ++ rest ∧ '=' ∉ t ∧
      (rest = [] ∨ rest.head? = some '=')) := by
  rw [ofChars?] at h
  by_cases hs : cs.head?.any mayStart = true
  · refine ⟨hs, ?_⟩
    rw [if_neg (by rw [hs]; decide)] at h
    cases hc : Fields.cut? '=' cs with
    | none =>
      rw [hc] at h
      cases hl : LevelLimit.ofChars? cs with
      | none =>
        simp only [hl] at h
        cases h
        have ht := Fields.cut?_eq_none_iff.1 hc
        exact .inr ⟨cs, [], rfl, (List.append_nil cs).symm, ht, .inl rfl⟩
      | some l =>
        simp only [hl] at h
        cases h
        exact .inl rfl
    | some cut =>
      obtain ⟨t, level⟩ := cut
      obtain ⟨rfl, ht⟩ := Fields.cut?_eq_some_iff.1 hc
      refine .inr ⟨t, '=' :: level, ?_, rfl, ht, .inr rfl⟩
      rw [hc] at h
      cases level with
      | nil =>
        cases h
        rfl
      | cons c level =>
        simp only at h
        split at h
        · cases h
          rfl
        · cases h
  · rw [if_pos (by rw [Bool.eq_false_iff.2 hs]; rfl)] at h
    cases h

theorem ofChars?_level (l : LevelLimit) : ofChars? l.name.toList = .ok ⟨none, l⟩ := by
  have hc : Fields.cut? '=' l.name.toList = none := by
    refine Fields.cut?_eq_none fun hm => ?_
    cases LevelLimit.isLower_of_mem_name hm
  simp only [ofChars?, LevelLimit.any_mayStart_name, hc, LevelLimit.ofChars?_name]
  rfl

theorem ofChars?_target {t : List Char} (ht : '=' ∉ t) (l : LevelLimit)
    (hs : (t ++ '=' :: l.name.toList).head?.any mayStart = true) :
    ofChars? (t ++ '=' :: l.name.toList) = .ok ⟨some (String.ofList t), l⟩ := by
  have hn := LevelLimit.ofChars?_name l
  have hm := LevelLimit.any_mayStart_name l
  cases he : l.name.toList with
  | nil =>
    rw [he] at hm
    cases hm
  | cons c cs =>
    rw [he] at hs hn
    rw [ofChars?, if_neg (by rw [hs]; decide), Fields.cut?_append ht]
    simp only [hn]

theorem ofChars?_text (h : ofChars? cs = .ok d) : ofChars? d.text.toList = .ok d := by
  obtain ⟨target, l⟩ := d
  obtain ⟨hs, rfl | ⟨t, rest, rfl, rfl, ht, hr⟩⟩ := ofChars?_eq_ok h
  · exact ofChars?_level l
  · rw [toList_text_of_target, String.toList_ofList]
    refine ofChars?_target ht l ?_
    cases t with
    | nil =>
      rcases hr with rfl | hr
      · cases hs
      · rw [List.nil_append, hr] at hs
        exact hs
    | cons c t => exact hs

theorem not_mem_text {sep : Char} (h : ofChars? cs = .ok d) (hm : sep ∉ cs) (he : sep ≠ '=')
    (hl : sep.isLower = false) : sep ∉ d.text.toList := by
  have hn : sep ∉ d.limit.name.toList := by
    intro hn
    rw [LevelLimit.isLower_of_mem_name hn] at hl
    cases hl
  obtain ⟨target, l⟩ := d
  obtain ⟨-, rfl | ⟨t, rest, rfl, rfl, -, -⟩⟩ := ofChars?_eq_ok h
  · exact hn
  · rw [toList_text_of_target, String.toList_ofList, List.mem_append, List.mem_cons]
    rintro (ht | hc | hs)
    · exact hm (List.mem_append_left _ ht)
    · exact he hc
    · exact hn hs

end Directive

namespace Filter

/-- A target stands before another one if it has more bytes, or as many and greater ones; the bare
level stands behind all targets. -/
def Before : Option String → Option String → Prop
  | none, _ => False
  | some _, none => True
  | some s, some t =>
    (Utf8.encode t.toList).length < (Utf8.encode s.toList).length ∨
      (Utf8.encode s.toList).length = (Utf8.encode t.toList).length ∧
        Utf8.encode t.toList < Utf8.encode s.toList

theorem before_some_iff {s t : String} : Before (some s) (some t) ↔
    t.utf8ByteSize < s.utf8ByteSize ∨ s.utf8ByteSize = t.utf8ByteSize ∧ t < s := by
  rw [Before, Utf8.length_encode_toList, Utf8.length_encode_toList, Utf8.encode_toList_lt_iff]

theorem precedes_iff {d e : Directive} : d.precedes e = true ↔ Before d.target e.target := by
  rw [Directive.precedes]
  cases d.target with
  | none => exact iff_of_false Bool.false_ne_true id
  | some s =>
    cases e.target with
    | none => exact iff_of_true rfl trivial
    | some t => simp [before_some_iff]

theorem Before.trans {r s t : Option String} (hrs : Before r s) (hst : Before s t) :
    Before r t := by
  cases r with
  | none => exact hrs
  | some r =>
    cases s with
    | none => exact hst.elim
    | some s =>
      cases t with
      | none => trivial
      | some t =>
        rw [before_some_iff] at *
        rcases hrs with hrs | ⟨hrs, hlt⟩
        · rcases hst with hst | ⟨hst, -⟩
          · exact .inl (Nat.lt_trans hst hrs)
          · exact .inl (hst ▸ hrs)
        · rcases hst with hst | ⟨hst, hlt'⟩
          · exact .inl (hrs ▸ hst)
          · exact .inr ⟨hrs.trans hst, String.lt_trans hlt' hlt⟩

theorem Before.ne {s t : Option String} (h : Before s t) : s ≠ t := by
  rintro rfl
  cases s with
  | none => exact h
  | some s =>
    rcases before_some_iff.1 h with h | ⟨-, h⟩
    · exact Nat.lt_irrefl _ h
    · exact String.lt_irrefl s h

theorem before_of_not {s t : Option String} (hne : s ≠ t) (h : ¬ Before t s) : Before s t := by
  cases s with
  | none =>
    cases t with
    | none => exact absurd rfl hne
    | some t => exact absurd trivial h
  | some s =>
    cases t with
    | none => trivial
    | some t =>
      rw [before_some_iff] at *
      rcases Nat.lt_trichotomy t.utf8ByteSize s.utf8ByteSize with hl | hl | hl
      · exact .inl hl
      · refine .inr ⟨hl.symm, String.not_le.1 fun hle => h (.inr ⟨hl, String.not_le.1 fun hge => ?_⟩)⟩
        exact hne (congrArg some (String.le_antisymm hle hge))
      · exact absurd (.inl hl) h

def Ordered (ds : List Directive) : Prop := ds.Pairwise fun d e => Before d.target e.target

variable {d e : Directive} {ds : List Directive}

theorem mem_of_mem_insert (h : e ∈ insert d ds) : e = d ∨ e ∈ ds := by
  induction ds with
  | nil => exact .inl (List.mem_singleton.1 h)
  | cons x xs ih =>
    rw [insert] at h
    split at h
    · exact (List.mem_cons.1 h).imp_right (List.mem_cons_of_mem x)
    · split at h
      · exact List.mem_cons.1 h
      · rcases List.mem_cons.1 h with rfl | h
        · exact .inr List.mem_cons_self
        · exact (ih h).imp_right (List.mem_cons_of_mem x)

theorem Ordered.insert (h : Ordered ds) (d : Directive) : Ordered (insert d ds) := by
  induction ds with
  | nil => exact List.pairwise_singleton _ _
  | cons x xs ih =>
    obtain ⟨hx, hxs⟩ := List.pairwise_cons.1 h
    rw [Filter.insert]
    split
    case isTrue ht => exact List.pairwise_cons.2 ⟨fun y hy => ht ▸ hx y hy, hxs⟩
    case isFalse ht =>
      split
      case isTrue hp =>
        have hd := precedes_iff.1 hp
        refine List.pairwise_cons.2 ⟨fun y hy => ?_, h⟩
        rcases List.mem_cons.1 hy with rfl | hy
        · exact hd
        · exact hd.trans (hx y hy)
      case isFalse hp =>
        refine List.pairwise_cons.2 ⟨fun y hy => ?_, ih hxs⟩
        rcases mem_of_mem_insert hy with rfl | hy
        · exact before_of_not ht fun hb => hp (precedes_iff.2 hb)
        · exact hx y hy

theorem Ordered.mem_insert_iff (h : Ordered ds) :
    e ∈ Filter.insert d ds ↔ e = d ∨ e ∈ ds ∧ e.target ≠ d.target := by
  induction ds with
  | nil => simp [Filter.insert]
  | cons x xs ih =>
    obtain ⟨hx, hxs⟩ := List.pairwise_cons.1 h
    rw [Filter.insert]
    split
    case isTrue ht =>
      rw [List.mem_cons, List.mem_cons]
      refine or_congr_right ⟨fun he => ⟨.inr he, ht ▸ (hx e he).ne.symm⟩, ?_⟩
      rintro ⟨rfl | he, hne⟩
      · exact absurd ht hne
      · exact he
    case isFalse ht =>
      split
      case isTrue hp =>
        rw [List.mem_cons]
        refine or_congr_right ⟨fun he => ⟨he, ?_⟩, And.left⟩
        have hd := precedes_iff.1 hp
        rcases List.mem_cons.1 he with rfl | he
        · exact ht
        · exact (hd.trans (hx e he)).ne.symm
      case isFalse hp =>
        rw [List.mem_cons, ih hxs, List.mem_cons, or_left_comm]
        refine or_congr_right ⟨?_, ?_⟩
        · rintro (rfl | ⟨he, hne⟩)
          · exact ⟨.inl rfl, ht⟩
          · exact ⟨.inr he, hne⟩
        · rintro ⟨rfl | he, hne⟩
          · exact .inl rfl
          · exact .inr ⟨he, hne⟩

theorem insert_of_before (h : ∀ e ∈ ds, Before e.target d.target) :
    Filter.insert d ds = ds ++ [d] := by
  induction ds with
  | nil => rfl
  | cons x xs ih =>
    have hx := h x List.mem_cons_self
    have hp : ¬ d.precedes x = true := fun hp => (hx.trans (precedes_iff.1 hp)).ne rfl
    rw [Filter.insert, if_neg hx.ne, if_neg hp, ih fun e he => h e (List.mem_cons_of_mem x he)]
    rfl

def pieces (text : String) : List (List Char) := (Fields.split ',' text.toList).filter (· ≠ [])

/-- A text gives directives if each of its pieces is one. -/
def Gives (text : String) (given : List Directive) : Prop :=
  (pieces text).map Directive.ofChars? = given.map Except.ok

/-- A directive is the last of those that were given for its target. -/
def LastFor (given : List Directive) (d : Directive) : Prop :=
  (given.filter fun e => e.target = d.target).getLast? = some d

/-- What the directives that were given make of a filter. -/
structure Holds (given : List Directive) (f : Filter) : Prop where
  ordered : Ordered f.directives
  mem_iff : ∀ d, d ∈ f.directives ↔ LastFor given d
  le_max : ∀ d ∈ given, d.limit.verbosity ≤ f.maxLimit.verbosity

variable {text : String} {given later : List Directive} {f : Filter}

theorem lastFor_snoc_iff :
    LastFor (given ++ [e]) d ↔ d = e ∨ LastFor given d ∧ d.target ≠ e.target := by
  rw [LastFor, LastFor, List.filter_append]
  by_cases ht : e.target = d.target
  · rw [List.filter_cons_of_pos (by simpa using ht), List.filter_nil, List.getLast?_concat,
      Option.some.injEq, or_iff_left fun h => h.2 ht.symm, eq_comm]
  · rw [List.filter_cons_of_neg (by simpa using ht), List.filter_nil, List.append_nil,
      or_iff_right fun h : d = e => ht (h ▸ rfl), and_iff_left fun h => ht h.symm]

theorem Holds.add (h : Holds given f) (d : Directive) : Holds (given ++ [d]) (f.add d) where
  ordered := h.ordered.insert d
  mem_iff e := by
    rw [lastFor_snoc_iff, ← h.mem_iff]
    exact h.ordered.mem_insert_iff
  le_max e he := by
    rcases List.mem_append.1 he with he | he
    · exact Nat.le_trans (h.le_max e he) (LevelLimit.verbosity_le_max_left _ _)
    · exact List.mem_singleton.1 he ▸ LevelLimit.verbosity_le_max_right _ _

theorem Holds.foldl (h : Holds given f) (later : List Directive) :
    Holds (given ++ later) (later.foldl Filter.add f) := by
  induction later generalizing given f with
  | nil => exact (List.append_nil given).symm ▸ h
  | cons d later ih =>
    -- one more directive is given, and the filter holds for all up to it
    have ht := ih (h.add d)
    rw [List.append_assoc] at ht
    exact ht

theorem ofText?_of_gives (h : Gives text given) : ofText? text = .ok (given.foldl add {}) := by
  change (pieces text).mapM Directive.ofChars? >>= _ = _
  rw [Reading.mapM_of_map_eq h]
  rfl

def Readable (d : Directive) : Prop := ∃ piece, ',' ∉ piece ∧ Directive.ofChars? piece = .ok d

theorem Gives.exists_piece (h : Gives text given) (hd : d ∈ given) :
    ∃ piece ∈ Fields.split ',' text.toList, Directive.ofChars? piece = .ok d := by
  have hm : Except.ok d ∈ (pieces text).map Directive.ofChars? :=
    h ▸ List.mem_map_of_mem hd
  obtain ⟨piece, hp, he⟩ := List.mem_map.1 hm
  exact ⟨piece, (List.mem_filter.1 hp).1, he⟩

theorem Gives.readable (h : Gives text given) (hd : d ∈ given) : Readable d := by
  obtain ⟨piece, hp, he⟩ := h.exists_piece hd
  exact ⟨piece, Fields.not_mem_of_mem_split hp, he⟩

theorem Readable.not_mem_text (h : Readable d) : ',' ∉ d.text.toList := by
  obtain ⟨piece, hp, hd⟩ := h
  exact Directive.not_mem_text hd hp (by decide) (by decide)

theorem Readable.ofChars?_text (h : Readable d) : Directive.ofChars? d.text.toList = .ok d := by
  obtain ⟨piece, -, hd⟩ := h
  exact Directive.ofChars?_text hd

theorem Readable.text_ne_nil (h : Readable d) : d.text.toList ≠ [] := by
  intro he
  have hd := h.ofChars?_text
  rw [he] at hd
  cases hd

theorem toList_text (f : Filter) :
    f.text.toList = Fields.join ',' (f.directives.map fun d => d.text.toList) := by
  rw [Filter.text, String.toList_intercalate, List.map_map]
  exact Fields.intercalate_eq_join ',' _

theorem pieces_text (h : ∀ d ∈ f.directives, Readable d) :
    pieces f.text = f.directives.map fun d => d.text.toList := by
  rw [pieces, toList_text]
  cases hf : f.directives with
  | nil => rfl
  | cons d ds =>
    rw [← hf, Fields.split_join, List.filter_eq_self.2]
    · intro p hp
      obtain ⟨d, hd, rfl⟩ := List.mem_map.1 hp
      simpa using (h d hd).text_ne_nil
    · exact fun hn => absurd (hf.symm.trans (List.map_eq_nil_iff.1 hn)) (List.cons_ne_nil d ds)
    · intro p hp
      obtain ⟨d, hd, rfl⟩ := List.mem_map.1 hp
      exact (h d hd).not_mem_text

/-- The text of a filter gives the directives that the filter has. -/
theorem gives_text (h : ∀ d ∈ f.directives, Readable d) : Gives f.text f.directives := by
  rw [Gives, pieces_text h, List.map_map]
  exact List.map_congr_left fun d hd => (h d hd).ofChars?_text

theorem directives_foldl (f : Filter) (later : List Directive)
    (h : Ordered (f.directives ++ later)) :
    (later.foldl add f).directives = f.directives ++ later := by
  induction later generalizing f with
  | nil => exact (List.append_nil _).symm
  | cons d later ih =>
    -- in their order, each directive stands behind all before it
    have hd : (f.add d).directives = f.directives ++ [d] :=
      insert_of_before fun e he => (List.pairwise_append.1 h).2.2 e he d List.mem_cons_self
    rw [List.append_cons, ← hd] at h
    rw [List.foldl_cons, ih (f.add d) h, hd, ← List.append_cons]

theorem ofText?_text (h : ∀ d ∈ f.directives, Readable d) (ho : Ordered f.directives) :
    ∃ f', ofText? f.text = .ok f' ∧ f'.directives = f.directives :=
  ⟨_, ofText?_of_gives (gives_text h), directives_foldl {} f.directives ho⟩

end Filter

end Gatehouse
