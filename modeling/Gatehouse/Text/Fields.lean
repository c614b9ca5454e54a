namespace Gatehouse.Fields

def cut? (sep : Char) : List Char → Option (List Char × List Char)
  | [] => none
  | c :: cs =>
    if c = sep then some ([], cs)
    else (cut? sep cs).map fun (before, after) => (c :: before, after)

theorem cut?_append {sep : Char} {before : List Char} (h : sep ∉ before) (after : List Char) :
    cut? sep (before ++ sep :: after) = some (before, after) := by
  induction before with
  | nil => simp [cut?]
  | cons c cs ih =>
    simp only [List.mem_cons, not_or] at h
    simp [cut?, Ne.symm h.1, ih h.2]

theorem cut?_eq_none {sep : Char} {cs : List Char} (h : sep ∉ cs) : cut? sep cs = none := by
  induction cs with
  | nil => rfl
  | cons c cs ih =>
    simp only [List.mem_cons, not_or] at h
    simp [cut?, Ne.symm h.1, ih h.2]

theorem cut?_eq_none_iff {sep : Char} {cs : List Char} : cut? sep cs = none ↔ sep ∉ cs := by
  constructor
  · intro hn hm
    obtain ⟨before, after, rfl, hb⟩ := List.eq_append_cons_of_mem hm
    rw [cut?_append hb] at hn
    cases hn
  · exact cut?_eq_none

/-- A cut is the one place where the pieces meet at a separator and the first holds none. -/
theorem cut?_eq_some_iff {sep : Char} {cs before after : List Char} :
    cut? sep cs = some (before, after) ↔ cs = before ++ sep :: after ∧ sep ∉ before := by
  constructor
  · intro hs
    have hm : sep ∈ cs := by
      apply Decidable.not_not.1
      intro hn
      rw [cut?_eq_none hn] at hs
      cases hs
    obtain ⟨front, back, rfl, hf⟩ := List.eq_append_cons_of_mem hm
    rw [cut?_append hf] at hs
    cases hs
    exact ⟨rfl, hf⟩
  · rintro ⟨rfl, hb⟩
    exact cut?_append hb after

def splitAux (sep : Char) : List Char → List Char × List (List Char)
  | [] => ([], [])
  | c :: cs =>
    let (first, others) := splitAux sep cs
    if c = sep then ([], first :: others) else (c :: first, others)

/-- The pieces between separators; there is always at least one. -/
def split (sep : Char) (cs : List Char) : List (List Char) :=
  let (first, others) := splitAux sep cs
  first :: others

def join (sep : Char) : List (List Char) → List Char
  | [] => []
  | [piece] => piece
  | piece :: pieces => piece ++ sep :: join sep pieces

theorem intercalate_eq_join (sep : Char) (pieces : List (List Char)) :
    [sep].intercalate pieces = join sep pieces := by
  induction pieces with
  | nil => rfl
  | cons p ps ih =>
    cases ps with
    | nil => rw [List.intercalate_singleton, join]
    | cons q qs =>
      rw [List.intercalate_cons_cons, ih, List.append_assoc]
      rfl

theorem split_append {sep : Char} {before : List Char} (h : sep ∉ before) (after : List Char) :
    split sep (before ++ sep :: after) = before :: split sep after := by
  induction before with
  | nil => simp [split, splitAux]
  | cons c cs ih =>
    simp only [List.mem_cons, not_or] at h
    have := ih h.2
    simp only [split, List.cons.injEq] at this
    simp [split, splitAux, Ne.symm h.1, this.1, this.2]

theorem split_eq_singleton {sep : Char} {cs : List Char} (h : sep ∉ cs) : split sep cs = [cs] := by
  induction cs with
  | nil => rfl
  | cons c cs ih =>
    simp only [List.mem_cons, not_or] at h
    have := ih h.2
    simp only [split, List.cons.injEq] at this
    simp [split, splitAux, Ne.symm h.1, this.1, this.2]

theorem split_join {sep : Char} {pieces : List (List Char)} (hne : pieces ≠ [])
    (h : ∀ p ∈ pieces, sep ∉ p) : split sep (join sep pieces) = pieces := by
  induction pieces with
  | nil => exact absurd rfl hne
  | cons p ps ih =>
    cases ps with
    | nil => exact split_eq_singleton (h p (by simp))
    | cons q qs =>
      rw [join, split_append (h p (by simp)), ih (by simp) fun r hr => h r (by simp_all)]
      simp

theorem not_mem_of_mem_split {sep : Char} {cs piece : List Char} (h : piece ∈ split sep cs) :
    sep ∉ piece := by
  induction cs generalizing piece with
  | nil => exact List.mem_singleton.1 h ▸ List.not_mem_nil
  | cons c cs ih =>
    simp only [split, splitAux] at h ih
    by_cases hc : c = sep
    · rw [if_pos hc] at h
      rcases List.mem_cons.1 h with rfl | h
      · exact List.not_mem_nil
      · exact ih h
    · rw [if_neg hc] at h
      rcases List.mem_cons.1 h with rfl | h
      · rintro (_ | ⟨_, hm⟩)
        · exact hc rfl
        · exact ih List.mem_cons_self hm
      · exact ih (List.mem_cons_of_mem _ h)

theorem not_mem_join {sep c : Char} {pieces : List (List Char)} (hs : c ≠ sep)
    (h : ∀ p ∈ pieces, c ∉ p) : c ∉ join sep pieces := by
  induction pieces with
  | nil => exact List.not_mem_nil
  | cons p ps ih =>
    have hp := h p List.mem_cons_self
    have hps := ih fun q hq => h q (List.mem_cons_of_mem p hq)
    cases ps with
    | nil => exact hp
    | cons q qs =>
      rw [join, List.mem_append, List.mem_cons]
      · rintro (hc | hc | hc)
        · exact hp hc
        · exact hs hc
        · exact hps hc
      · exact List.cons_ne_nil _ _

theorem join_ne_nil {sep : Char} {p : List Char} (ps : List (List Char)) (h : p ≠ []) :
    join sep (p :: ps) ≠ [] := by
  cases ps with
  | nil => exact h
  | cons q qs =>
    rw [join]
    · exact fun he => h (List.append_eq_nil_iff.1 he).1
    · exact List.cons_ne_nil _ _

theorem head?_join_append {sep : Char} {p : List Char} (hne : p ≠ []) (h : sep ∉ p)
    (ps : List (List Char)) (rest : List Char) :
    (join sep (p :: ps) ++ rest).head? ≠ some sep := by
  cases p with
  | nil => exact absurd rfl hne
  | cons c cs =>
    intro he
    have hc : c = sep := by
      cases ps with
      | nil => exact Option.some.inj he
      | cons q qs => exact Option.some.inj he
    exact h (hc ▸ List.mem_cons_self)

/-- A carriage return right before a line break belongs to the break. -/
def dropReturn (line : List Char) : List Char :=
  if line.getLast? = some '\r' then line.dropLast else line

def firstLine (cs : List Char) : List Char :=
  match cut? '\n' cs with
  | some (line, _) => dropReturn line
  | none => cs

end Gatehouse.Fields
