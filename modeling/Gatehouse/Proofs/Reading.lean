namespace Gatehouse.Reading

variable {ε α β : Type} {read : α → Except ε β} {x bad : α} {y : β} {e : ε}
  {xs before : List α} {ys : List β}

theorem mapM_cons_ok (h : read x = .ok y) (xs : List α) :
    (x :: xs).mapM read = (xs.mapM read).map (y :: ·) := by
  rw [List.mapM_cons, h]
  cases xs.mapM read <;> rfl

theorem mapM_cons_error (h : read x = .error e) (xs : List α) :
    (x :: xs).mapM read = .error e := by
  rw [List.mapM_cons, h]
  rfl

theorem mapM_append_of_ok (h : before.map read = ys.map Except.ok) (xs : List α) :
    (before ++ xs).mapM read = (xs.mapM read).map (ys ++ ·) := by
  induction before generalizing ys with
  | nil =>
    rw [List.map_eq_nil_iff.1 h.symm, List.nil_append]
    cases xs.mapM read <;> rfl
  | cons x before ih =>
    cases ys with
    | nil => cases h
    | cons y ys =>
      obtain ⟨hx, hb⟩ := List.cons.inj h
      rw [List.cons_append, mapM_cons_ok hx, ih hb]
      cases xs.mapM read <;> rfl

/-- Either all can be read, or there is a first one that cannot. -/
theorem all_ok_or_first_error (read : α → Except ε β) (xs : List α) :
    (∃ ys : List β, xs.map read = ys.map Except.ok) ∨
      ∃ (e : ε) (before after : List α) (ys : List β) (bad : α), xs = before ++ bad :: after ∧
        before.map read = ys.map Except.ok ∧ read bad = .error e := by
  induction xs with
  | nil => exact .inl ⟨[], rfl⟩
  | cons x xs ih =>
    cases hx : read x with
    | error e => exact .inr ⟨e, [], xs, [], x, rfl, rfl, hx⟩
    | ok y =>
      rcases ih with ⟨ys, hys⟩ | ⟨e, before, after, ys, bad, rfl, hys, hb⟩
      · exact .inl ⟨y :: ys, by rw [List.map_cons, List.map_cons, hx, hys]⟩
      · refine .inr ⟨e, x :: before, after, y :: ys, bad, rfl, ?_, hb⟩
        rw [List.map_cons, List.map_cons, hx, hys]

theorem mapM_of_map_eq (h : xs.map read = ys.map Except.ok) : xs.mapM read = .ok ys := by
  have hm := mapM_append_of_ok h []
  rw [List.append_nil, List.mapM_nil] at hm
  rw [hm]
  exact congrArg Except.ok (List.append_nil ys)

theorem map_eq_of_mapM (h : xs.mapM read = .ok ys) : xs.map read = ys.map Except.ok := by
  rcases all_ok_or_first_error read xs with ⟨zs, hz⟩ | ⟨e, before, after, zs, bad, rfl, hz, hb⟩
  · cases (mapM_of_map_eq hz).symm.trans h
    exact hz
  · rw [mapM_append_of_ok hz, mapM_cons_error hb] at h
    cases h

end Gatehouse.Reading
