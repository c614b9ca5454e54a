namespace Gatehouse.Hex

def lower (n : Nat) : Char := if n < 10 then Char.ofNat (48 + n) else Char.ofNat (87 + n)

def upper (n : Nat) : Char := if n < 10 then Char.ofNat (48 + n) else Char.ofNat (55 + n)

def value? (c : Char) : Option Nat :=
  if '0' ≤ c ∧ c ≤ '9' then some (c.toNat - 48)
  else if 'a' ≤ c ∧ c ≤ 'f' then some (c.toNat - 87)
  else if 'A' ≤ c ∧ c ≤ 'F' then some (c.toNat - 55)
  else none

theorem value?_lower {n : Nat} (h : n < 16) : value? (lower n) = some n := by
  have : ∀ m : Fin 16, value? (lower m) = some m.val := by decide
  exact this ⟨n, h⟩

def digits (n : Nat) : List Char :=
  if n < 16 then [lower n] else digits (n / 16) ++ [lower (n % 16)]

/-- The last `width` lowercase digits of `n`, leading zeros kept. -/
def fixed : Nat → Nat → List Char
  | 0, _ => []
  | width + 1, n => fixed width (n / 16) ++ [lower (n % 16)]

def readFrom : Nat → List Char → Option Nat
  | n, [] => some n
  | n, c :: cs =>
    match value? c with
    | some d => readFrom (16 * n + d) cs
    | none => none

theorem readFrom_append (cs ds : List Char) (n : Nat) :
    readFrom n (cs ++ ds) = (readFrom n cs).bind (readFrom · ds) := by
  induction cs generalizing n with
  | nil => rfl
  | cons c cs ih =>
    simp only [List.cons_append, readFrom]
    cases value? c with
    | none => rfl
    | some d => exact ih _

theorem readFrom_digits (n : Nat) : readFrom 0 (digits n) = some n := by
  induction n using digits.induct with
  | case1 n h => rw [digits, if_pos h]; simp [readFrom, value?_lower h]
  | case2 n h ih =>
    rw [digits, if_neg h, readFrom_append, ih]
    simp [readFrom, value?_lower (Nat.mod_lt n (by decide : 16 > 0))]
    omega

theorem value?_of_readFrom {cs : List Char} {n m : Nat} (h : readFrom n cs = some m) {c : Char}
    (hc : c ∈ cs) : (value? c).isSome := by
  induction cs generalizing n with
  | nil => cases hc
  | cons d cs ih =>
    rw [readFrom] at h
    cases hd : value? d with
    | none => rw [hd] at h; cases h
    | some k =>
      rw [hd] at h
      rcases List.mem_cons.1 hc with rfl | hc
      · rw [hd]; rfl
      · exact ih h hc

theorem not_mem_digits {c : Char} (h : value? c = none) (n : Nat) : c ∉ digits n := by
  intro hc
  have hs := value?_of_readFrom (readFrom_digits n) hc
  rw [h] at hs
  cases hs

theorem digits_ne_nil (n : Nat) : digits n ≠ [] := by
  rw [digits]; split <;> simp

theorem length_digits_of_lt {n : Nat} (h : n < 16) : (digits n).length = 1 := by
  rw [digits, if_pos h]
  rfl

theorem length_digits_le {n k : Nat} (h : (digits (n / 16)).length ≤ k) :
    (digits n).length ≤ k + 1 := by
  rw [digits]
  split
  · exact Nat.le_add_left 1 k
  · rw [List.length_append]
    exact Nat.succ_le_succ h

def capacity : Nat → Nat
  | 0 => 1
  | width + 1 => 16 * capacity width

/-- The last digits of a number read back as what the number leaves at that width. -/
theorem readFrom_fixed (width n m : Nat) :
    readFrom m (fixed width n) = some (capacity width * m + n % capacity width) := by
  induction width generalizing n with
  | zero => rw [fixed, readFrom, capacity, Nat.one_mul, Nat.mod_one, Nat.add_zero]
  | succ width ih =>
    have hd : readFrom (capacity width * m + n / 16 % capacity width) [lower (n % 16)] =
        some (16 * (capacity width * m + n / 16 % capacity width) + n % 16) := by
      rw [readFrom, value?_lower (Nat.mod_lt n (by decide))]
      rfl
    rw [fixed, readFrom_append, ih, Option.bind_some, hd, capacity, Nat.mod_mul, Nat.mul_assoc]
    congr 1
    omega

theorem bounds_of_value? {c : Char} {d : Nat} (h : value? c = some d) :
    d < 16 ∧ 48 ≤ c.toNat := by
  simp only [value?, Char.le_def, UInt32.le_iff_toNat_le] at h
  have h0 : '0'.val.toNat = 48 := rfl
  have h9 : '9'.val.toNat = 57 := rfl
  have ha : 'a'.val.toNat = 97 := rfl
  have hf : 'f'.val.toNat = 102 := rfl
  have hA : 'A'.val.toNat = 65 := rfl
  have hF : 'F'.val.toNat = 70 := rfl
  have hc : c.val.toNat = c.toNat := rfl
  split at h
  · cases h
    omega
  · split at h
    · cases h
      omega
    · split at h
      · cases h
        omega
      · cases h

theorem readFrom_lt {cs : List Char} {n m : Nat} (h : readFrom n cs = some m) :
    m < capacity cs.length * (n + 1) := by
  induction cs generalizing n with
  | nil =>
    cases h
    rw [List.length_nil, capacity, Nat.one_mul]
    exact Nat.lt_succ_self _
  | cons c cs ih =>
    rw [readFrom] at h
    cases hc : value? c with
    | none => rw [hc] at h; cases h
    | some d =>
      rw [hc] at h
      have hd := (bounds_of_value? hc).1
      refine Nat.lt_of_lt_of_le (ih h) ?_
      rw [List.length_cons, capacity, Nat.mul_comm 16 (capacity cs.length), Nat.mul_assoc]
      exact Nat.mul_le_mul_left _ (by omega)

end Gatehouse.Hex
