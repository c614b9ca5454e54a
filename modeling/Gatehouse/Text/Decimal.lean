namespace Gatehouse.Decimal

def digit (n : Nat) : Char := Char.ofNat ('0'.toNat + n)

def value? (c : Char) : Option Nat :=
  if '0' ≤ c ∧ c ≤ '9' then some (c.toNat - '0'.toNat) else none

theorem value?_digit {n : Nat} (h : n < 10) : value? (digit n) = some n := by
  have : ∀ m : Fin 10, value? (digit m) = some m.val := by decide
  exact this ⟨n, h⟩

def digits (n : Nat) : List Char :=
  if n < 10 then [digit n] else digits (n / 10) ++ [digit (n % 10)]

/-- Appends digits to a number already read; anything but a digit is refused. -/
def readFrom : Nat → List Char → Option Nat
  | n, [] => some n
  | n, c :: cs =>
    match value? c with
    | some d => readFrom (10 * n + d) cs
    | none => none

/-- Reads a run of one or more digits; leading zeros are allowed. -/
def read? (cs : List Char) : Option Nat :=
  if cs.isEmpty then none else readFrom 0 cs

theorem readFrom_append (cs ds : List Char) (n : Nat) :
    readFrom n (cs ++ ds) = (readFrom n cs).bind (readFrom · ds) := by
  induction cs generalizing n with
  | nil => rfl
  | cons c cs ih =>
    simp only [List.cons_append, readFrom]
    cases value? c with
    | none => rfl
    | some d => exact ih _

theorem readFrom_digits (n : Nat) : readFrom 0 (digits n) = some n := by
  induction n using digits.induct with
  | case1 n h => rw [digits, if_pos h]; simp [readFrom, value?_digit h]
  | case2 n h ih =>
    rw [digits, if_neg h, readFrom_append, ih]
    simp [readFrom, value?_digit (Nat.mod_lt n (by decide : 10 > 0))]
    omega

theorem digits_ne_nil (n : Nat) : digits n ≠ [] := by
  rw [digits]; split <;> simp

@[simp] theorem read?_digits (n : Nat) : read? (digits n) = some n := by
  simp [read?, digits_ne_nil, readFrom_digits]

theorem le_of_readFrom {cs : List Char} {n m : Nat} (h : readFrom n cs = some m) : n ≤ m := by
  induction cs generalizing n with
  | nil => exact Nat.le_of_eq (Option.some.inj h)
  | cons c cs ih =>
    rw [readFrom] at h
    cases hc : value? c with
    | none => rw [hc] at h; cases h
    | some d =>
      rw [hc] at h
      have hle := ih h
      omega

theorem value?_of_readFrom {cs : List Char} {n m : Nat} (h : readFrom n cs = some m) {c : Char}
    (hc : c ∈ cs) : (value? c).isSome := by
  induction cs generalizing n with
  | nil => cases hc
  | cons d cs ih =>
    rw [readFrom] at h
    cases hd : value? d with
    | none => rw [hd] at h; cases h
    | some k =>
      rw [hd] at h
      rcases List.mem_cons.1 hc with rfl | hc
      · rw [hd]; rfl
      · exact ih h hc

theorem not_mem_digits {c : Char} (h : value? c = none) (n : Nat) : c ∉ digits n := by
  intro hc
  have hs := value?_of_readFrom (readFrom_digits n) hc
  rw [h] at hs
  cases hs

theorem length_digits_of_lt {n : Nat} (h : n < 10) : (digits n).length = 1 := by
  rw [digits, if_pos h]
  rfl

theorem length_digits_le {n k : Nat} (h : (digits (n / 10)).length ≤ k) :
    (digits n).length ≤ k + 1 := by
  rw [digits]
  split
  · exact Nat.le_add_left 1 k
  · rw [List.length_append]
    exact Nat.succ_le_succ h

theorem head?_digits {n : Nat} (h : 0 < n) : (digits n).head? ≠ some '0' := by
  induction n using digits.induct with
  | case1 n hn =>
    have all : ∀ m : Fin 10, 0 < m.val → digit m ≠ '0' := by decide
    rw [digits, if_pos hn]
    exact fun he => all ⟨n, hn⟩ h (Option.some.inj he)
  | case2 n hn ih =>
    rw [digits, if_neg hn, List.head?_append,
      Option.or_of_isSome (List.isSome_head?.2 (digits_ne_nil _))]
    exact ih (Nat.div_pos (Nat.le_of_not_lt hn) (by decide))

/-- The decimal form of a number: digits only, and no zero before others. -/
structure IsNumeral (cs : List Char) (n : Nat) : Prop where
  reads : read? cs = some n
  head : cs.head? = some '0' → cs = ['0']

def text (n : Nat) : String := String.ofList (digits n)

end Gatehouse.Decimal
