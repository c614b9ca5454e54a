import Gatehouse.Text.Base64
import Gatehouse.Text.Utf8

namespace Gatehouse.Base64

def symbol (n : Nat) : UInt8 :=
  if n < 26 then (65 + n).toUInt8
  else if n < 52 then (71 + n).toUInt8
  else if n < 62 then (n - 4).toUInt8
  else if n = 62 then 43
  else 47

def encode : List UInt8 → List UInt8
  | [] => []
  | [a] => [symbol (a.toNat / 4), symbol (a.toNat % 4 * 16)]
  | [a, b] =>
    [symbol (a.toNat / 4), symbol (a.toNat % 4 * 16 + b.toNat / 16), symbol (b.toNat % 16 * 4)]
  | a :: b :: c :: rest =>
    symbol (a.toNat / 4) :: symbol (a.toNat % 4 * 16 + b.toNat / 16) ::
      symbol (b.toNat % 16 * 4 + c.toNat / 64) :: symbol (c.toNat % 64) :: encode rest

/-- How many pads fill the last group. -/
def padding : List UInt8 → Nat
  | [] => 0
  | [_] => 2
  | [_, _] => 1
  | _ :: _ :: _ :: rest => padding rest

/-- A written form of bytes: their symbols, and some of the pads. -/
def IsForm (bytes data : List UInt8) : Prop :=
  ∃ n ≤ padding data, bytes = encode data ++ List.replicate n pad

theorem value?_symbol {n : Nat} (h : n < 64) : value? (symbol n) = some n := by
  have all : ∀ m : Fin 64, value? (symbol m) = some m.val := by decide
  exact all ⟨n, h⟩

theorem symbol_ne_pad {n : Nat} (h : n < 64) : symbol n ≠ pad := by
  have all : ∀ m : Fin 64, symbol m ≠ pad := by decide
  exact all ⟨n, h⟩

theorem eq_symbol_of_value? {b : UInt8} {n : Nat} (h : value? b = some n) :
    n < 64 ∧ b = symbol n := by
  have all : ∀ b : UInt8, ∀ v ∈ value? b, v < 64 ∧ b = symbol v :=
    Byte.forall_of_forall_lt (by decide +kernel)
  exact all b n h

variable {a b c d : UInt8} {data : List UInt8}

theorem one?_eq_some_iff :
    one? a b = some data ↔
      ∃ x : UInt8, data = [x] ∧ a = symbol (x.toNat / 4) ∧ b = symbol (x.toNat % 4 * 16) := by
  constructor
  · intro h
    obtain ⟨x, hx, h⟩ := Option.bind_eq_some_iff.1 h
    obtain ⟨y, hy, h⟩ := Option.bind_eq_some_iff.1 h
    obtain ⟨hy0, hd⟩ := Option.ite_none_right_eq_some.1 h
    obtain ⟨hx64, rfl⟩ := eq_symbol_of_value? hx
    obtain ⟨hy64, rfl⟩ := eq_symbol_of_value? hy
    refine ⟨_, (Option.some.inj hd).symm, ?_, ?_⟩
    all_goals rw [Byte.toNat_toUInt8 (by omega)]
    · rw [show (x * 4 + y / 16) / 4 = x by omega]
    · rw [show (x * 4 + y / 16) % 4 * 16 = y by omega]
  · rintro ⟨x, rfl, rfl, rfl⟩
    have hx := x.toNat_lt
    rw [one?, value?_symbol (by omega), value?_symbol (by omega)]
    simp only [Option.bind_eq_bind, Option.bind_some]
    rw [if_pos (by omega), show x.toNat / 4 * 4 + x.toNat % 4 * 16 / 16 = x.toNat by omega,
      Byte.toUInt8_toNat]

theorem two?_eq_some_iff :
    two? a b c = some data ↔
      ∃ x y : UInt8, data = [x, y] ∧ a = symbol (x.toNat / 4) ∧
        b = symbol (x.toNat % 4 * 16 + y.toNat / 16) ∧ c = symbol (y.toNat % 16 * 4) := by
  constructor
  · intro h
    obtain ⟨x, hx, h⟩ := Option.bind_eq_some_iff.1 h
    obtain ⟨y, hy, h⟩ := Option.bind_eq_some_iff.1 h
    obtain ⟨z, hz, h⟩ := Option.bind_eq_some_iff.1 h
    obtain ⟨hz0, hd⟩ := Option.ite_none_right_eq_some.1 h
    obtain ⟨hx64, rfl⟩ := eq_symbol_of_value? hx
    obtain ⟨hy64, rfl⟩ := eq_symbol_of_value? hy
    obtain ⟨hz64, rfl⟩ := eq_symbol_of_value? hz
    refine ⟨_, _, (Option.some.inj hd).symm, ?_, ?_, ?_⟩
    · rw [Byte.toNat_toUInt8 (by omega),
        show (x * 4 + y / 16) / 4 = x by omega]
    · rw [Byte.toNat_toUInt8 (by omega), Byte.toNat_toUInt8 (by omega),
        show (x * 4 + y / 16) % 4 * 16 + (y % 16 * 16 + z / 4) / 16 = y by omega]
    · rw [Byte.toNat_toUInt8 (by omega),
        show (y % 16 * 16 + z / 4) % 16 * 4 = z by omega]
  · rintro ⟨x, y, rfl, rfl, rfl, rfl⟩
    have hx := x.toNat_lt
    have hy := y.toNat_lt
    rw [two?, value?_symbol (by omega), value?_symbol (by omega), value?_symbol (by omega)]
    simp only [Option.bind_eq_bind, Option.bind_some]
    rw [if_pos (by omega),
      show x.toNat / 4 * 4 + (x.toNat % 4 * 16 + y.toNat / 16) / 16 = x.toNat by omega,
      show (x.toNat % 4 * 16 + y.toNat / 16) % 16 * 16 + y.toNat % 16 * 4 / 4 = y.toNat by omega,
      Byte.toUInt8_toNat, Byte.toUInt8_toNat]

theorem three?_eq_some_iff :
    three? a b c d = some data ↔
      ∃ x y z : UInt8, data = [x, y, z] ∧ a = symbol (x.toNat / 4) ∧
        b = symbol (x.toNat % 4 * 16 + y.toNat / 16) ∧
        c = symbol (y.toNat % 16 * 4 + z.toNat / 64) ∧ d = symbol (z.toNat % 64) := by
  constructor
  · intro h
    obtain ⟨x, hx, h⟩ := Option.bind_eq_some_iff.1 h
    obtain ⟨y, hy, h⟩ := Option.bind_eq_some_iff.1 h
    obtain ⟨z, hz, h⟩ := Option.bind_eq_some_iff.1 h
    obtain ⟨w, hw, hd⟩ := Option.bind_eq_some_iff.1 h
    obtain ⟨hx64, rfl⟩ := eq_symbol_of_value? hx
    obtain ⟨hy64, rfl⟩ := eq_symbol_of_value? hy
    obtain ⟨hz64, rfl⟩ := eq_symbol_of_value? hz
    obtain ⟨hw64, rfl⟩ := eq_symbol_of_value? hw
    refine ⟨_, _, _, (Option.some.inj hd).symm, ?_, ?_, ?_, ?_⟩
    · rw [Byte.toNat_toUInt8 (by omega),
        show (x * 4 + y / 16) / 4 = x by omega]
    · rw [Byte.toNat_toUInt8 (by omega), Byte.toNat_toUInt8 (by omega),
        show (x * 4 + y / 16) % 4 * 16 + (y % 16 * 16 + z / 4) / 16 = y by omega]
    · rw [Byte.toNat_toUInt8 (by omega), Byte.toNat_toUInt8 (by omega),
        show (y % 16 * 16 + z / 4) % 16 * 4 + (z % 4 * 64 + w) / 64 = z by omega]
    · rw [Byte.toNat_toUInt8 (by omega),
        show (z % 4 * 64 + w) % 64 = w by omega]
  · rintro ⟨x, y, z, rfl, rfl, rfl, rfl, rfl⟩
    have hx := x.toNat_lt
    have hy := y.toNat_lt
    have hz := z.toNat_lt
    rw [three?, value?_symbol (by omega), value?_symbol (by omega), value?_symbol (by omega),
      value?_symbol (by omega)]
    simp only [Option.bind_eq_bind, Option.bind_some]
    rw [show x.toNat / 4 * 4 + (x.toNat % 4 * 16 + y.toNat / 16) / 16 = x.toNat by omega,
      show (x.toNat % 4 * 16 + y.toNat / 16) % 16 * 16 + (y.toNat % 16 * 4 + z.toNat / 64) / 4 =
        y.toNat by omega,
      show (y.toNat % 16 * 4 + z.toNat / 64) % 4 * 64 + z.toNat % 64 = z.toNat by omega,
      Byte.toUInt8_toNat, Byte.toUInt8_toNat, Byte.toUInt8_toNat]
    rfl

variable {bytes group : List UInt8}

theorem decode?_of_three? (h : three? a b c d = some group) :
    decode? (a :: b :: c :: d :: bytes) = (decode? bytes).map (group ++ ·) := by
  cases bytes with
  | nil =>
    obtain ⟨x, y, z, rfl, rfl, rfl, rfl, rfl⟩ := three?_eq_some_iff.1 h
    simp only [decode?, if_neg (symbol_ne_pad (Nat.mod_lt z.toNat (by decide : 64 > 0))), h]
    rfl
  | cons e bytes =>
    rw [decode?, h]
    cases decode? (e :: bytes) <;> rfl
    intro hne
    cases hne

theorem decode?_cases {bytes data : List UInt8} (h : decode? bytes = some data) :
    (bytes = [] ∧ data = []) ∨
    (∃ a b, (bytes = [a, b] ∨ bytes = [a, b, pad] ∨ bytes = [a, b, pad, pad]) ∧
      one? a b = some data) ∨
    (∃ a b c, (bytes = [a, b, c] ∨ bytes = [a, b, c, pad]) ∧ two? a b c = some data) ∨
    ∃ a b c d rest group tail, bytes = a :: b :: c :: d :: rest ∧ three? a b c d = some group ∧
      decode? rest = some tail ∧ data = group ++ tail := by
  match bytes with
  | [] =>
    cases h
    exact .inl ⟨rfl, rfl⟩
  | [_] => cases h
  | [a, b] => exact .inr (.inl ⟨a, b, .inl rfl, h⟩)
  | [a, b, c] =>
    rw [decode?] at h
    split at h
    · rename_i hc
      subst hc
      exact .inr (.inl ⟨a, b, .inr (.inl rfl), h⟩)
    · exact .inr (.inr (.inl ⟨a, b, c, .inl rfl, h⟩))
  | [a, b, c, d] =>
    rw [decode?] at h
    split at h
    · rename_i hd
      subst hd
      split at h
      · rename_i hc
        subst hc
        exact .inr (.inl ⟨a, b, .inr (.inr rfl), h⟩)
      · exact .inr (.inr (.inl ⟨a, b, c, .inr rfl, h⟩))
    · exact .inr (.inr (.inr ⟨a, b, c, d, [], data, [], rfl, h, rfl, (List.append_nil _).symm⟩))
  | a :: b :: c :: d :: e :: rest =>
    obtain ⟨group, hg, h⟩ := Option.bind_eq_some_iff.1 h
    obtain ⟨tail, ht, h⟩ := Option.bind_eq_some_iff.1 h
    exact .inr (.inr (.inr ⟨a, b, c, d, e :: rest, group, tail, rfl, hg, ht,
      (Option.some.inj h).symm⟩))

theorem isForm_of_decode? (h : decode? bytes = some data) : IsForm bytes data := by
  induction hn : bytes.length using Nat.strongRecOn generalizing bytes data with
  | ind n ih =>
    rcases decode?_cases h with ⟨rfl, rfl⟩ | ⟨a, b, hb, hd⟩ | ⟨a, b, c, hb, hd⟩ |
      ⟨a, b, c, d, rest, group, tail, rfl, hg, ht, rfl⟩
    · exact ⟨0, Nat.le_refl 0, rfl⟩
    · obtain ⟨x, rfl, rfl, rfl⟩ := one?_eq_some_iff.1 hd
      rcases hb with rfl | rfl | rfl
      · exact ⟨0, Nat.zero_le 2, rfl⟩
      · exact ⟨1, Nat.le_succ 1, rfl⟩
      · exact ⟨2, Nat.le_refl 2, rfl⟩
    · obtain ⟨x, y, rfl, rfl, rfl, rfl⟩ := two?_eq_some_iff.1 hd
      rcases hb with rfl | rfl
      · exact ⟨0, Nat.zero_le 1, rfl⟩
      · exact ⟨1, Nat.le_refl 1, rfl⟩
    · obtain ⟨x, y, z, rfl, rfl, rfl, rfl, rfl⟩ := three?_eq_some_iff.1 hg
      simp only [List.length_cons] at hn
      obtain ⟨pads, hp, rfl⟩ := ih rest.length (by omega) ht rfl
      exact ⟨pads, hp, rfl⟩

theorem decode?_of_isForm (h : IsForm bytes data) : decode? bytes = some data := by
  obtain ⟨n, hn, rfl⟩ := h
  induction data using encode.induct with
  | case1 =>
    rw [Nat.le_zero.1 hn]
    rfl
  | case2 x =>
    have ho := one?_eq_some_iff.2 ⟨x, rfl, rfl, rfl⟩
    have hn : n = 0 ∨ n = 1 ∨ n = 2 := by
      rw [padding] at hn
      omega
    rcases hn with rfl | rfl | rfl <;> exact ho
  | case3 x y =>
    have ht := two?_eq_some_iff.2 ⟨x, y, rfl, rfl, rfl, rfl⟩
    have hc : symbol (y.toNat % 16 * 4) ≠ pad := symbol_ne_pad (by omega)
    have hn : n = 0 ∨ n = 1 := by
      rw [padding] at hn
      omega
    rcases hn with rfl | rfl
    · exact (if_neg hc).trans ht
    · exact (if_pos rfl).trans ((if_neg hc).trans ht)
  | case4 x y z rest ih =>
    rw [encode]
    have ht := three?_eq_some_iff.2 ⟨x, y, z, rfl, rfl, rfl, rfl, rfl⟩
    exact (decode?_of_three? ht).trans (congrArg (Option.map ([x, y, z] ++ ·)) (ih hn))

/-- Bytes are read from exactly their written forms. -/
theorem decode?_eq_some_iff : decode? bytes = some data ↔ IsForm bytes data :=
  ⟨isForm_of_decode?, decode?_of_isForm⟩

end Gatehouse.Base64
