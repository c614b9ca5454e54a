import Gatehouse.Text.Utf8
import Gatehouse.Text.Hex

/-!
Percent encoding of bytes. Reading leaves a percent sign alone that two hexadecimal digits do not
follow, so every byte sequence can be read.
-/
namespace Gatehouse.Percent

def escape (b : UInt8) : List UInt8 :=
  [0x25, (Hex.upper (b.toNat / 16)).toNat.toUInt8, (Hex.upper (b.toNat % 16)).toNat.toUInt8]

def encode (plain : UInt8 → Bool) (bytes : List UInt8) : List UInt8 :=
  bytes.flatMap fun b => if plain b then [b] else escape b

@[simp] theorem encode_nil (plain : UInt8 → Bool) : encode plain [] = [] := rfl

@[simp] theorem encode_cons (plain : UInt8 → Bool) (b : UInt8) (bs : List UInt8) :
    encode plain (b :: bs) = (if plain b then [b] else escape b) ++ encode plain bs := rfl

def pair? (high low : UInt8) : Option UInt8 := do
  let h ← Hex.value? (Char.ofNat high.toNat)
  let l ← Hex.value? (Char.ofNat low.toNat)
  return (16 * h + l).toUInt8

def decode : List UInt8 → List UInt8
  | 0x25 :: high :: low :: bs =>
    match pair? high low with
    | some b => b :: decode bs
    | none => 0x25 :: decode (high :: low :: bs)
  | b :: bs => b :: decode bs
  | [] => []

/-- What is written is plain or belongs to an escape. -/
theorem eq_of_mem_encode {plain : UInt8 → Bool} {bytes : List UInt8} {b : UInt8}
    (h : b ∈ encode plain bytes) :
    plain b = true ∨ b = 0x25 ∨ ∃ n < 16, b = (Hex.upper n).toNat.toUInt8 := by
  obtain ⟨a, _, h⟩ := List.mem_flatMap.1 h
  split at h
  · rename_i hp
    rw [List.mem_singleton.1 h]
    exact .inl hp
  · have := a.toNat_lt
    simp only [escape, List.mem_cons, List.not_mem_nil, or_false] at h
    rcases h with rfl | rfl | rfl
    · exact .inr (.inl rfl)
    · exact .inr (.inr ⟨_, by omega, rfl⟩)
    · exact .inr (.inr ⟨_, Nat.mod_lt _ (by decide), rfl⟩)

theorem value?_upper {n : Nat} (h : n < 16) :
    Hex.value? (Char.ofNat (Hex.upper n).toNat.toUInt8.toNat) = some n := by
  have all : ∀ m : Fin 16,
      Hex.value? (Char.ofNat (Hex.upper m).toNat.toUInt8.toNat) = some m.val := by decide
  exact all ⟨n, h⟩

theorem decode_escape (b : UInt8) (bs : List UInt8) : decode (escape b ++ bs) = b :: decode bs := by
  have hb := b.toNat_lt
  have hp : pair? (Hex.upper (b.toNat / 16)).toNat.toUInt8 (Hex.upper (b.toNat % 16)).toNat.toUInt8 =
      some b := by
    rw [pair?, value?_upper (by omega), value?_upper (by omega)]
    simp only [Option.bind_eq_bind, Option.bind_some]
    rw [Nat.div_add_mod, Byte.toUInt8_toNat]
    rfl
  simp only [escape, List.cons_append, List.nil_append, decode, hp]

theorem decode_cons_of_ne {b : UInt8} (h : b ≠ 0x25) (bs : List UInt8) :
    decode (b :: bs) = b :: decode bs := by
  rw [decode]
  intro high low rest hb
  exact absurd hb h

theorem decode_encode {plain : UInt8 → Bool} (h : plain 0x25 = false) (bytes : List UInt8) :
    decode (encode plain bytes) = bytes := by
  induction bytes with
  | nil => rfl
  | cons b bs ih =>
    rw [encode_cons]
    split
    · rename_i hp
      have hb : b ≠ 0x25 := by
        rintro rfl
        exact absurd (hp.symm.trans h) (by decide)
      rw [List.singleton_append, decode_cons_of_ne hb, ih]
    · rw [decode_escape, ih]

end Gatehouse.Percent
