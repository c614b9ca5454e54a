namespace Gatehouse.Byte

theorem toNat_toUInt8 {n : Nat} (h : n < 256) : n.toUInt8.toNat = n :=
  UInt8.toNat_ofNat_of_lt' h

theorem toUInt8_toNat (b : UInt8) : b.toNat.toUInt8 = b := UInt8.ofNat_toNat

theorem eq_toUInt8_of_toNat {b : UInt8} {n : Nat} (h : b.toNat = n) : b = n.toUInt8 := by
  rw [← h, toUInt8_toNat]

/-- What holds of every number below 256 holds of every byte. -/
theorem forall_of_forall_lt {p : UInt8 → Prop} (h : ∀ n < 256, p n.toUInt8) (b : UInt8) : p b := by
  rw [← toUInt8_toNat b]
  exact h b.toNat b.toNat_lt

end Gatehouse.Byte

namespace Gatehouse.Utf8

def encodeChar (c : Char) : List UInt8 :=
  let v := c.toNat
  if v < 0x80 then [v.toUInt8]
  else if v < 0x800 then [(0xC0 + v / 0x40).toUInt8, (0x80 + v % 0x40).toUInt8]
  else if v < 0x10000 then
    [(0xE0 + v / 0x1000).toUInt8, (0x80 + v / 0x40 % 0x40).toUInt8, (0x80 + v % 0x40).toUInt8]
  else
    [(0xF0 + v / 0x40000).toUInt8, (0x80 + v / 0x1000 % 0x40).toUInt8,
      (0x80 + v / 0x40 % 0x40).toUInt8, (0x80 + v % 0x40).toUInt8]

def encode (cs : List Char) : List UInt8 := cs.flatMap encodeChar

@[simp] theorem encode_nil : encode [] = [] := rfl

@[simp] theorem encode_cons (c : Char) (cs : List Char) :
    encode (c :: cs) = encodeChar c ++ encode cs := rfl

/-- Why bytes are not a text: at byte `start` stands a sequence whose first `length` bytes rule it
out, or the bytes end within a sequence. -/
inductive Fault where
  | invalid (length start : Nat)
  | incomplete (start : Nat)
deriving DecidableEq

/-- A character of which `seen` bytes are read and `owed` are to come, the next of them between
`low` and `high`. -/
structure Partial where
  value : Nat
  owed : Nat
  low : Nat
  high : Nat
  seen : Nat

def Partial.ofLead? (b : Nat) : Option Partial :=
  if 0xC2 ≤ b ∧ b ≤ 0xDF then some ⟨b - 0xC0, 1, 0x80, 0xBF, 1⟩
  else if b = 0xE0 then some ⟨0, 2, 0xA0, 0xBF, 1⟩
  else if b = 0xED then some ⟨0xD, 2, 0x80, 0x9F, 1⟩
  else if 0xE1 ≤ b ∧ b ≤ 0xEF then some ⟨b - 0xE0, 2, 0x80, 0xBF, 1⟩
  else if b = 0xF0 then some ⟨0, 3, 0x90, 0xBF, 1⟩
  else if b = 0xF4 then some ⟨4, 3, 0x80, 0x8F, 1⟩
  else if 0xF1 ≤ b ∧ b ≤ 0xF3 then some ⟨b - 0xF0, 3, 0x80, 0xBF, 1⟩
  else none

/-- Reads on from byte `start`, where the character in progress, if any, began. -/
def scan (start : Nat) : Option Partial → List UInt8 → Except Fault (List Char)
  | none, [] => .ok []
  | some _, [] => .error (.incomplete start)
  | none, b :: bs =>
    if b.toNat < 0x80 then (scan (start + 1) none bs).map (Char.ofNat b.toNat :: ·)
    else
      match Partial.ofLead? b.toNat with
      | some p => scan start (some p) bs
      | none => .error (.invalid 1 start)
  | some p, b :: bs =>
    if p.low ≤ b.toNat ∧ b.toNat ≤ p.high then
      let value := p.value * 0x40 + (b.toNat - 0x80)
      if p.owed ≤ 1 then (scan (start + p.seen + 1) none bs).map (Char.ofNat value :: ·)
      else scan start (some ⟨value, p.owed - 1, 0x80, 0xBF, p.seen + 1⟩) bs
    else .error (.invalid p.seen start)

def decode (bytes : List UInt8) : Except Fault (List Char) := scan 0 none bytes

end Gatehouse.Utf8
