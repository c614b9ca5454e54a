/-!
Base64 in the standard alphabet. The last group may lack any of its padding, but its unused bits are
zero.
-/
namespace Gatehouse.Base64

def value? (b : UInt8) : Option Nat :=
  let n := b.toNat
  if 65 ≤ n ∧ n ≤ 90 then some (n - 65)
  else if 97 ≤ n ∧ n ≤ 122 then some (n - 71)
  else if 48 ≤ n ∧ n ≤ 57 then some (n + 4)
  else if n = 43 then some 62
  else if n = 47 then some 63
  else none

/-- One byte from the two symbols of a last group. -/
def one? (a b : UInt8) : Option (List UInt8) := do
  let x ← value? a
  let y ← value? b
  if y % 16 = 0 then some [(x * 4 + y / 16).toUInt8] else none

def two? (a b c : UInt8) : Option (List UInt8) := do
  let x ← value? a
  let y ← value? b
  let z ← value? c
  if z % 4 = 0 then some [(x * 4 + y / 16).toUInt8, (y % 16 * 16 + z / 4).toUInt8] else none

def three? (a b c d : UInt8) : Option (List UInt8) := do
  let x ← value? a
  let y ← value? b
  let z ← value? c
  let w ← value? d
  return [(x * 4 + y / 16).toUInt8, (y % 16 * 16 + z / 4).toUInt8, (z % 4 * 64 + w).toUInt8]

def pad : UInt8 := 61

def decode? : List UInt8 → Option (List UInt8)
  | [] => some []
  | [_] => none
  | [a, b] => one? a b
  | [a, b, c] => if c = pad then one? a b else two? a b c
  | [a, b, c, d] =>
    if d = pad then if c = pad then one? a b else two? a b c
    else three? a b c d
  | a :: b :: c :: d :: bs => do
    let group ← three? a b c d
    let rest ← decode? bs
    return group ++ rest

end Gatehouse.Base64
