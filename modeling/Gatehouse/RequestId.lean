import Gatehouse.Text.Hex
import Gatehouse.Text.JsonString

namespace Gatehouse

structure RequestId where
  text : String
deriving DecidableEq

namespace RequestId

def defaultHeader : String := "x-request-id"

def json (id : RequestId) : String := String.ofList (JsonString.encode id.text.toList)

/-- Reads an ID from a JSON text; the empty string is an ID here. -/
def ofJson? (text : String) : Option RequestId :=
  (JsonString.decode? text.toList).map fun cs => ⟨String.ofList cs⟩

end RequestId

/-- A supply of fresh IDs, and how many of them have been taken. -/
structure IdSource where
  mint : Nat → RequestId
  used : Nat

namespace IdSource

def draw (ids : IdSource) : RequestId × IdSource :=
  (ids.mint ids.used, { ids with used := ids.used + 1 })

@[simp] theorem draw_fst (ids : IdSource) : ids.draw.1 = ids.mint ids.used := rfl

/-- Reuses an inbound text verbatim unless it is absent or empty. -/
def assign (ids : IdSource) (inbound : Option String) : RequestId × IdSource :=
  match inbound with
  | some text => if text = "" then ids.draw else (⟨text⟩, ids)
  | none => ids.draw

end IdSource

namespace Uuid

def v4 (high low : UInt64) : String :=
  let high := high.toNat / 0x10000 * 0x10000 + 0x4000 + high.toNat % 0x1000
  let low := 0x8000000000000000 + low.toNat % 0x4000000000000000
  let hex := Hex.fixed 16 high ++ Hex.fixed 16 low
  let group (start length : Nat) := (hex.drop start).take length
  String.ofList (group 0 8 ++ '-' :: group 8 4 ++ '-' :: group 12 4 ++ '-' :: group 16 4 ++
    '-' :: group 20 12)

def isLowerHex (c : Char) : Bool := ('0' ≤ c && c ≤ '9') || ('a' ≤ c && c ≤ 'f')

/-- Whether a text is a lowercase hyphenated identifier of version 4. -/
def isV4 (s : String) : Bool :=
  let cs := s.toList
  cs.length = 36 && (List.range 36).all fun i =>
    match cs[i]? with
    | none => false
    | some c =>
      if i = 8 || i = 13 || i = 18 || i = 23 then c = '-'
      else if i = 14 then c = '4'
      else if i = 19 then ['8', '9', 'a', 'b'].contains c
      else isLowerHex c

def mix (seed : UInt64) (position : Nat) : UInt64 :=
  let z := seed + 0x9E3779B97F4A7C15 * (position.toUInt64 + 1)
  let z := (z ^^^ (z >>> 30)) * 0xBF58476D1CE4E5B9
  let z := (z ^^^ (z >>> 27)) * 0x94D049BB133111EB
  z ^^^ (z >>> 31)

end Uuid

def IdSource.random (seed : UInt64) : IdSource where
  mint n := ⟨Uuid.v4 (Uuid.mix seed (2 * n)) (Uuid.mix seed (2 * n + 1))⟩
  used := 0

end Gatehouse
