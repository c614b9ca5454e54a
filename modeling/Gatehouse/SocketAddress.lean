import Gatehouse.Text.Decimal
import Gatehouse.Text.Hex
import Gatehouse.Text.Fields

/-!
Socket addresses, with one canonical text each. Reading takes more spellings than writing makes.
-/
namespace Gatehouse

structure Ipv4 where
  a : UInt8
  b : UInt8
  c : UInt8
  d : UInt8
deriving DecidableEq

structure Ipv6 where
  groups : List UInt16
  length_groups : groups.length = 8
deriving DecidableEq

inductive SocketAddress where
  | v4 (ip : Ipv4) (port : UInt16)
  | v6 (ip : Ipv6) (port : UInt16) (scope : UInt32)
deriving DecidableEq

namespace Ipv4

def chars (ip : Ipv4) : List Char :=
  Fields.join '.' ([ip.a, ip.b, ip.c, ip.d].map fun o => Decimal.digits o.toNat)

def octet? (cs : List Char) : Option UInt8 :=
  match cs with
  | [_] | [_, _] | [_, _, _] =>
    match Decimal.read? cs with
    | some n => if n < 256 ∧ ¬ (cs.length > 1 ∧ cs.head? = some '0') then some n.toUInt8 else none
    | none => none
  | _ => none

def ofChars? (cs : List Char) : Option Ipv4 :=
  match Fields.split '.' cs with
  | [w, x, y, z] => do return ⟨← octet? w, ← octet? x, ← octet? y, ← octet? z⟩
  | _ => none

def groups (ip : Ipv4) : List UInt16 :=
  [ip.a.toUInt16 * 256 + ip.b.toUInt16, ip.c.toUInt16 * 256 + ip.d.toUInt16]

end Ipv4

namespace Ipv6

def group? (cs : List Char) : Option UInt16 :=
  if cs.isEmpty ∨ cs.length > 4 then none else (Hex.readFrom 0 cs).map Nat.toUInt16

/-- Groups between colons, the last two of which may be written as an IPv4 address. -/
def groups? (dottedAllowed : Bool) : List (List Char) → Option (List UInt16)
  | [] => some []
  | [last] =>
    match group? last with
    | some g => some [g]
    | none => if dottedAllowed then (Ipv4.ofChars? last).map Ipv4.groups else none
  | cs :: rest => do
    let g ← group? cs
    let gs ← groups? dottedAllowed rest
    return g :: gs

def part? (dottedAllowed : Bool) (cs : List Char) : Option (List UInt16) :=
  if cs.isEmpty then some [] else groups? dottedAllowed (Fields.split ':' cs)

def cutDouble? : List Char → Option (List Char × List Char)
  | ':' :: ':' :: cs => some ([], cs)
  | c :: cs => (cutDouble? cs).map fun (before, after) => (c :: before, after)
  | [] => none

def ofGroups? (gs : List UInt16) : Option Ipv6 :=
  if h : gs.length = 8 then some ⟨gs, h⟩ else none

/-- A double colon stands for one or more zero groups. -/
def ofChars? (cs : List Char) : Option Ipv6 :=
  match cutDouble? cs with
  | none => do ofGroups? (← groups? true (Fields.split ':' cs))
  | some (before, after) => do
    let front ← part? false before
    let back ← part? true after
    if front.length + back.length < 8 then
      ofGroups? (front ++ List.replicate (8 - (front.length + back.length)) 0 ++ back)
    else none

def zeroRun : List UInt16 → Nat
  | 0 :: gs => zeroRun gs + 1
  | _ => 0

/-- The start and length of the longest run of zeros, the first of equals. -/
def longestZeroRun : List UInt16 → Nat × Nat
  | [] => (0, 0)
  | g :: gs =>
    let here := zeroRun (g :: gs)
    let (start, length) := longestZeroRun gs
    if here ≥ length then (0, here) else (start + 1, length)

def groupChars (gs : List UInt16) : List Char :=
  Fields.join ':' (gs.map fun g => Hex.digits g.toNat)

def mapped? (ip : Ipv6) : Option Ipv4 :=
  match ip.groups with
  | [0, 0, 0, 0, 0, 0xFFFF, g, h] =>
    some ⟨(g / 256).toUInt8, (g % 256).toUInt8, (h / 256).toUInt8, (h % 256).toUInt8⟩
  | _ => none

/-- The longest run of two or more zero groups is left out; a mapped address is dotted. -/
def chars (ip : Ipv6) : List Char :=
  match ip.mapped? with
  | some v4 => "::ffff:".toList ++ v4.chars
  | none =>
    let (start, length) := longestZeroRun ip.groups
    if length > 1 then
      groupChars (ip.groups.take start) ++ [':', ':'] ++ groupChars (ip.groups.drop (start + length))
    else groupChars ip.groups

end Ipv6

namespace SocketAddress

def port : SocketAddress → UInt16
  | .v4 _ port => port
  | .v6 _ port _ => port

def ipText : SocketAddress → String
  | .v4 ip _ => String.ofList ip.chars
  | .v6 ip _ _ => String.ofList ip.chars

def chars : SocketAddress → List Char
  | .v4 ip port => ip.chars ++ ':' :: Decimal.digits port.toNat
  | .v6 ip port scope =>
    '[' :: ip.chars ++ (if scope = 0 then [] else '%' :: Decimal.digits scope.toNat) ++
      ']' :: ':' :: Decimal.digits port.toNat

def text (a : SocketAddress) : String := String.ofList a.chars

def port? (cs : List Char) : Option UInt16 := do
  let n ← Decimal.read? cs
  if n < 65536 then some n.toUInt16 else none

def scope? (cs : List Char) : Option UInt32 := do
  let n ← Decimal.read? cs
  if n < 4294967296 then some n.toUInt32 else none

def scoped? (cs : List Char) : Option (Ipv6 × UInt32) :=
  match Fields.cut? '%' cs with
  | none => (Ipv6.ofChars? cs).map (·, 0)
  | some (ip, scope) => do return (← Ipv6.ofChars? ip, ← scope? scope)

def ofChars? : List Char → Option SocketAddress
  | '[' :: cs =>
    match Fields.cut? ']' cs with
    | some (inside, ':' :: port) => do
      let (ip, scope) ← scoped? inside
      return .v6 ip (← port? port) scope
    | _ => none
  | cs => do
    let (ip, port) ← Fields.cut? ':' cs
    return .v4 (← Ipv4.ofChars? ip) (← port? port)

def ofText? (s : String) : Option SocketAddress := ofChars? s.toList

def isLoopback : SocketAddress → Bool
  | .v4 ip _ => ip.a = 127
  | .v6 ip _ _ => ip.groups = [0, 0, 0, 0, 0, 0, 0, 1]

end SocketAddress

end Gatehouse
