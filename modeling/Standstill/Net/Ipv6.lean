import Standstill.Net.Ipv4

/-!
# IPv6 addresses

An address is eight groups of sixteen bits, written in hexadecimal with
colons between them. The text leaves out the first of the longest runs of
at least two zero groups, and shows an address that wraps an IPv4 address
with that address at its end. A reader takes `::` for at least one group,
and an IPv4 address for the last two groups of a run.
-/
namespace Standstill

structure Ipv6 where
  groups : List UInt16
  length_eq : groups.length = 8
deriving Repr, DecidableEq

namespace Ipv6

/-! ## Reading -/

def groupForm : NumeralForm := ⟨16, some 4, true, 65536⟩

/-- What follows the colon that precedes each group but the first. -/
def afterColon (isFirst : Bool) (s : List Char) : Option (List Char) :=
  if isFirst then some s else expectChar ':' s

/-- The two groups of an IPv4 address. -/
def groupsOf (ip : Ipv4) : List UInt16 :=
  [ip.a.toUInt16 * 256 + ip.b.toUInt16, ip.c.toUInt16 * 256 + ip.d.toUInt16]

/-- Up to `room` groups at the start of a text, whether they end in an IPv4
address, and the rest. -/
def readGroups : (room : Nat) → (isFirst : Bool) → List Char → List UInt16 × Bool × List Char
  | 0, _, s => ([], false, s)
  | room + 1, isFirst, s =>
    match (if 0 < room then (afterColon isFirst s).bind Ipv4.readFrom else none) with
    | some (ip, t) => (groupsOf ip, true, t)
    | none =>
      match (afterColon isFirst s).bind groupForm.read with
      | none => ([], false, s)
      | some (g, t) =>
        let (gs, embedded, u) := readGroups room false t
        (UInt16.ofNat g :: gs, embedded, u)

/-- Eight groups, zeros standing in for those left out between `front` and `back`. -/
def joined? (front back : List UInt16) : Option Ipv6 :=
  let gs := front ++ (List.replicate (8 - front.length - back.length) 0 ++ back)
  if h : gs.length = 8 then some ⟨gs, h⟩ else none

/-- An address at the start of a text. -/
def readFrom (s : List Char) : Option (Ipv6 × List Char) :=
  let (front, embedded, t) := readGroups 8 true s
  if h : front.length = 8 then some (⟨front, h⟩, t)
  else if embedded then none
  else do
    let t ← expectChar ':' t
    let t ← expectChar ':' t
    let (back, _, u) := readGroups (7 - front.length) true t
    let ip ← joined? front back
    some (ip, u)

/-! ## Writing -/

def groupText (g : UInt16) : List Char := Nat.toDigits 16 g.toNat

/-- Groups with colons between them. -/
def groupsText : List UInt16 → List Char
  | [] => []
  | [g] => groupText g
  | g :: gs => groupText g ++ ':' :: groupsText gs

/-- The number of zero groups a list starts with. -/
def leadingZeros (gs : List UInt16) : Nat := (gs.takeWhile (· == 0)).length

/-- The first longest run of zero groups, as its start and length, `at_` being the index of the
first group. -/
def longestZeroRun : (at_ : Nat) → List UInt16 → Nat × Nat
  | _, [] => (0, 0)
  | i, g :: gs =>
    let here := leadingZeros (g :: gs)
    let (start, length) := longestZeroRun (i + 1) gs
    if length ≤ here then (i, here) else (start, length)

/-- The IPv4 address an address wraps, if it does. -/
def wrapped? (ip : Ipv6) : Option Ipv4 :=
  match ip.groups with
  | [0, 0, 0, 0, 0, 0xffff, g, h] =>
    some ⟨(g >>> 8).toUInt8, g.toUInt8, (h >>> 8).toUInt8, h.toUInt8⟩
  | _ => none

def chars (ip : Ipv6) : List Char :=
  match ip.wrapped? with
  | some v4 => "::ffff:".toList ++ v4.chars
  | none =>
    let (start, length) := longestZeroRun 0 ip.groups
    if 1 < length then
      groupsText (ip.groups.take start) ++ ':' :: ':' :: groupsText (ip.groups.drop (start + length))
    else groupsText ip.groups

end Ipv6

end Standstill
