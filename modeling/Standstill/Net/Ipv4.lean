import Standstill.Json.Codec
import Standstill.Text.Numeral

/-!
# IPv4 addresses

An address is four octets, written in decimal with points between them. A
reader takes no more than three digits an octet, no leading zero and no
sign.
-/
namespace Standstill

structure Ipv4 where
  a : UInt8
  b : UInt8
  c : UInt8
  d : UInt8
deriving Repr, DecidableEq

namespace Ipv4

/-- The address of this host on its own loopback network. -/
def localhost : Ipv4 := ⟨127, 0, 0, 1⟩

/-- Whether the address is in `127.0.0.0/8`. -/
def isLoopback (ip : Ipv4) : Bool := ip.a == 127

/-- Whether the address is that of a group of hosts: a multicast address, or
the broadcast address of all hosts or of the loopback network. -/
def isGroup (ip : Ipv4) : Bool :=
  (224 ≤ ip.a && ip.a < 240) || ip == ⟨255, 255, 255, 255⟩ || ip == ⟨127, 255, 255, 255⟩

/-! ## Text -/

def octetForm : NumeralForm := ⟨10, some 3, false, 256⟩

/-- An octet at the start of a text. -/
def readOctet (s : List Char) : Option (UInt8 × List Char) :=
  (octetForm.read s).map fun (v, t) => (UInt8.ofNat v, t)

/-- An address at the start of a text. -/
def readFrom (s : List Char) : Option (Ipv4 × List Char) := do
  let (a, s) ← readOctet s
  let (b, s) ← readOctet (← expectChar '.' s)
  let (c, s) ← readOctet (← expectChar '.' s)
  let (d, s) ← readOctet (← expectChar '.' s)
  some (⟨a, b, c, d⟩, s)

/-- The address that the whole of a text is. -/
def parse? (s : String) : Option Ipv4 :=
  match readFrom s.toList with
  | some (ip, []) => some ip
  | _ => none

def octetText (o : UInt8) : List Char := Nat.toDigits 10 o.toNat

def chars (ip : Ipv4) : List Char :=
  octetText ip.a ++ '.' :: (octetText ip.b ++ '.' :: (octetText ip.c ++ '.' :: octetText ip.d))

def text (ip : Ipv4) : String := String.ofList ip.chars

/-- Why a text is no address. -/
def syntaxMessage : String := "invalid IPv4 address syntax"

def codec : Json.Codec Ipv4 := .formatted "IPv4 address" syntaxMessage parse? text

end Ipv4

end Standstill
