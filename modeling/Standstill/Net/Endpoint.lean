import Standstill.Net.Ipv6

/-!
# Endpoints

An endpoint is an address and a port. An IPv6 address stands in brackets
and may carry the number of a scope after a percent sign; scope zero is not
written.
-/
namespace Standstill

inductive Endpoint
  | v4 (ip : Ipv4) (port : UInt16)
  | v6 (ip : Ipv6) (scope : UInt32) (port : UInt16)
deriving Repr, DecidableEq

namespace Endpoint

def port : Endpoint → UInt16
  | .v4 _ p => p
  | .v6 _ _ p => p

/-! ## Text -/

def portForm : NumeralForm := ⟨10, none, true, UInt16.size⟩

def scopeForm : NumeralForm := ⟨10, none, true, UInt32.size⟩

/-- A colon and a port. -/
def readPort (s : List Char) : Option (UInt16 × List Char) := do
  let (v, t) ← portForm.read (← expectChar ':' s)
  some (UInt16.ofNat v, t)

def readV4 (s : List Char) : Option (Endpoint × List Char) := do
  let (ip, t) ← Ipv4.readFrom s
  let (port, u) ← readPort t
  some (.v4 ip port, u)

/-- A percent sign and a scope, if there is one. -/
def readScope (s : List Char) : UInt32 × List Char :=
  match (expectChar '%' s).bind scopeForm.read with
  | some (v, t) => (UInt32.ofNat v, t)
  | none => (0, s)

def readV6 (s : List Char) : Option (Endpoint × List Char) := do
  let (ip, t) ← Ipv6.readFrom (← expectChar '[' s)
  let (scope, u) := readScope t
  let (port, v) ← readPort (← expectChar ']' u)
  some (.v6 ip scope port, v)

/-- The endpoint that the whole of a text is. -/
def parse? (s : String) : Option Endpoint :=
  match readV4 s.toList <|> readV6 s.toList with
  | some (e, []) => some e
  | _ => none

def portText (p : UInt16) : List Char := ':' :: Nat.toDigits 10 p.toNat

def scopeText (scope : UInt32) : List Char :=
  if scope = 0 then [] else '%' :: Nat.toDigits 10 scope.toNat

def chars : Endpoint → List Char
  | .v4 ip p => ip.chars ++ portText p
  | .v6 ip scope p => '[' :: (ip.chars ++ scopeText scope ++ ']' :: portText p)

def text (e : Endpoint) : String := String.ofList e.chars

def codec : Json.Codec Endpoint :=
  .formatted "socket address" "invalid socket address syntax" parse? text

end Endpoint

end Standstill
