import Standstill.Log

/-!
# Choosing an address

A record of the interface table is usable if it has an IPv4 address outside
the loopback network, is not flagged loopback and is not named `lo`. The
first usable record decides. A configured address is used as it is, and the
table is then not asked for.

Results:
* `firstUsable_eq_some_iff`: the record chosen is usable, and no record
  before it is.
-/
namespace Standstill.Net

/-- A record of the interface table. -/
structure Interface where
  name : String
  loopback : Bool
  /-- Absent if the record is of another family of addresses. -/
  address : Option Ipv4
deriving Repr, DecidableEq

/-- The address of a record that may be used. -/
def Interface.usable? (i : Interface) : Option Ipv4 :=
  match i.address with
  | some ip => if i.loopback ∨ i.name = "lo" ∨ ip.isLoopback then none else some ip
  | none => none

def Interface.isUsable (i : Interface) : Bool := i.usable?.isSome

/-- The first record that may be used. -/
def firstUsable (table : List Interface) : Option Interface := table.find? Interface.isUsable

theorem firstUsable_eq_some_iff {table : List Interface} {i : Interface} :
    firstUsable table = some i ↔
      i.isUsable = true ∧ ∃ before after, table = before ++ i :: after ∧
        ∀ j ∈ before, j.isUsable = false := by
  unfold firstUsable
  rw [List.find?_eq_some_iff_append]
  simp

/-- The answer to a question for the interface table. -/
abbrev Table := Except Failure (List Interface)

/-- The address of the first usable interface. -/
def discover (table : Table) : Traced Failure Ipv4 := do
  Traced.note .interfacesAsked
  let records ← Traced.ofExcept table
  Traced.note (.scanned records.length)
  match firstUsable records with
  | none => Traced.error .noInterface
  | some i =>
    match i.usable? with
    | none => Traced.error .noInterface
    | some ip => do
      Traced.note (.usingInterface i.name ip)
      pure ip

/-- The configured address, or that of the first usable interface. -/
def resolve (configured : Option Ipv4) (table : Table) : Traced Failure Ipv4 :=
  match configured with
  | some ip => do
    Traced.note (.usingConfigured ip)
    pure ip
  | none => discover table

end Standstill.Net
