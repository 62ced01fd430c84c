/-!
# How deep parts are nested

While a pattern is read, only how deep its parts are is kept. Parts in a row
are one deeper than the deepest of them, unless there is only one; so are
alternatives, and what signs of set operations stand between.

Results:
* `depth_le_of_forall`: a row is at most one deeper than its parts.
-/
namespace Standstill.Pattern

/-- A part that has been read. -/
inductive Part
  /-- A setting, which matches nothing and cannot be repeated. -/
  | setting
  | item (depth : Nat)
deriving Repr, DecidableEq

def Part.depth : Part → Nat
  | .setting => 0
  | .item d => d

/-- How deep parts in a row are. -/
def rowDepth : List Part → Nat
  | [] => 0
  | [p] => p.depth
  | p :: ps => 1 + ps.foldr (fun q d => max q.depth d) p.depth

/-- What has been read of a group or in brackets. -/
structure Level where
  /-- How deep what stands before the last sign of an alternative or of a set
  operation is, if there is one. -/
  before : Option Nat := none
  /-- The parts since, the last first. -/
  parts : List Part := []
deriving Repr, DecidableEq

namespace Level

def depth (l : Level) : Nat :=
  match l.before with
  | none => rowDepth l.parts
  | some d => 1 + max d (rowDepth l.parts)

def add (l : Level) (p : Part) : Level := { l with parts := p :: l.parts }

/-- The level at the start of the next alternative. -/
def nextAlternative (l : Level) : Level := ⟨some (max (l.before.getD 0) (rowDepth l.parts)), []⟩

/-- The level after a sign of a set operation, of which the left one is carried out first. -/
def nextOperand (l : Level) : Level := ⟨some l.depth, []⟩

/-- The level with its last part repeated; `none` if there is nothing to repeat. -/
def repeatLast (l : Level) : Option Level :=
  match l.parts with
  | .item d :: ps => some { l with parts := .item (d + 1) :: ps }
  | _ => none

end Level

theorem rowDepth_le_of_forall {ps : List Part} {d : Nat} (h : ∀ p ∈ ps, p.depth ≤ d) :
    rowDepth ps ≤ 1 + d := by
  match ps with
  | [] => exact Nat.zero_le _
  | [p] => exact Nat.le_trans (h p (.head _)) (Nat.le_add_left ..)
  | p :: q :: ps =>
    have hf : ∀ qs : List Part, (∀ q ∈ qs, q.depth ≤ d) →
        qs.foldr (fun q e => max q.depth e) p.depth ≤ d := by
      intro qs hqs
      induction qs with
      | nil => exact h p (.head _)
      | cons r rs ih =>
        exact Nat.max_le.2 ⟨hqs r (.head _), ih fun q hq => hqs q (.tail _ hq)⟩
    exact Nat.add_le_add_left (hf (q :: ps) fun r hr => h r (.tail _ hr)) 1

theorem Level.depth_le_of_forall {l : Level} {d : Nat} (h : ∀ p ∈ l.parts, p.depth ≤ d)
    (hb : l.before = none) : l.depth ≤ 1 + d := by
  rw [Level.depth, hb]
  exact rowDepth_le_of_forall h

end Standstill.Pattern
