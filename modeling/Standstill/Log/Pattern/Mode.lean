import Standstill.Text.Blank

/-!
# How a pattern is read

A pattern may say how what follows is to be read: letters alone in the case
they are written in or in either, text by its characters or by its bytes, and
whether blanks and comments stand for themselves. The settings are letters in
parentheses; those after a hyphen are turned off. They hold to the end of the
group they stand in, or for the group that they open.

Results:
* `length_skip_le`: what is skipped is never put back.
-/
namespace Standstill.Pattern

structure Mode where
  /-- Letters match in either case. -/
  eitherCase : Bool := false
  /-- Text is matched character by character, otherwise byte by byte. -/
  byCharacter : Bool := true
  /-- Blanks and comments between the parts are skipped. -/
  spaced : Bool := false
deriving Repr, DecidableEq

/-- What is left after blanks and comments. A comment begins with a number sign
and ends with its line. -/
def dropSpacing : (inComment : Bool) → List Char → List Char
  | _, [] => []
  | true, c :: s => dropSpacing (c ≠ '\n') s
  | false, c :: s =>
    if isBlank c then dropSpacing false s
    else if c = '#' then dropSpacing true s
    else c :: s

theorem length_dropSpacing_le (inComment : Bool) (s : List Char) :
    (dropSpacing inComment s).length ≤ s.length := by
  induction s generalizing inComment with
  | nil => cases inComment <;> exact Nat.le_refl _
  | cons c s ih =>
    cases inComment with
    | true => exact Nat.le_succ_of_le (ih _)
    | false =>
      rw [dropSpacing]
      split
      · exact Nat.le_succ_of_le (ih _)
      · split
        · exact Nat.le_succ_of_le (ih _)
        · exact Nat.le_refl _

namespace Mode

/-- The text from the next part on. -/
def skip (m : Mode) (s : List Char) : List Char := if m.spaced then dropSpacing false s else s

theorem length_skip_le (m : Mode) (s : List Char) : (m.skip s).length ≤ s.length := by
  unfold skip
  split
  · exact length_dropSpacing_le false s
  · exact Nat.le_refl _

/-- The letters of settings, of which three are about how a pattern is read,
and the sign that turns those after it off. -/
def signs : List Char := ['i', 'm', 's', 'U', 'u', 'R', 'x', '-']

/-- The mode with the setting of a letter turned on or off. -/
def set (m : Mode) (on : Bool) : Char → Mode
  | 'i' => { m with eitherCase := on }
  | 'u' => { m with byCharacter := on }
  | 'x' => { m with spaced := on }
  | _ => m

/-- Settings up to the sign that ends them: the mode that they make, that sign
and the rest. `seen` are the signs before, the last first; none comes twice,
and a hyphen is followed by letters. -/
def read (m : Mode) (seen : List Char) : List Char → Option (Mode × Char × List Char)
  | [] => none
  | c :: s =>
    if c = ')' ∨ c = ':' then
      if seen.head? = some '-' ∨ (c = ')' ∧ seen = []) then none else some (m, c, s)
    else if c ∈ signs ∧ c ∉ seen then (m.set ('-' ∉ seen) c).read (c :: seen) s
    else none

end Mode

end Standstill.Pattern
