import Standstill.Log.Pattern.Mode
import Standstill.Text.Numeral

/-!
# The single things that a pattern matches

A character stands for itself, a dot for any, and after a backslash a letter
or a number may stand for a character, for a kind of characters or for a place
in the text. No tables of characters are at hand, and what matches has to be
valid text. So by character nothing may be asked that needs such a table, and
by byte nothing that may match a part of a character.

Results:
* `fits_default_iff`: how a pattern is read at its start, only kinds and the
  edges of words are refused.
-/
namespace Standstill.Pattern

inductive Atom
  /-- A character; it may be written as the number of one byte. -/
  | literal (c : Char) (asByte : Bool)
  /-- Digits, blanks or the characters of words, or all but those. -/
  | kind (negated : Bool)
  | any
  /-- An end of the text or of a line. -/
  | edge
  | wordEdge
deriving Repr, DecidableEq

namespace Atom

/-- Whether an atom may stand outside brackets. -/
def fits (m : Mode) : Atom → Bool
  | .literal c asByte => if m.byCharacter then !m.eitherCase else !asByte || decide (c.toNat < 128)
  | .kind negated => !m.byCharacter && !negated
  | .any => m.byCharacter
  | .edge => true
  | .wordEdge => !m.byCharacter

/-- Whether an atom may stand in brackets. There a byte is one character. -/
def fitsSet (m : Mode) : Atom → Bool
  | .literal c _ => if m.byCharacter then !m.eitherCase else decide (c.toNat < 128)
  | .kind negated => !m.byCharacter && !negated
  | .any | .edge | .wordEdge => false

theorem fits_default_iff (a : Atom) :
    a.fits {} = true ↔ a ≠ .wordEdge ∧ ∀ negated, a ≠ .kind negated := by
  cases a <;> simp [fits]

end Atom

/-! ## Their text -/

/-- The number that `count` hexadecimal digits add to `value`. -/
def readCode (m : Mode) : (count value : Nat) → List Char → Option (Nat × List Char)
  | 0, value, s => some (value, s)
  | n + 1, value, s =>
    match m.skip s with
    | [] => none
    | c :: t => (digit? 16 c).bind fun d => readCode m n (value * 16 + d) t

/-- How many digits follow a letter that stands for a character by its number. -/
def codeLengths : List (Char × Nat) := [('x', 2), ('u', 4), ('U', 8)]

/-- The control characters that have a letter. -/
def controlLetters : List (Char × Char) :=
  [('a', '\x07'), ('f', '\x0C'), ('t', '\t'), ('n', '\n'), ('r', '\r'), ('v', '\x0B')]

/-- What a backslash and a character stand for. No sign but an ASCII one that
is no letter or digit stands for itself there. -/
def Atom.ofEscape? (c : Char) : Option Atom :=
  if c ∈ ['d', 's', 'w'] then some (.kind false)
  else if c ∈ ['D', 'S', 'W'] then some (.kind true)
  else if c ∈ ['A', 'z'] then some .edge
  else if c ∈ ['b', 'B', '<', '>'] then some .wordEdge
  else match controlLetters.lookup c with
    | some d => some (.literal d false)
    | none => if c.toNat < 128 && !c.isAlphanum then some (.literal c false) else none

/-- The atom of a backslash, from after it. -/
def readEscape (m : Mode) : List Char → Option (Atom × List Char)
  | [] => none
  | c :: s =>
    match codeLengths.lookup c with
    | some n => (readCode m n 0 s).bind fun (code, t) =>
        if code.isValidChar then some (.literal (Char.ofNat code) (n = 2), t) else none
    | none => (Atom.ofEscape? c).map fun a => (a, s)

/-- The atom at the start of a text, outside brackets. -/
def readAtom (m : Mode) : List Char → Option (Atom × List Char)
  | [] => none
  | '\\' :: s => readEscape m s
  | '.' :: s => some (.any, s)
  | '^' :: s | '$' :: s => some (.edge, s)
  | c :: s => some (.literal c false, s)

/-- The atom at the start of a text in brackets, where only the backslash is a sign. -/
def readMember (m : Mode) : List Char → Option (Atom × List Char)
  | [] => none
  | '\\' :: s => readEscape m s
  | c :: s => some (.literal c false, s)

end Standstill.Pattern
