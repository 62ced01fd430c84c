import Standstill.Text.Bytes

/-!
# Control sequences of terminals

A text for a terminal may hold sequences that are obeyed and not shown: an
escape sequence, a control sequence with parameters, or a string for a device
or for the system. `withoutControls` is what remains to be read of a text.
White space written as a control character is shown and ends the sequence it
stands in, though not a string. A string for the system ends at a bell, any
other at the byte `0x9C`, which may be part of a longer character; an escape
begins a new sequence anywhere.

Results:
* `withoutControls_of_shown`: a text of shown characters stays as it is.
* `isShown_of_mem_shownFrom`: what remains is shown.
-/
namespace Standstill

/-- What the characters before make of the next one. -/
inductive ControlState
  | text
  | escape
  /-- Within an escape sequence that needs a final character. -/
  | escapeOpen
  /-- Within a control sequence, which its final character ends. -/
  | sequence
  /-- At the start of what precedes a string for a device. -/
  | device
  | deviceParameter
  | deviceIntermediate
  /-- Within a string for a device or an application. -/
  | string
  /-- Within a string for the system, which a bell ends. -/
  | command
deriving Repr, DecidableEq

/-- The white space that is written as a control character. -/
def isLayout (c : Char) : Bool := c = '\t' || c = '\n' || c = '\x0C' || c = '\r'

/-- Shown in a text outside of sequences. -/
def isShown (c : Char) : Bool := isLayout c || (0x20 ≤ c.toNat && c.toNat ≠ 0x7F)

/-- Whether a byte of `c` ends a string. -/
def endsString (c : Char) : Bool := (encodeText c.toString).contains 0x9C

namespace ControlState

/-- After a printable ASCII character with the code `n` within a sequence. -/
def follow (s : ControlState) (n : Nat) : ControlState :=
  match s with
  | .escape =>
    if n < 0x30 then .escapeOpen
    else if n = 0x5B then .sequence
    else if n = 0x5D then .command
    else if n = 0x50 then .device
    else if n = 0x58 ∨ n = 0x5E ∨ n = 0x5F then .string
    else .text
  | .escapeOpen => if n < 0x30 then .escapeOpen else .text
  | .sequence => if n < 0x40 then .sequence else .text
  | .device =>
    if n < 0x30 then .deviceIntermediate else if n < 0x40 then .deviceParameter else .string
  | .deviceParameter =>
    if n < 0x30 then .deviceIntermediate else if n < 0x3C then .deviceParameter else .string
  | .deviceIntermediate => if n < 0x30 then .deviceIntermediate else .string
  | .text | .string | .command => s

/-- Whether white space ends the sequence and is shown. -/
def yieldsToLayout : ControlState → Bool
  | .device | .deviceParameter | .deviceIntermediate | .string | .command => false
  | _ => true

/-- After the character `c`, and whether `c` is shown. -/
def next (s : ControlState) (c : Char) : ControlState × Bool :=
  if c = '\x18' ∨ c = '\x1A' then (.text, false)
  else if c = '\x1B' then (.escape, false)
  else if s.yieldsToLayout ∧ isLayout c then (.text, true)
  else match s with
    | .text => (.text, isShown c)
    | .string => (if endsString c then .text else .string, false)
    | .command => (if c = '\x07' then .text else .command, false)
    | s => (if 0x20 ≤ c.toNat ∧ c.toNat < 0x7F then s.follow c.toNat else s, false)

/-- The characters that are shown. -/
def shownFrom (s : ControlState) : List Char → List Char
  | [] => []
  | c :: rest =>
    let (t, shown) := s.next c
    if shown then c :: t.shownFrom rest else t.shownFrom rest

end ControlState

/-- A text less its control characters and sequences. -/
def withoutControls (s : String) : String := String.ofList (ControlState.text.shownFrom s.toList)

namespace ControlState

theorem next_text {c : Char} (h : isShown c = true) : text.next c = (text, true) := by
  have hn : ∀ d : Char, isShown d = false → c ≠ d := fun d hd hc => by simp [hc, hd] at h
  simp [next, h, yieldsToLayout, hn '\x18' (by decide), hn '\x1A' (by decide),
    hn '\x1B' (by decide)]

theorem isShown_of_next {s : ControlState} {c : Char} (h : (s.next c).2 = true) :
    isShown c = true := by
  unfold next at h
  split at h
  · cases h
  split at h
  · cases h
  split at h
  case isTrue hl => simp [isShown, hl.2]
  split at h
  · exact h
  all_goals cases h

theorem isShown_of_mem_shownFrom {cs : List Char} {s : ControlState} {c : Char}
    (h : c ∈ s.shownFrom cs) : isShown c = true := by
  induction cs generalizing s with
  | nil => cases h
  | cons d rest ih =>
    simp only [shownFrom] at h
    split at h
    case isTrue hd =>
      rcases List.mem_cons.1 h with rfl | h
      · exact isShown_of_next hd
      · exact ih h
    · exact ih h

theorem shownFrom_text {cs : List Char} (h : ∀ c ∈ cs, isShown c = true) :
    text.shownFrom cs = cs := by
  induction cs with
  | nil => rfl
  | cons c rest ih =>
    simp only [shownFrom, next_text (h c (List.mem_cons_self ..)), if_true]
    rw [ih fun d hd => h d (List.mem_cons_of_mem _ hd)]

end ControlState

theorem withoutControls_of_shown {s : String} (h : ∀ c ∈ s.toList, isShown c = true) :
    withoutControls s = s := by
  simp [withoutControls, ControlState.shownFrom_text h]

end Standstill
