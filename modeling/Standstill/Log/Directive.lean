import Standstill.Log.Origin
import Standstill.Log.Pattern
import Standstill.Text.Bytes

/-!
# Directives of a log filter

A directive says how severe lines of some origins have to be to be kept. Its
text is a level, or a target with a level after an equals sign; without the
level, or with nothing after the sign, every line is kept. After a target or
in its place, brackets may hold the name of a span and, in braces, a field
that a line has to carry. Lines here stand in no span, and carry their
message as their one field. A field may have to have a value, which is a
number or a pattern.

The parts of a directive are found in its text without the blanks at its
ends, but are cut out of the whole text at the places found. So blanks before
a directive move its parts, and one may come to end inside a character.

Results:
* `admits_of_rank_le`: a threshold admits what is more severe than something
  it admits.
* `speaksOf_of_target_nil`: a directive for every line without a target speaks
  of every origin.
* `part_eq_of_bare`: without blanks before a directive, its parts are what
  stands between their places.
-/
namespace Standstill

/-! ## Thresholds -/

/-- What is kept: nothing, or everything from a level on. -/
inductive Threshold
  | silent
  | least (level : Level)
deriving Repr, DecidableEq

namespace Threshold

def admits : Threshold → Level → Bool
  | .silent, _ => false
  | .least bound, level => bound.rank ≤ level.rank

theorem admits_of_rank_le {t : Threshold} {k l : Level} (h : t.admits k = true)
    (hr : k.rank ≤ l.rank) : t.admits l = true := by
  cases t with
  | silent => cases h
  | least level => simp only [admits, decide_eq_true_eq] at h ⊢; exact Nat.le_trans h hr

/-- Everything: nothing is logged below the level of debugging. -/
def all : Threshold := .least .debug

/-- The thresholds by number. -/
def numbered : List Threshold :=
  [.silent, .least .error, .least .warning, .least .info, .least .debug, all]

/-- The thresholds by name. -/
def named : List (String × Threshold) := [
  ("off", .silent), ("error", .least .error), ("warn", .least .warning),
  ("info", .least .info), ("debug", .least .debug), ("trace", all)]

/-- A number of a threshold may have a sign and leading zeros. -/
def numberForm : NumeralForm := ⟨10, none, true, numbered.length⟩

/-- The threshold that a number stands for. -/
def ofNumber? (s : List Char) : Option Threshold :=
  let digits := match s with
    | '+' :: t => t
    | t => t
  match numberForm.read digits with
  | some (n, []) => numbered[n]?
  | _ => none

/-- The threshold that a number, or a name in letters of any case, stands for. -/
def ofText? (s : List Char) : Option Threshold :=
  ofNumber? s <|> named.lookup (String.ofList s).toLower

end Threshold

/-! ## Directives -/

/-- The one field of a line. -/
def messageField : String := "message"

/-- Which lines of its origins a directive is about. -/
inductive Scope
  | every
  /-- Those that carry a field. -/
  | carrying (field : String)
  /-- Those within a span, which may be told by its name or by the value of a field. -/
  | withinSpan
deriving Repr, DecidableEq

/-- Whether the lines here are in a scope. -/
def Scope.holdsLines : Scope → Bool
  | .every => true
  | .carrying field => field = messageField
  | .withinSpan => false

structure Directive where
  /-- How the path of an origin begins. -/
  target : List Char
  scope : Scope
  threshold : Threshold
deriving Repr, DecidableEq

namespace Directive

/-- Whether a directive is about the lines of an origin. -/
def speaksOf (d : Directive) (o : Origin) : Bool :=
  d.target.isPrefixOf o.path.toList && d.scope.holdsLines

/-- How much a directive singles out: a longer target counts more than a field. -/
def weight (d : Directive) : Nat :=
  2 * d.target.length + match d.scope with
    | .carrying _ => 1
    | _ => 0

theorem speaksOf_of_target_nil (t : Threshold) (o : Origin) :
    (Directive.mk [] .every t).speaksOf o = true := rfl

/-! ## Their text -/

/-- Why a text stands for no directive. -/
inductive Fault
  /-- It does not have the form of one. -/
  | malformed
  /-- A part of it would begin or end inside a character. -/
  | torn
deriving Repr, DecidableEq

/-- The text of a directive as it is written. -/
structure Source where
  text : List Char
deriving Repr, DecidableEq

namespace Source

/-- The text in which the parts are found. -/
def bare (s : Source) : List Char := dropBlankEnds s.text

/-- The place at which the bare text has come to what is left of it. -/
def place (s : Source) (left : List Char) : Nat := byteCount s.bare - byteCount left

/-- The part between two places of the bare text. -/
def part (s : Source) (start stop : List Char) : Except Fault (List Char) :=
  match cut? s.text (s.place start) (s.place stop) with
  | some t => .ok t
  | none => .error .torn

/-- The part from a place of the bare text on. -/
def rest (s : Source) (start : List Char) : Except Fault (List Char) :=
  match dropBytes? (s.place start) s.text with
  | some t => .ok t
  | none => .error .torn

theorem part_eq_of_bare {s : Source} {head part stop tail : List Char}
    (hb : s.bare = head ++ part ++ stop) (ht : s.text = s.bare ++ tail) :
    s.part (part ++ stop) stop = .ok part := by
  have count_append (a b : List Char) : byteCount (a ++ b) = byteCount a + byteCount b := by
    induction a with
    | nil => exact (Nat.zero_add _).symm
    | cons c a ih => rw [List.cons_append, byteCount, byteCount, ih, Nat.add_assoc]
  have hstart : s.place (part ++ stop) = byteCount head := by
    rw [place, hb, List.append_assoc, count_append head, Nat.add_sub_cancel]
  have hstop : s.place stop = byteCount head + byteCount part := by
    rw [place, hb, count_append, count_append, Nat.add_sub_cancel]
  rw [Source.part, hstart, hstop, ht, hb, List.append_assoc, cut?_append]

end Source

/-- What a field may have to be. -/
def isFieldValue (s : List Char) : Bool := isNumber s || Pattern.isPattern s

/-- The scope of a field. Its name ends at an equals sign, and its value, if it
has one, at the next. -/
def scopeOfField (field : List Char) : Except Fault Scope :=
  let name := field.takeWhile (· ≠ '=')
  match field.drop name.length with
  | [] => if field = [] then .error .malformed else .ok (.carrying (String.ofList field))
  | _ :: value =>
    if isFieldValue (value.takeWhile (· ≠ '=')) then .ok .withinSpan else .error .malformed

/-- The scope in brackets, from after the opening one, and what follows the
closing one. -/
def readScope (s : Source) (t : List Char) : Except Fault (Scope × List Char) := do
  let spanEnd := t.dropWhile fun c => c ≠ ']' ∧ c ≠ '{'
  match spanEnd with
  | ']' :: left =>
    let _ ← s.part t spanEnd
    pure (.withinSpan, left)
  | '{' :: inner =>
    let span ← s.part t spanEnd
    let fieldEnd := inner.dropWhile (· ≠ '}')
    match fieldEnd with
    | '}' :: left =>
      let scope ← scopeOfField (← s.part inner fieldEnd)
      match left with
      | ']' :: left => pure (if span = [] then scope else .withinSpan, left)
      | _ => throw .malformed
    | _ => throw .malformed
  | _ => throw .malformed

/-- The directive that ends in `left`: nothing more, or an equals sign and a level. -/
def closeWith (s : Source) (target : List Char) (scope : Scope) (left : List Char) :
    Except Fault Directive :=
  match left with
  | [] => pure ⟨target, scope, .all⟩
  | '=' :: level => do
    match ← s.rest level with
    | [] => pure ⟨target, scope, .all⟩
    | t =>
      match Threshold.ofText? t with
      | some t => pure ⟨target, scope, t⟩
      | none => throw .malformed
  | _ => throw .malformed

/-- What a directive without brackets may start with. -/
def startsTarget (c : Char) : Bool := isAlphanumeric c || c = '-' || c = ':' || c = '_'

/-- The directive that a text stands for. -/
def ofText (text : List Char) : Except Fault Directive := do
  let s : Source := ⟨text⟩
  let targetEnd := s.bare.dropWhile fun c => c ≠ '=' ∧ c ≠ '['
  if s.bare.head?.any fun c => c = '[' || startsTarget c then
    match targetEnd with
    | [] => pure (match Threshold.ofText? text with
      | some t => ⟨[], .every, t⟩
      | none => ⟨text, .every, .all⟩)
    | '[' :: t =>
      let target ← s.part s.bare targetEnd
      let (scope, left) ← readScope s t
      closeWith s target scope left
    | left =>
      let target ← s.part s.bare targetEnd
      closeWith s target .every left
  else throw .malformed

end Directive

end Standstill
