import Standstill.Log.Pattern.Atom
import Standstill.Log.Pattern.Nesting
import Standstill.Text.Alphanumeric

/-!
# Patterns

Which texts are patterns, with groups, alternatives, repetition and sets of
characters in brackets. A pattern stands in braces, so that what it opens with
a brace is never closed: it has no counts, and no names in braces. No part may
be nested too deeply.

Results:
* `isPattern_of_plain`: a text without any sign is a pattern.
-/
namespace Standstill.Pattern

/-- An open bracket. -/
structure Bracket where
  level : Level := {}
  /-- Nothing but hyphens came so far; here these stand for themselves. -/
  atStart : Bool := true
deriving Repr, DecidableEq

/-- What has been read of a pattern. -/
structure State where
  mode : Mode := {}
  level : Level := {}
  /-- The groups around, the innermost first, with what was read of them and how. -/
  groups : List (Mode × Level) := []
  /-- The names that groups have. -/
  names : List (List Char) := []
  /-- The open brackets, the innermost first. -/
  brackets : List Bracket := []
deriving Repr, DecidableEq

/-! ## Groups -/

/-- A name of a group: a letter or an underscore, and then letters, numbers
and some signs. -/
def isName : List Char → Bool
  | [] => false
  | c :: s =>
    (c = '_' || isAlphabetic c) &&
      s.all fun d => d = '_' || d = '.' || d = '[' || d = ']' || isAlphanumeric d

namespace State

/-- The state with one more part. -/
def add (st : State) (p : Part) : State := { st with level := st.level.add p }

/-- The state in a new group. -/
def enter (st : State) (m : Mode) : State :=
  { st with mode := m, level := {}, groups := (st.mode, st.level) :: st.groups }

/-- The state in a new group with a name, from after the bracket before it. -/
def enterNamed (st : State) (s : List Char) : Option (State × List Char) :=
  let name := s.takeWhile (· ≠ '>')
  match s.drop name.length with
  | '>' :: t =>
    if isName name ∧ name ∉ st.names then
      some ({ st with names := name :: st.names }.enter st.mode, t)
    else none
  | _ => none

/-- An opening parenthesis, from after it. Nothing may look ahead or back. -/
def openGroup (st : State) (s : List Char) : Option (State × List Char) :=
  match st.mode.skip s with
  | '?' :: 'P' :: '<' :: t | '?' :: '<' :: t => st.enterNamed t
  | '?' :: t =>
    (st.mode.read [] t).map fun (m, sign, rest) =>
      if sign = ':' then (st.enter m, rest) else ({ st with mode := m }.add .setting, rest)
  | t => some (st.enter st.mode, t)

/-- A closing parenthesis: the group becomes a part of the one around it. -/
def closeGroup (st : State) : Option State :=
  match st.groups with
  | [] => none
  | (m, l) :: outer =>
    some { st with mode := m, level := l.add (.item (1 + st.level.depth)), groups := outer }

/-! ## Brackets -/

/-- The state with these brackets open and a new one in them, from after its sign. -/
def openBracket (st : State) (outer : List Bracket) (s : List Char) :
    Option (State × List Char) :=
  match st.mode.skip s with
  | '^' :: t =>
    -- All but a set of bytes has parts of characters in it.
    if st.mode.byCharacter then some ({ st with brackets := {} :: outer }, t) else none
  | t => some ({ st with brackets := {} :: outer }, t)

/-- The state after the innermost bracket is closed. -/
def closeBracket (st : State) (b : Bracket) : (outer : List Bracket) → State
  | [] => { st with brackets := [] }.add (.item (1 + b.level.depth))
  | c :: outer =>
    { st with brackets := { c with level := c.level.add (.item (1 + b.level.depth)) } :: outer }

end State

/-- The sets that have a name. -/
def setNames : List String :=
  ["alnum", "alpha", "ascii", "blank", "cntrl", "digit", "graph", "lower", "print", "punct",
    "space", "upper", "word", "xdigit"]

/-- A set that is given by its name, from after its bracket: whether all but it is meant,
and the rest. -/
def readNamedSet (s : List Char) : Option (Bool × List Char) :=
  let (negated, s) := match s with
    | ':' :: '^' :: t => (true, ':' :: t)
    | t => (false, t)
  match s with
  | ':' :: t =>
    let name := t.takeWhile (· ≠ ':')
    match t.drop name.length with
    | ':' :: ']' :: rest =>
      if String.ofList name ∈ setNames then some (negated, rest) else none
    | _ => none
  | _ => none

/-- Whether a hyphen with this text after it stands between the ends of a range:
not before another hyphen or the closing bracket. -/
def joins (m : Mode) (s : List Char) : Bool :=
  let next := if m.spaced then
      match s.dropWhile isBlank with
      | '#' :: t => t.dropWhile isBlank
      | t => t
    else s
  next.head? ≠ some ']' && next.head? ≠ some '-'

/-- What follows the range or the single member at the start of a text in brackets. -/
def readMembers (m : Mode) (s : List Char) : Option (List Char) := do
  let (a, t) ← readMember m s
  let next := match m.skip t with
    | '-' :: u => if joins m u then some u else none
    | _ => none
  match next with
  | none => if a.fitsSet m then some t else none
  | some u =>
    let (b, v) ← readMember m (m.skip u)
    match a, b with
    | .literal c _, .literal d _ =>
      if a.fitsSet m ∧ b.fitsSet m ∧ c.toNat ≤ d.toNat then some v else none
    | _, _ => none

/-- One step in brackets, of which `b` is the innermost. -/
def State.stepInBracket (st : State) (b : Bracket) (outer : List Bracket) (s : List Char) :
    Option (State × List Char) :=
  let put (b : Bracket) : State := { st with brackets := b :: outer }
  let more (stays : Bool) : State := put ⟨b.level.add (.item 0), stays⟩
  let sign (c : Char) (stays : Bool) (t : List Char) : Option (State × List Char) :=
    if (Atom.literal c false).fitsSet st.mode then some (more stays, t) else none
  match s with
  | [] => none
  | ']' :: t =>
    if b.atStart ∧ b.level.parts = [] then sign ']' false t else some (st.closeBracket b outer, t)
  | '[' :: t =>
    match readNamedSet t with
    | some (negated, rest) =>
      if if st.mode.byCharacter then !st.mode.eitherCase else !negated then some (more false, rest)
      else none
    | none => st.openBracket ({ b with atStart := false } :: outer) t
  | '&' :: '&' :: t | '~' :: '~' :: t => some (put ⟨b.level.nextOperand, false⟩, t)
  | '-' :: t =>
    if b.atStart then sign '-' true t
    else match t with
      | '-' :: u => some (put ⟨b.level.nextOperand, false⟩, u)
      | _ => (readMembers st.mode s).map fun rest => (more false, rest)
  | _ => (readMembers st.mode s).map fun rest => (more false, rest)

/-! ## The whole -/

/-- How deeply parts may be nested. -/
def maxDepth : Nat := 250

namespace State

/-- One step. -/
def step (st : State) (s : List Char) : Option (State × List Char) :=
  match st.brackets with
  | b :: outer => st.stepInBracket b outer s
  | [] =>
    match s with
    | '(' :: t => st.openGroup t
    | ')' :: t => st.closeGroup.map fun st => (st, t)
    | '|' :: t => some ({ st with level := st.level.nextAlternative }, t)
    | '[' :: t => st.openBracket [] t
    | '{' :: _ => none
    | '?' :: t | '*' :: t | '+' :: t =>
      -- A question mark right behind asks for as few as possible.
      st.level.repeatLast.map fun l => ({ st with level := l }, match t with
        | '?' :: u => u
        | u => u)
    | s => (readAtom st.mode s).bind fun (a, t) =>
        if a.fits st.mode then some (st.add (.item 0), t) else none

/-- Whether a pattern may end here. -/
def isOver (st : State) : Bool :=
  st.groups.isEmpty && st.brackets.isEmpty && decide (st.level.depth ≤ maxDepth)

/-- Whether a text ends a pattern of which this has been read. Each step takes some of it. -/
def accepts (st : State) (s : List Char) : Bool :=
  match st.mode.skip s with
  | [] => st.isOver
  | part =>
    match st.step part with
    | none => false
    | some (st, rest) => if rest.length < s.length then st.accepts rest else false
termination_by s.length

end State

/-- Whether a text is a pattern. -/
def isPattern (s : List Char) : Bool := State.accepts {} s

/-- The signs of a pattern outside brackets. -/
def signs : List Char := ['(', ')', '|', '[', '{', '?', '*', '+', '\\', '.', '^', '$']

theorem readAtom_of_plain (m : Mode) {c : Char} (hc : c ∉ signs) (s : List Char) :
    readAtom m (c :: s) = some (.literal c false, s) := by
  unfold readAtom
  split
  case h_1 h => cases h
  case h_2 h | h_3 h | h_4 h | h_5 h => cases h; exact absurd (by decide) hc
  case h_6 h => cases h; rfl

theorem step_of_plain {st : State} (hm : st.mode = {}) (hb : st.brackets = []) {c : Char}
    (hc : c ∉ signs) (s : List Char) : st.step (c :: s) = some (st.add (.item 0), s) := by
  unfold State.step
  rw [hb]
  simp only
  split
  case h_9 => rw [readAtom_of_plain st.mode hc, hm]; rfl
  all_goals rename_i h; cases h; exact absurd (by decide) hc

theorem accepts_of_plain (s : List Char) (hs : ∀ c ∈ s, c ∉ signs) {st : State}
    (hm : st.mode = {}) (hg : st.groups = []) (hb : st.brackets = [])
    (hl : st.level.before = none) (hp : ∀ p ∈ st.level.parts, p.depth ≤ 0) :
    st.accepts s = true := by
  have hskip (s : List Char) : st.mode.skip s = s := by rw [hm]; rfl
  induction s generalizing st with
  | nil =>
    rw [State.accepts, hskip, State.isOver, hg, hb]
    exact decide_eq_true (Nat.le_trans (Level.depth_le_of_forall hp hl) (by decide))
  | cons c s ih =>
    rw [State.accepts, hskip]
    simp only [step_of_plain hm hb (hs c (.head _))]
    rw [if_pos (show s.length < (c :: s).length from Nat.lt_succ_self _)]
    refine ih (fun d hd => hs d (.tail _ hd)) hm hg hb hl (fun p hp' => ?_) hskip
    cases hp' with
    | head => exact Nat.le_refl _
    | tail _ h => exact hp p h

/-- A text without signs is a pattern. -/
theorem isPattern_of_plain {s : List Char} (hs : ∀ c ∈ s, c ∉ signs) : isPattern s = true :=
  accepts_of_plain s hs rfl rfl rfl rfl nofun

end Standstill.Pattern
