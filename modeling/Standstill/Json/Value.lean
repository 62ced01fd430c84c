import Standstill.Json.Reader

/-!
# Values of any shape

`walk` passes over one value without keeping it. It works in two manners. A
field that a record does not know is skimmed: numbers and strings need only
their form, and brackets may nest without limit. A value read for its own
sake is checked in full: numbers must be finite doubles, surrogates must be
paired, and there is a limit on open brackets.
-/
namespace Standstill.Json

/-- A bracket still open. -/
inductive Enclosure
  | list
  | object
deriving Repr, DecidableEq

inductive Manner
  | skim
  | check
deriving Repr, DecidableEq

/-- Brackets that may be open at once when a value is checked. -/
def maxDepth : Nat := 127

/-! ## Leaves -/

/-- A string after its opening quote: escapes need their form only. -/
def skimString : List Char → Except Fault Unit × List Char
  | [] => (.error (.here .endInText []), [])
  | '"' :: s => (.ok (), s)
  | '\\' :: [] => (.error (.here .endInText []), [])
  | '\\' :: c :: s =>
    if (shortEscape? c).isSome then skimString s
    else if c = 'u' then
      match s with
      | a :: b :: x :: y :: t =>
        if (hex4? [a, b, x, y]).isSome then skimString t else (.error (hexFault s), s)
      | _ => (.error (hexFault s), s)
    else (.error (.ahead .badEscape (c :: s)), s)
  | c :: s =>
    if c.toNat < 0x20 then (.error (.here .controlCharacter (c :: s)), s) else skimString s

/-- After an exponent's mark. -/
def skimExponent (s : List Char) : Except Fault Unit × List Char :=
  let t := match s with
    | '+' :: u => u
    | '-' :: u => u
    | _ => s
  if startsDigit t then (.ok (), dropDigits t) else (.error (.ahead .badNumber t), t)

/-- After a number's integer digits. -/
def skimTail (s : List Char) : Except Fault Unit × List Char :=
  match s with
  | '.' :: t =>
    if startsDigit t then
      let u := dropDigits t
      if startsExponent u then skimExponent u.tail else (.ok (), u)
    else (.error (.ahead .badNumber t), t)
  | _ => if startsExponent s then skimExponent s.tail else (.ok (), s)

/-- A number after its sign. -/
def skimNumber : Reader Unit
  | '0' :: s => if startsDigit s then (.error (.ahead .badNumber s), s) else skimTail s
  | s => if startsDigit s then skimTail (dropDigits s) else (.error (.ahead .badNumber s), s)

def Manner.number : Manner → Bool → Reader Unit
  | .skim, _ => skimNumber
  | .check, positive => do let _ ← Json.number positive

def Manner.string : Manner → Reader Unit
  | .skim => skimString
  | .check => do let _ ← Json.string

/-! ## Brackets -/

/-- What comes next. -/
inductive Turn
  /-- A value. -/
  | value
  /-- The first member of the innermost bracket, or its end. -/
  | first
  /-- The key of a member; the first one of its object or not. -/
  | key
  /-- A separator or the end of the innermost bracket. -/
  | after
deriving Repr, DecidableEq

/-- The fault of a text that ends inside a bracket. -/
def Enclosure.endFault : Enclosure → Cause
  | .list => .endInList
  | .object => .endInObject

def Enclosure.separatorFault : Enclosure → Cause
  | .list => .listSeparatorExpected
  | .object => .objectSeparatorExpected

def Enclosure.closer : Enclosure → Char
  | .list => ']'
  | .object => '}'

/-- What a member of the bracket starts with. -/
def Enclosure.member : Enclosure → Turn
  | .list => .value
  | .object => .key

/-- One turn of a walk on a text that starts with no blank: the next turn and
the brackets then open. -/
def walkStep (m : Manner) : Turn → List Enclosure → Reader (Turn × List Enclosure)
  | .value, open_, s => match s with
    | [] => (.error (.ahead .endInValue []), [])
    | 'n' :: t => (do word ['u', 'l', 'l']; pure (Turn.after, open_)) t
    | 't' :: t => (do word ['r', 'u', 'e']; pure (Turn.after, open_)) t
    | 'f' :: t => (do word ['a', 'l', 's', 'e']; pure (Turn.after, open_)) t
    | '-' :: t => (do m.number false; pure (Turn.after, open_)) t
    | '"' :: t => (do m.string; pure (Turn.after, open_)) t
    | '[' :: t =>
      if m = .check ∧ maxDepth ≤ open_.length then (.error (.ahead .tooDeep s), s)
      else (.ok (.first, .list :: open_), t)
    | '{' :: t =>
      if m = .check ∧ maxDepth ≤ open_.length then (.error (.ahead .tooDeep s), s)
      else (.ok (.first, .object :: open_), t)
    | _ =>
      if startsDigit s then (do m.number true; pure (Turn.after, open_)) s
      else (.error (.ahead .valueExpected s), s)
  | .first, [], s => (.ok (.after, []), s)
  | .first, e :: outer, s => match s with
    | [] => (.error (.ahead e.endFault []), [])
    | c :: t => if c = e.closer then (.ok (.after, outer), t) else (.ok (e.member, e :: outer), s)
  | .key, open_, s => match s with
    | [] => (.error (.ahead .endInObject []), [])
    | '"' :: t => (do
        m.string
        fun u => match skipBlanks u with
          | [] => (.error (.ahead .endInObject []), [])
          | ':' :: v => (.ok (Turn.value, open_), v)
          | v => (.error (.ahead .colonExpected v), v)) t
    | _ => (.error (.ahead .keyNotText s), s)
  | .after, [], s => (.ok (.after, []), s)
  | .after, e :: outer, s => match s with
    | [] => (.error (.ahead e.endFault []), [])
    | c :: t =>
      if c = e.closer then (.ok (.after, outer), t)
      else if c = ',' then
        match m, skipBlanks t with
        | .check, [] => (.error (.ahead .endInValue []), [])
        | .check, d :: u =>
          if d = e.closer then (.error (.ahead .commaBeforeEnd (d :: u)), d :: u)
          else (.ok (e.member, e :: outer), d :: u)
        | .skim, u => (.ok (e.member, e :: outer), u)
      else (.error (.ahead e.separatorFault s), s)

/-- Turns until no bracket is open. `turns` bounds them; two turns pass over at least one character. -/
def walkFrom (m : Manner) : Nat → Turn → List Enclosure → Reader Unit
  | 0, _, _, s => (.error (.here .valueExpected s), s)
  | _ + 1, .after, [], s => (.ok (), s)
  | n + 1, turn, open_, s =>
    match walkStep m turn open_ (skipBlanks s) with
    | (.ok (next, now), t) => walkFrom m n next now t
    | (.error f, t) => (.error f, t)

/-- Pass over one value. -/
def walk (m : Manner) : Reader Unit := fun s => walkFrom m (2 * s.length + 2) .value [] s

/-- Check that a text is one value; the error if it is not. -/
def check (text : String) : Except Error Unit :=
  match walk .check text.toList with
  | (.error f, _) => .error (f.locate text.toList)
  | (.ok (), t) =>
    match skipBlanks t with
    | [] => .ok ()
    | u => .error ((Fault.ahead .textAfterValue u).locate text.toList)

end Standstill.Json
