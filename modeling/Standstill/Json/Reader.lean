import Standstill.Json.Fault

/-!
# Readers and the words of JSON

A reader takes what is left of a text to a value or a fault, and to what is
then left. The words are numbers, strings and the three literals. A number
keeps its exact value while it fits 64 bits and becomes a double beyond.

Results:
* `skipBlanks_cons`: blanks are skipped up to the first other character.
-/
namespace Standstill.Json

/-- From what is left of a text to a result and what is left after it. -/
def Reader (α : Type) := List Char → Except Fault α × List Char

namespace Reader

instance : Monad Reader where
  pure a := fun s => (.ok a, s)
  bind r f := fun s => match r s with
    | (.ok a, t) => f a t
    | (.error e, t) => (.error e, t)

/-- Always the same fault, without a place. -/
def fail {α : Type} (cause : Cause) : Reader α := fun s => (.error (.unplaced cause), s)

theorem pure_apply {α : Type} (a : α) (s : List Char) : (pure a : Reader α) s = (.ok a, s) := rfl

theorem bind_apply {α β : Type} (r : Reader α) (f : α → Reader β) (s : List Char) :
    (r >>= f) s = match r s with
      | (.ok a, t) => f a t
      | (.error e, t) => (.error e, t) := rfl

end Reader

/-- The four blanks of JSON. -/
def isJsonBlank (c : Char) : Bool := c == ' ' || c == '\n' || c == '\t' || c == '\r'

def skipBlanks (s : List Char) : List Char := s.dropWhile isJsonBlank

theorem skipBlanks_cons {c : Char} {s : List Char} (h : isJsonBlank c = false) :
    skipBlanks (c :: s) = c :: s := by
  simp [skipBlanks, List.dropWhile, h]

/-! ## Literals -/

/-- Exactly these characters. -/
def word : List Char → Reader Unit
  | [], s => (.ok (), s)
  | _ :: _, [] => (.error (.ahead .endInValue []), [])
  | e :: es, c :: s =>
    if c = e then word es s else (.error (.ahead .wordExpected (c :: s)), s)

/-! ## Numbers -/

inductive Number
  | natural (value : Nat)
  | negative (value : Nat)
  | float (negative : Bool) (value : Binary64)
deriving Repr, DecidableEq

def Number.found : Number → Found
  | .natural n => .integer n
  | .negative n => .integer (-n)
  | .float s x => .float s x

/-- The value of the digits that follow, up to the first that is none or
would take it over `limit`, and the rest. -/
def takeDigits (limit acc : Nat) : List Char → Nat × List Char
  | [] => (acc, [])
  | c :: s =>
    if c.isDigit then
      let v := acc * 10 + (c.toNat - '0'.toNat)
      if limit < v then (acc, c :: s) else takeDigits limit v s
    else (acc, c :: s)

def startsDigit : List Char → Bool
  | c :: _ => c.isDigit
  | [] => false

def dropDigits (s : List Char) : List Char := s.dropWhile Char.isDigit

/-- The largest significand kept. -/
def maxSignificand : Nat := UInt64.size - 1

/-- The largest exponent read digit by digit. -/
def maxExponentRead : Nat := Int32.maxValue.toInt.toNat

/-- The double `significand · 10 ^ exponent`. -/
def assemble (positive : Bool) (significand : Nat) (exponent : Int) : Reader Number := fun s =>
  match ((Binary64.nearest significand 1).getD .zero).scale exponent with
  | some x => (.ok (.float (!positive) x), s)
  | none => (.error (.here .numberTooLarge s), s)

/-- After an exponent's mark and sign. -/
def exponentDigits (positive : Bool) (significand : Nat) (start : Int) (up : Bool) :
    Reader Number
  | [] => (.error (.ahead .endInValue []), [])
  | c :: s =>
    if c.isDigit then
      let (e, t) := takeDigits maxExponentRead 0 (c :: s)
      if startsDigit t then
        if significand ≠ 0 ∧ up then (.error (.here .numberTooLarge t.tail), t.tail)
        else (.ok (.float (!positive) .zero), dropDigits t)
      else assemble positive significand (if up then start + e else start - e) t
    else (.error (.ahead .badNumber (c :: s)), s)

/-- From an exponent's mark on. -/
def exponentPart (positive : Bool) (significand : Nat) (start : Int) : Reader Number := fun s =>
  match s.tail with
  | '+' :: t => exponentDigits positive significand start true t
  | '-' :: t => exponentDigits positive significand start false t
  | t => exponentDigits positive significand start true t

def startsExponent : List Char → Bool
  | c :: _ => c == 'e' || c == 'E'
  | [] => false

/-- From the point on. Digits past the limit of the significand are dropped. -/
def fractionPart (positive : Bool) (significand : Nat) (start : Int) : Reader Number := fun s =>
  let digits := s.tail
  let (v, t) := takeDigits maxSignificand significand digits
  let exponent : Int := start - (digits.length - t.length)
  if startsDigit t then
    let u := dropDigits t
    if startsExponent u then exponentPart positive v exponent u else assemble positive v exponent u
  else if digits.length = t.length then
    match t with
    | [] => (.error (.ahead .endInValue []), [])
    | _ :: _ => (.error (.ahead .badNumber t), t)
  else if startsExponent t then exponentPart positive v exponent t
  else assemble positive v exponent t

/-- After the integer digits of a number that fits the significand. -/
def afterInteger (positive : Bool) (significand : Nat) : Reader Number := fun s =>
  match s with
  | '.' :: _ => fractionPart positive significand 0 s
  | _ =>
    if startsExponent s then exponentPart positive significand 0 s
    else if positive then (.ok (.natural significand), s)
    else if significand = 0 ∨ Int64.minValue.toInt.natAbs < significand then
      (.ok (.float true ((Binary64.nearest significand 1).getD .zero)), s)
    else (.ok (.negative significand), s)

/-- After the digits of an integer that overflows the significand: the
digits left count for the exponent only. -/
def longInteger (positive : Bool) (significand : Nat) : Reader Number := fun s =>
  let t := dropDigits s
  let exponent : Int := s.length - t.length
  match t with
  | '.' :: _ => fractionPart positive significand exponent t
  | _ =>
    if startsExponent t then exponentPart positive significand exponent t
    else assemble positive significand exponent t

/-- A number after its sign. -/
def number (positive : Bool) : Reader Number
  | [] => (.error (.ahead .endInValue []), [])
  | c :: s =>
    if c = '0' then
      if startsDigit s then (.error (.ahead .badNumber s), s) else afterInteger positive 0 s
    else if c.isDigit then
      let (v, t) := takeDigits maxSignificand 0 (c :: s)
      if startsDigit t then longInteger positive v t else afterInteger positive v t
    else (.error (.ahead .badNumber (c :: s)), s)

/-! ## Strings -/

def hexDigit? (c : Char) : Option Nat :=
  if c.isDigit then some (c.toNat - '0'.toNat)
  else if 'a' ≤ c ∧ c ≤ 'f' then some (c.toNat - 'a'.toNat + 10)
  else if 'A' ≤ c ∧ c ≤ 'F' then some (c.toNat - 'A'.toNat + 10)
  else none

/-- Four hexadecimal digits. -/
def hex4? : List Char → Option (Nat × List Char)
  | a :: b :: c :: d :: s => do
    let a ← hexDigit? a
    let b ← hexDigit? b
    let c ← hexDigit? c
    let d ← hexDigit? d
    pure (((a * 16 + b) * 16 + c) * 16 + d, s)
  | _ => none

theorem length_of_hex4? {s t : List Char} {n : Nat} (h : hex4? s = some (n, t)) :
    t.length + 4 = s.length := by
  match s, h with
  | a :: b :: c :: d :: s, h =>
    simp only [hex4?, Option.bind_eq_bind, Option.bind_eq_some_iff, Option.pure_def,
      Option.some.injEq, Prod.mk.injEq] at h
    obtain ⟨_, _, _, _, _, _, _, _, _, rfl⟩ := h
    simp

/-- Why four digits could not be read: four bytes that are no such digits, or the end. -/
def hexFault (s : List Char) : Fault :=
  if byteCount s < 4 then ⟨.endInText, some 0⟩ else ⟨.badEscape, some (byteCount s - 4)⟩

def shortEscape? : Char → Option Char
  | '"' => some '"'
  | '\\' => some '\\'
  | '/' => some '/'
  | 'b' => some '\x08'
  | 'f' => some '\x0c'
  | 'n' => some '\n'
  | 'r' => some '\r'
  | 't' => some '\t'
  | _ => none

def isLeadingSurrogate (n : Nat) : Bool := 0xD800 ≤ n && n ≤ 0xDBFF

def isTrailingSurrogate (n : Nat) : Bool := 0xDC00 ≤ n && n ≤ 0xDFFF

/-- The character of a hexadecimal escape, after `\u`; outside the basic
plane it takes a second escape. -/
def hexEscape (s : List Char) : Except Fault (Char × List Char) :=
  match hex4? s with
  | none => .error (hexFault s)
  | some (n, t) =>
    if isTrailingSurrogate n then .error (.here .loneSurrogate t)
    else if isLeadingSurrogate n then
      match t with
      | [] => .error (.here .endInText [])
      | '\\' :: [] => .error (.here .endInText [])
      | '\\' :: 'u' :: u =>
        match hex4? u with
        | none => .error (hexFault u)
        | some (m, v) =>
          if isTrailingSurrogate m then
            .ok (Char.ofNat ((n - 0xD800) * 0x400 + (m - 0xDC00) + 0x10000), v)
          else .error (.here .loneSurrogate v)
      | '\\' :: u => .error (.ahead .surrogateCut u)
      | u => .error (.ahead .surrogateCut u)
    else .ok (Char.ofNat n, t)

/-- One step into a string after its opening quote: a character of it, or its end. -/
def stringStep : List Char → Except Fault (Option Char × List Char)
  | [] => .error (.here .endInText [])
  | '"' :: s => .ok (none, s)
  | '\\' :: [] => .error (.here .endInText [])
  | '\\' :: c :: s =>
    match shortEscape? c with
    | some d => .ok (some d, s)
    | none =>
      if c = 'u' then (hexEscape s).map fun (d, t) => (some d, t)
      else .error (.ahead .badEscape (c :: s))
  | c :: s =>
    if c.toNat < 0x20 then .error (.here .controlCharacter s) else .ok (some c, s)

theorem length_of_hexEscape {s t : List Char} {c : Char} (h : hexEscape s = .ok (c, t)) :
    t.length < s.length := by
  unfold hexEscape at h
  split at h
  · cases h
  · rename_i n u hu
    have hl := length_of_hex4? hu
    split at h
    · cases h
    split at h
    · split at h <;> try cases h
      rename_i v
      split at h
      · cases h
      · rename_i m w hw
        have hl' := length_of_hex4? hw
        split at h
        · simp only [Except.ok.injEq, Prod.mk.injEq] at h
          obtain ⟨-, rfl⟩ := h
          simp only [List.length_cons] at hl
          omega
        · cases h
    · simp only [Except.ok.injEq, Prod.mk.injEq] at h
      obtain ⟨-, rfl⟩ := h
      omega

theorem length_of_stringStep {s t : List Char} {x : Option Char}
    (h : stringStep s = .ok (x, t)) : t.length < s.length := by
  unfold stringStep at h
  split at h
  · cases h
  · simp only [Except.ok.injEq, Prod.mk.injEq] at h
    simp [h.2]
  · cases h
  · split at h
    · simp only [Except.ok.injEq, Prod.mk.injEq] at h
      simp only [← h.2, List.length_cons]; omega
    · split at h
      · rename_i c u _ _ _
        cases hx : hexEscape u with
        | error f => simp [hx, Except.map] at h
        | ok r =>
          have := length_of_hexEscape (c := r.1) (t := r.2) hx
          simp only [hx, Except.map, Except.ok.injEq, Prod.mk.injEq] at h
          simp only [← h.2, List.length_cons]; omega
      · cases h
  · split at h
    · cases h
    · simp only [Except.ok.injEq, Prod.mk.injEq] at h
      simp [h.2]

/-- The rest of a string after its opening quote, `acc` being what was read, last first. -/
def stringRest (acc : List Char) : Reader String := fun s =>
  match _h : stringStep s with
  | .error f => (.error f, s)
  | .ok (none, t) => (.ok (String.ofList acc.reverse), t)
  | .ok (some c, t) => stringRest (c :: acc) t
termination_by s => s.length
decreasing_by exact length_of_stringStep _h

/-- The rest of a string after its opening quote. -/
def string : Reader String := stringRest []

/-! ## What stands here -/

/-- The kind of the value that starts here. Words are read to their end, brackets are left. -/
def found : Reader Found
  | 'n' :: s => (do word ['u', 'l', 'l']; pure Found.null) s
  | 't' :: s => (do word ['r', 'u', 'e']; pure (Found.boolean true)) s
  | 'f' :: s => (do word ['a', 'l', 's', 'e']; pure (Found.boolean false)) s
  | '-' :: s => (do let n ← number false; pure n.found) s
  | '"' :: s => (do let t ← string; pure (Found.text t)) s
  | '[' :: s => (.ok .sequence, '[' :: s)
  | '{' :: s => (.ok .map, '{' :: s)
  | s =>
    if startsDigit s then (do let n ← number true; pure n.found) s
    else (.error (.ahead .valueExpected s), s)

/-- Some other value stands where `expected` should. -/
def mismatch {α : Type} (expected : String) : Reader α := fun s =>
  match found s with
  | (.ok f, t) => (.error (.here (.wrongType f expected) t), t)
  | (.error e, t) => (.error e, t)

/-- Give a fault raised without a place that of what is now left. -/
def placing {α : Type} (r : Reader α) : Reader α := fun s =>
  match r s with
  | (.ok a, t) => (.ok a, t)
  | (.error f, t) => (.error (f.placedAt t), t)

end Standstill.Json
