import Standstill.Json.Value

/-!
# Codecs

A `Codec` reads values of a type from JSON and writes them back. Codecs are
put together from integers, names with payloads, optional values, lists and
records. A record is written as an object with its fields in order; it is
read from an object with its fields in any order, or from an array of its
fields in order. `Codec.parse` reads a whole text.

A fault raised by a record as a whole (a missing field, a wrong length) has
no place of its own. Before it gets one, the record's closing bracket is
read if it comes next.
-/
namespace Standstill.Json

structure Codec (α : Type) where
  read : Reader α
  write : α → List Char

namespace Codec

variable {α β : Type}

/-- The text of a value, on one line. -/
def line (c : Codec α) (a : α) : String := String.ofList (c.write a)

/-- The value that the whole of a text is, blanks around it apart. -/
def parse (c : Codec α) (text : String) : Except Error α :=
  match c.read text.toList with
  | (.error f, _) => .error (f.locate text.toList)
  | (.ok a, t) =>
    match skipBlanks t with
    | [] => .ok a
    | u => .error ((Fault.ahead .textAfterValue u).locate text.toList)

/-- Values of another type, read through `f` and written through `g`. -/
def via (c : Codec α) (f : α → β) (g : β → α) : Codec β where
  read := f <$> c.read
  write b := c.write (g b)

/-! ## Integers -/

/-- The integer that a number stands for, if it is between `low` and `high`. -/
def takeInteger (title : String) (low high : Int) (n : Number) : Except Cause Int :=
  match n with
  | .float s x => .error (.wrongType (.float s x) title)
  | .natural v =>
    if low ≤ v ∧ (v : Int) ≤ high then .ok v else .error (.outOfRange v title)
  | .negative v =>
    if low ≤ -(v : Int) ∧ -(v : Int) ≤ high then .ok (-v) else .error (.outOfRange (-v) title)

/-- A number read by `r`, as an integer between `low` and `high`. -/
def integerFrom (title : String) (low high : Int) (r : Reader Number) : Reader Int := fun s =>
  match r s with
  | (.error f, t) => (.error f, t)
  | (.ok n, t) =>
    match takeInteger title low high n with
    | .ok i => (.ok i, t)
    | .error c => (.error (.here c t), t)

/-- An integer between `low` and `high`; `title` names the type in messages. -/
def readInteger (title : String) (low high : Int) : Reader Int := fun s =>
  match skipBlanks s with
  | [] => (.error (.ahead .endInValue []), [])
  | '-' :: t => integerFrom title low high (number false) t
  | c :: t =>
    if c.isDigit then integerFrom title low high (number true) (c :: t)
    else mismatch title (c :: t)

/-- The decimal numeral of an integer. -/
def writeInteger (i : Int) : List Char :=
  if 0 ≤ i then Nat.toDigits 10 i.toNat else '-' :: Nat.toDigits 10 (-i).toNat

def integer (title : String) (low high : Int) : Codec Int where
  read := readInteger title low high
  write := writeInteger

def word16 : Codec UInt16 :=
  (integer "u16" 0 (UInt16.size - 1)).via (fun i => UInt16.ofNat i.toNat) (fun w => w.toNat)

def word32 : Codec UInt32 :=
  (integer "u32" 0 (UInt32.size - 1)).via (fun i => UInt32.ofNat i.toNat) (fun w => w.toNat)

def word64 : Codec UInt64 :=
  (integer "u64" 0 (UInt64.size - 1)).via (fun i => UInt64.ofNat i.toNat) (fun w => w.toNat)

/-- A count or an index. -/
def size : Codec UInt64 :=
  (integer "usize" 0 (UInt64.size - 1)).via (fun i => UInt64.ofNat i.toNat) (fun w => w.toNat)

def signed32 : Codec Int32 :=
  (integer "i32" Int32.minValue.toInt Int32.maxValue.toInt).via Int32.ofInt Int32.toInt

/-! ## Texts -/

/-- A string of a fixed form. `title` names the type where no string stands,
`reason` a string that `parse` refuses. The texts written need no escapes. -/
def formatted (title reason : String) (parse : String → Option α) (print : α → String) :
    Codec α where
  read := fun s =>
    match skipBlanks s with
    | [] => (.error (.ahead .endInValue []), [])
    | '"' :: t =>
      match string t with
      | (.error f, u) => (.error f, u)
      | (.ok text, u) =>
        match parse text with
        | some a => (.ok a, u)
        | none => (.error (.here (.refused reason) u), u)
    | t => mismatch title t
  write a := '"' :: ((print a).toList ++ ['"'])

/-! ## Optional values and lists -/

/-- A value or `null`. -/
def optional (c : Codec α) : Codec (Option α) where
  read := fun s =>
    match skipBlanks s with
    | 'n' :: t => (do word ['u', 'l', 'l']; pure none) t
    | t => (some <$> c.read) t
  write
    | none => ['n', 'u', 'l', 'l']
    | some a => c.write a

/-- Whether another element follows in an array, with what precedes it read. -/
def moreElements (isFirst : Bool) : Reader Bool := fun s =>
  match skipBlanks s with
  | [] => (.error (.ahead .endInList []), [])
  | ']' :: t => (.ok false, ']' :: t)
  | c :: t =>
    if isFirst then (.ok true, c :: t)
    else if c = ',' then
      match skipBlanks t with
      | [] => (.error (.ahead .endInValue []), [])
      | ']' :: u => (.error (.ahead .commaBeforeEnd (']' :: u)), ']' :: u)
      | u => (.ok true, u)
    else (.error (.ahead .listSeparatorExpected (c :: t)), c :: t)

/-- The end of an array. -/
def endArray : Reader Unit := fun s =>
  match skipBlanks s with
  | [] => (.error (.ahead .endInList []), [])
  | ']' :: t => (.ok (), t)
  | ',' :: t =>
    match skipBlanks t with
    | ']' :: u => (.error (.ahead .commaBeforeEnd (']' :: u)), ']' :: u)
    | u => (.error (.ahead .textAfterValue u), u)
  | t => (.error (.ahead .textAfterValue t), t)

/-- The end of an object. -/
def endObject : Reader Unit := fun s =>
  match skipBlanks s with
  | [] => (.error (.ahead .endInObject []), [])
  | '}' :: t => (.ok (), t)
  | ',' :: t => (.error (.ahead .commaBeforeEnd (',' :: t)), ',' :: t)
  | t => (.error (.ahead .textAfterValue t), t)

/-- The contents of a bracket, then its end. The end is tried after a fault
too, which moves the place of a fault that has none. -/
def enclosed (contents : Reader α) (close : Reader Unit) : Reader α := placing fun s =>
  match contents s with
  | (.error f, t) => (.error f, (close t).2)
  | (.ok a, t) =>
    match close t with
    | (.ok (), u) => (.ok a, u)
    | (.error f, u) => (.error f, u)

/-- The elements left in an array, `acc` being those before, last first. What
takes up no text is no element. -/
def elements (r : Reader α) (isFirst : Bool) (acc : List α) : Reader (List α) := fun s =>
  match moreElements isFirst s with
  | (.error f, t) => (.error f, t)
  | (.ok false, t) => (.ok acc.reverse, t)
  | (.ok true, t) =>
    match r t with
    | (.error f, u) => (.error f, u)
    | (.ok a, u) =>
      if u.length < s.length then elements r false (a :: acc) u
      else (.error (.ahead .valueExpected u), u)
termination_by s => s.length

/-- Texts with commas between them. -/
def commaSeparated : List (List Char) → List Char
  | [] => []
  | [t] => t
  | t :: ts => t ++ ',' :: commaSeparated ts

def list (c : Codec α) : Codec (List α) where
  read := fun s =>
    match skipBlanks s with
    | [] => (.error (.ahead .endInValue []), [])
    | '[' :: t => enclosed (elements c.read true []) endArray t
    | t => mismatch "a sequence" t
  write as := '[' :: (commaSeparated (as.map c.write) ++ [']'])

end Codec

end Standstill.Json
