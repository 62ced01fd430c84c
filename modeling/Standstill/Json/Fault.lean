import Standstill.Decimal.Shortest
import Standstill.Text.Quoted

/-!
# Why a text is not the JSON of a value

A `Cause` is either a fault of the grammar or a value that does not suit its
type. A `Fault` adds the place, kept as the number of bytes that were still
unread; a fault without a place gets that of the record around it. An
`Error` is what the reader of a whole text reports, with line and column.
-/
namespace Standstill.Json

/-- What stood where a value of another type was expected. -/
inductive Found
  | null
  | boolean (value : Bool)
  | integer (value : Int)
  | float (negative : Bool) (value : Binary64)
  | text (value : String)
  | sequence
  | map
  | unitVariant
deriving Repr, DecidableEq

inductive Cause
  | endInValue
  | endInText
  | endInObject
  | endInList
  | colonExpected
  | objectSeparatorExpected
  | listSeparatorExpected
  | wordExpected
  | valueExpected
  | badEscape
  | badNumber
  | numberTooLarge
  | loneSurrogate
  | surrogateCut
  | controlCharacter
  | keyNotText
  | commaBeforeEnd
  | textAfterValue
  | tooDeep
  | wrongType (found : Found) (expected : String)
  | outOfRange (found : Int) (expected : String)
  | wrongLength (found : Nat) (expected : String)
  | unknownVariant (name : String) (choices : List String)
  | unknownField (name : String) (choices : List String)
  | missingField (name : String)
  | duplicateField (name : String)
  | refused (reason : String)
deriving Repr, DecidableEq

/-- Floats in messages: up to sixteen places before the point and five after it without an exponent. -/
def floatStyle : Binary64.Style := ⟨-5, 15⟩

def Found.describe : Found → String
  | .null => "null"
  | .boolean b => "boolean `" ++ (if b then "true" else "false") ++ "`"
  | .integer i => "integer `" ++ toString i ++ "`"
  | .float s x => "floating point `" ++ x.render floatStyle s ++ "`"
  | .text s => "string " ++ quoted s
  | .sequence => "sequence"
  | .map => "map"
  | .unitVariant => "unit variant"

/-- A list of names to choose from. -/
def choiceText (names : List String) : String :=
  let ticked := names.map fun n => "`" ++ n ++ "`"
  match ticked with
  | [a] => a
  | [a, b] => a ++ " or " ++ b
  | _ => "one of " ++ ", ".intercalate ticked

def Cause.message : Cause → String
  | .endInValue => "EOF while parsing a value"
  | .endInText => "EOF while parsing a string"
  | .endInObject => "EOF while parsing an object"
  | .endInList => "EOF while parsing a list"
  | .colonExpected => "expected `:`"
  | .objectSeparatorExpected => "expected `,` or `\x7d`"
  | .listSeparatorExpected => "expected `,` or `]`"
  | .wordExpected => "expected ident"
  | .valueExpected => "expected value"
  | .badEscape => "invalid escape"
  | .badNumber => "invalid number"
  | .numberTooLarge => "number out of range"
  | .loneSurrogate => "lone leading surrogate in hex escape"
  | .surrogateCut => "unexpected end of hex escape"
  | .controlCharacter => "control character (\\u0000-\\u001F) found while parsing a string"
  | .keyNotText => "key must be a string"
  | .commaBeforeEnd => "trailing comma"
  | .textAfterValue => "trailing characters"
  | .tooDeep => "recursion limit exceeded"
  | .wrongType f e => "invalid type: " ++ f.describe ++ ", expected " ++ e
  | .outOfRange i e => "invalid value: integer `" ++ toString i ++ "`, expected " ++ e
  | .wrongLength n e => "invalid length " ++ toString n ++ ", expected " ++ e
  | .unknownVariant n cs => "unknown variant `" ++ n ++ "`, expected " ++ choiceText cs
  | .unknownField n cs => "unknown field `" ++ n ++ "`, expected " ++ choiceText cs
  | .missingField n => "missing field `" ++ n ++ "`"
  | .duplicateField n => "duplicate field `" ++ n ++ "`"
  | .refused r => r

/-- The length of a text in bytes. -/
def byteCount (s : List Char) : Nat := s.foldl (fun n c => n + c.utf8Size) 0

/-- A cause and, once it is known, the number of bytes unread at its place. -/
structure Fault where
  cause : Cause
  unread : Option Nat
deriving Repr, DecidableEq

/-- At the start of what is left. -/
def Fault.here (cause : Cause) (rest : List Char) : Fault := ⟨cause, some (byteCount rest)⟩

/-- One byte into what is left, or at its end if nothing is. -/
def Fault.ahead (cause : Cause) (rest : List Char) : Fault := ⟨cause, some (byteCount rest - 1)⟩

/-- Without a place yet. -/
def Fault.unplaced (cause : Cause) : Fault := ⟨cause, none⟩

/-- Placed at what is left, unless it has a place. -/
def Fault.placedAt (f : Fault) (rest : List Char) : Fault :=
  { f with unread := some (f.unread.getD (byteCount rest)) }

/-- A line, counted from one, and the bytes before a place on it. -/
structure Place where
  line : Nat
  column : Nat
deriving Repr, DecidableEq

/-- The place `offset` bytes on from `here`. -/
def Place.advance (here : Place) : Nat → List Char → Place
  | 0, _ => here
  | _ + 1, [] => here
  | n + 1, c :: s =>
    if c = '\n' then Place.advance ⟨here.line + 1, 0⟩ n s
    else
      let size := min (n + 1) c.utf8Size
      Place.advance ⟨here.line, here.column + size⟩ (n + 1 - size) s
termination_by _ s => s.length

/-- Why a whole text was refused, and where if that is known. -/
structure Error where
  cause : Cause
  place : Option Place
deriving Repr, DecidableEq

def Error.message (e : Error) : String :=
  match e.place with
  | none => e.cause.message
  | some p => e.cause.message ++ " at line " ++ toString p.line ++ " column " ++ toString p.column

/-- The fault of a reader, located in the whole text. -/
def Fault.locate (f : Fault) (text : List Char) : Error where
  cause := f.cause
  place := f.unread.map fun n => Place.advance ⟨1, 0⟩ (byteCount text - n) text

end Standstill.Json
