import Standstill.Json.Codec

/-!
# Records and named choices

`Fields` lists the fields of a record with their codecs; the values of all
fields together are a nested pair, and so is a draft of them, in which a
value may be missing while an object is read. `Record` adds the
names used in messages and the way to the type itself. `Choices` is a value
chosen by name, with or without a payload.
-/
namespace Standstill.Json

/-- The fields of a record. Their values together are a `τ`; a `δ` is a draft
of those, where each value is there or not yet. -/
inductive Fields : Type → Type → Type 1
  | nil : Fields Unit Unit
  /-- A field, the value it has when it is left out (if it may be), and the fields after it. -/
  | cons {α τ δ : Type} (name : String) (codec : Codec α) (absent : Option α)
      (rest : Fields τ δ) : Fields (α × τ) (Option α × δ)

namespace Fields

def emptyDraft : {τ δ : Type} → Fields τ δ → δ
  | _, _, .nil => ()
  | _, _, .cons _ _ _ rest => (none, rest.emptyDraft)

def names : {τ δ : Type} → Fields τ δ → List String
  | _, _, .nil => []
  | _, _, .cons name _ _ rest => name :: rest.names

/-- The colon before a value. -/
def colon : Reader Unit := fun s =>
  match skipBlanks s with
  | [] => (.error (.ahead .endInObject []), [])
  | ':' :: t => (.ok (), t)
  | t => (.error (.ahead .colonExpected t), t)

/-- Read the value of the field `key` into a draft; `none` if there is no such field. -/
def readField : {τ δ : Type} → Fields τ δ → (key : String) → δ → Option (Reader δ)
  | _, _, .nil, _, _ => none
  | _, _, .cons name codec _ rest, key, (value, draft) =>
    if key = name then
      match value with
      | some _ => some (.fail (.duplicateField name))
      | none => some (do
          colon
          let a ← codec.read
          pure (some a, draft))
    else (rest.readField key draft).map fun r => do
      let later ← r
      pure (value, later)

/-- The values of a draft in which every field is there or may be left out. -/
def complete : {τ δ : Type} → Fields τ δ → δ → Except Cause τ
  | _, _, .nil, () => .ok ()
  | _, _, .cons name _ absent rest, (value, draft) =>
    match value <|> absent with
    | none => .error (.missingField name)
    | some a => (rest.complete draft).map fun b => (a, b)

/-- The fields from an array, `count` of them being read. -/
def readInOrder (arity : String) : {τ δ : Type} → Fields τ δ → (count : Nat) → Reader τ
  | _, _, .nil, _ => pure ()
  | _, _, .cons _ codec _ rest, count => do
    if ← Codec.moreElements (count == 0) then
      let a ← codec.read
      let b ← rest.readInOrder arity (count + 1)
      pure (a, b)
    else .fail (.wrongLength count arity)

/-- Each field as `"name":value`. -/
def write : {τ δ : Type} → Fields τ δ → τ → List (List Char)
  | _, _, .nil, () => []
  | _, _, .cons name codec _ rest, (a, b) =>
    ('"' :: (name.toList ++ ['"', ':'] ++ codec.write a)) :: rest.write b

end Fields

/-- A record of type `α`. -/
structure Record (α : Type) where
  /-- Named where something else than a record stands. -/
  title : String
  /-- Named where an array is too short. -/
  arity : String
  {τ δ : Type}
  fields : Fields τ δ
  build : τ → Except Cause α
  parts : α → τ
  /-- Whether a field that is not listed is refused. -/
  closed : Bool

namespace Record

variable {α : Type}

/-- Whether another member follows in an object, with what precedes its key read. -/
def moreMembers (isFirst : Bool) : Reader Bool := fun s =>
  match skipBlanks s with
  | [] => (.error (.ahead .endInObject []), [])
  | '}' :: t => (.ok false, '}' :: t)
  | c :: t =>
    let keyAt (u : List Char) : Except Fault Bool × List Char :=
      match u with
      | [] => (.error (.ahead .endInValue []), [])
      | '"' :: v => (.ok true, v)
      | '}' :: v => (.error (.ahead .commaBeforeEnd ('}' :: v)), '}' :: v)
      | v => (.error (.ahead .keyNotText v), v)
    if isFirst then keyAt (c :: t)
    else if c = ',' then keyAt (skipBlanks t)
    else (.error (.ahead .objectSeparatorExpected (c :: t)), c :: t)

/-- One member after the opening quote of its key. -/
def member (r : Record α) (draft : r.δ) : Reader r.δ := do
  let key ← string
  match r.fields.readField key draft with
  | some read => read
  | none =>
    if r.closed then .fail (.unknownField key r.fields.names)
    else
      Fields.colon
      walk .skim
      pure draft

/-- The members left in an object. What takes up no text is no member. -/
def members (r : Record α) (isFirst : Bool) (draft : r.δ) : Reader r.δ :=
  fun s =>
    match moreMembers isFirst s with
    | (.error f, t) => (.error f, t)
    | (.ok false, t) => (.ok draft, t)
    | (.ok true, t) =>
      match r.member draft t with
      | (.error f, u) => (.error f, u)
      | (.ok d, u) =>
        if u.length < s.length then r.members false d u
        else (.error (.ahead .valueExpected u), u)
termination_by s => s.length

/-- A result or a cause, as a reader that reads nothing. -/
def settle {β : Type} : Except Cause β → Reader β
  | .ok b => pure b
  | .error c => .fail c

def read (r : Record α) : Reader α := fun s =>
  match skipBlanks s with
  | [] => (.error (.ahead .endInValue []), [])
  | '[' :: t => Codec.enclosed (do
      let parts ← r.fields.readInOrder r.arity 0
      settle (r.build parts)) Codec.endArray t
  | '{' :: t => Codec.enclosed (do
      let draft ← r.members true r.fields.emptyDraft
      let parts ← settle (r.fields.complete draft)
      settle (r.build parts)) Codec.endObject t
  | t => mismatch r.title t

def codec (r : Record α) : Codec α where
  read := r.read
  write a := '{' :: (Codec.commaSeparated (r.fields.write (r.parts a)) ++ ['}'])

end Record

/-! ## Named choices -/

/-- What comes with a name. -/
inductive Payload (α : Type)
  /-- Nothing; `null` if the name is written as the key of an object. -/
  | unit (value : α)
  /-- A value under the name. -/
  | value (read : Reader α)

/-- Values chosen by name. -/
structure Choices (α : Type) where
  options : List (String × Payload α)
  write : α → List Char

namespace Choices

variable {α : Type}

/-- The name of a choice, after its opening quote. -/
def name (c : Choices α) : Reader (Payload α) := placing do
  let text ← string
  match c.options.lookup text with
  | some p => pure p
  | none => .fail (.unknownVariant text (c.options.map Prod.fst))

/-- The opening quote of the one key in the object around a choice. -/
def openKey : Reader Unit := fun s =>
  match skipBlanks s with
  | [] => (.error (.ahead .endInObject []), [])
  | '"' :: t => (.ok (), t)
  | '}' :: t => (.error (.ahead .valueExpected ('}' :: t)), '}' :: t)
  | t => (.error (.ahead .keyNotText t), t)

/-- The word `null`, before which blanks may stand. -/
def readNull : Reader Unit := fun s =>
  match skipBlanks s with
  | [] => (.error (.ahead .endInValue []), [])
  | 'n' :: t => word ['u', 'l', 'l'] t
  | t => mismatch "unit" t

/-- What stands under a name. -/
def payload : Payload α → Reader α
  | .unit a => do
    readNull
    pure a
  | .value r => r

/-- The end of the object around a choice. -/
def endChoice : Reader Unit := fun s =>
  match skipBlanks s with
  | [] => (.error (.here .endInObject []), [])
  | '}' :: t => (.ok (), t)
  | t => (.error (.here .valueExpected t), t)

/-- A name alone, or an object with the name as its one key. -/
def read (c : Choices α) : Reader α := fun s =>
  match skipBlanks s with
  | [] => (.error (.ahead .endInValue []), [])
  | '{' :: t => (do
      openKey
      let p ← c.name
      Fields.colon
      let a ← payload p
      endChoice
      pure a) t
  | '"' :: t => (do
      match ← c.name with
      | .unit a => pure a
      | .value _ => .fail (.wrongType .unitVariant "struct variant")) t
  | t => (.error (.ahead .valueExpected t), t)

def codec (c : Choices α) : Codec α where
  read := c.read
  write := c.write

end Choices

end Standstill.Json
