/-
Module: WorkflowEngine.Json.Decoder
Layer: Json
Purpose: Typed decoding of JSON, from a value or straight from text.
Imports: WorkflowEngine.Json.Reader
Trusted boundary: none
Main exports: Json.Decoder, Json.Decoder.any, Json.Field, Json.Record, Json.Record.decoder, Json.Decoder.readBytes,
  Json.Decoder.readText
-/
import WorkflowEngine.Json.Reader

/-!
# Decoding

A decoder knows two ways to the same type: from a value, and from text in one pass, where a fault of shape is
reported as soon as it is met, even if the text is malformed further on.

A record is decoded from an object, field by field in the order of the members, or from a list of its fields
in their declared order.  Members with other names are ignored.  Fields are collected in a draft, which is
completed when all have been seen.
-/

namespace WorkflowEngine.Json

/-- Decodes a type from values and from text. -/
structure Decoder (α : Type) where
  ofValue : Json → Except ShapeFault α
  ofText : (depth : Nat) → List Char → Except Located (α × List Char)

namespace Decoder

/-- Decodes and transforms. -/
def map {α β : Type} (f : α → β) (d : Decoder α) : Decoder β where
  ofValue v := (d.ofValue v).map f
  ofText depth cs := (d.ofText depth cs).map fun (a, rest) => (f a, rest)

/-- Takes the value of embedded text in an object with a number of other members. -/
def takeEmbedded (others : Nat) : Json → Except ShapeFault Json
  | .text s => do
      let value ← fromEmbedded (Json.ofText s)
      if others = 0 then .ok value else .error (.tooManyMembers (others + 1))
  | v => .error (.invalidType (found v) embeddedText)

mutual

/-- Any value is taken as it is, but for objects that hold embedded text. -/
def takeAny : Json → Except ShapeFault Json
  | .list items => (takeAnyItems items).map .list
  | .object [] => .ok (.object [])
  | .object ((key, value) :: rest) =>
      if key = embeddedKey then takeEmbedded rest.length value
      else (takeAnyMembers ((key, value) :: rest)).map .object
  | v => .ok v

/-- Takes the items of a list. -/
def takeAnyItems : List Json → Except ShapeFault (List Json)
  | [] => .ok []
  | item :: items => do
      let item ← takeAny item
      let items ← takeAnyItems items
      .ok (item :: items)

/-- Takes the members of an object. -/
def takeAnyMembers : List (String × Json) → Except ShapeFault (List (String × Json))
  | [] => .ok []
  | (key, value) :: members => do
      let value ← takeAny value
      let members ← takeAnyMembers members
      .ok ((key, value) :: members)

end

/-- Any value at all. -/
def any : Decoder Json where
  ofValue := takeAny
  ofText := readValue

/-- A text, which `interpret` may still refuse. -/
def interpreted {α : Type} (expected : String) (interpret : String → Except ShapeFault α) : Decoder α where
  ofValue
    | .text s => interpret s
    | v => .error (.invalidType (found v) expected)
  ofText _ cs := do
    let (s, rest) ← readExpected expected cs
    match interpret s with
    | .ok a => .ok (a, rest)
    | .error fault => .error (.shape fault)

/-- A text. -/
def text : Decoder String := interpreted "a string" .ok

/-- An identifier in any spelling. -/
def uuid : Decoder Uuid :=
  interpreted "a formatted UUID string" fun s => (Uuid.readAny s.toList).mapError .invalidUuid

/-- `null`, or what another decoder accepts. -/
def nullable {α : Type} (d : Decoder α) : Decoder (Option α) where
  ofValue
    | .null => .ok none
    | v => (d.ofValue v).map some
  ofText depth cs :=
    match skipBlanks cs with
    | 'n' :: rest => (located (readWord "ull".toList rest)).map fun rest => (none, rest)
    | _ => (d.ofText depth cs).map fun (a, rest) => (some a, rest)

/-- Reads items up to the closing bracket; `done` holds those read, in reverse. -/
def readItems {α : Type} (item : List Char → Read α) : (fuel position : Nat) → (done : List α) →
    List Char → Except Located (List α × List Char)
  | 0, _, _, _ => .error (.here .endInList)
  | fuel + 1, position, done, cs => do
      let (more, rest) ← located (nextItem (position == 0) cs)
      if more then
        let (a, rest) ← within (.index position) (item rest)
        readItems item fuel (position + 1) (a :: done) rest
      else .ok (done.reverse, rest)

/-- A list whose items another decoder accepts. -/
def list {α : Type} (d : Decoder α) : Decoder (List α) where
  ofValue
    | .list items => items.mapM d.ofValue
    | v => .error (.invalidType (found v) "a sequence")
  ofText depth cs :=
    match skipBlanks cs with
    | '[' :: rest =>
        if depth ≤ 1 then .error (.here .tooDeep)
        else do
          let (items, rest) ← readItems (d.ofText (depth - 1)) (rest.length + 1) 0 [] rest
          let rest ← located (endList rest)
          .ok (items, rest)
    | _ => readMismatch "a sequence" cs

end Decoder

/-! ## Records -/

/-- A field of a record that is drafted as `σ`. -/
structure Field (σ : Type) where
  key : String
  present : σ → Bool
  decoder : Decoder (σ → σ)

/-- A record: its name, its fields, and how a draft is completed.  Completion is given the fault that a
missing field of some name amounts to. -/
structure Record (σ α : Type) where
  name : String
  fields : List (Field σ)
  empty : σ
  complete : (missing : String → ShapeFault) → σ → Except ShapeFault α

/-- The value of a field that must be there. -/
def require {α : Type} (missing : String → ShapeFault) (key : String) : Option α → Except ShapeFault α
  | some a => .ok a
  | none => .error (missing key)

namespace Record

variable {σ α : Type}

/-- What a missing field means in a list of fields. -/
def shortList (r : Record σ α) (key : String) : ShapeFault :=
  .tooShort (r.fields.findIdx (·.key == key)) r.name r.fields.length

/-- Takes members into a draft. -/
def takeMembers (r : Record σ α) : σ → Object → Except ShapeFault σ
  | draft, [] => .ok draft
  | draft, (key, value) :: rest =>
      match r.fields.find? (·.key == key) with
      | none => takeMembers r draft rest
      | some field => do
          let put ← field.decoder.ofValue value
          takeMembers r (put draft) rest

/-- Takes items into a draft, one for each field. -/
def takeItems : List (Field σ) → σ → List Json → Except ShapeFault σ
  | field :: fields, draft, item :: items => do
      let put ← field.decoder.ofValue item
      takeItems fields (put draft) items
  | _, draft, _ => .ok draft

/-- Decodes a record from a value. -/
def ofValue (r : Record σ α) : Json → Except ShapeFault α
  | .object members => do
      let draft ← r.takeMembers r.empty members
      r.complete .missingField draft
  | .list items => do
      let draft ← takeItems r.fields r.empty items
      let a ← r.complete r.shortList draft
      if r.fields.length < items.length then .error (.tooLong items.length) else .ok a
  | v => .error (.invalidType (found v) ("struct " ++ r.name))

/-- Reads members into a draft. -/
def readMembers (r : Record σ α) (depth : Nat) : (fuel : Nat) → (first : Bool) → σ → List Char →
    Except Located (σ × List Char)
  | 0, _, _, _ => .error (.here .endInObject)
  | fuel + 1, first, draft, cs => do
      let (more, rest) ← located (nextKey first cs)
      if more then
        let (key, rest) ← located (Json.readText rest)
        match r.fields.find? (·.key == key) with
        | none =>
            let rest ← within (.key key) (located (readColon rest >>= skipValue))
            readMembers r depth fuel false draft rest
        | some field =>
            if field.present draft then .error (.shape (.duplicateField key))
            else
              let (put, rest) ← within (.key key) do
                let rest ← located (readColon rest)
                field.decoder.ofText depth rest
              readMembers r depth fuel false (put draft) rest
      else .ok (draft, rest)

/-- Reads one item for each field into a draft; the text may end the list early. -/
def readFields (depth : Nat) : List (Field σ) → (position : Nat) → σ → List Char →
    Except Located (σ × List Char)
  | [], _, draft, cs => .ok (draft, cs)
  | field :: fields, position, draft, cs => do
      let (more, rest) ← located (nextItem (position == 0) cs)
      if more then
        let (put, rest) ← within (.index position) (field.decoder.ofText depth rest)
        readFields depth fields (position + 1) (put draft) rest
      else .ok (draft, rest)

/-- Decodes a record from text. -/
def ofText (r : Record σ α) (depth : Nat) (cs : List Char) : Except Located (α × List Char) :=
  match skipBlanks cs with
  | '{' :: rest =>
      if depth ≤ 1 then .error (.here .tooDeep)
      else do
        let (draft, rest) ← r.readMembers (depth - 1) (rest.length + 1) true r.empty rest
        let a ← (r.complete .missingField draft).mapError .shape
        let rest ← located (endObject rest)
        .ok (a, rest)
  | '[' :: rest =>
      if depth ≤ 1 then .error (.here .tooDeep)
      else do
        let (draft, rest) ← readFields (depth - 1) r.fields 0 r.empty rest
        let a ← (r.complete r.shortList draft).mapError .shape
        let rest ← located (endList rest)
        .ok (a, rest)
  | _ => readMismatch ("struct " ++ r.name) cs

/-- The decoder of a record. -/
def decoder (r : Record σ α) : Decoder α := ⟨r.ofValue, r.ofText⟩

end Record

/-- Reads bytes to their end with a decoder. -/
def Decoder.readBytes {α : Type} (d : Decoder α) (bytes : List UInt8) : Except Located α :=
  readEnd (d.ofText depthLimit (source bytes))

/-- Reads a whole text with a decoder. -/
def Decoder.readText {α : Type} (d : Decoder α) (text : String) : Except Located α := d.readBytes (octets text)

end WorkflowEngine.Json
