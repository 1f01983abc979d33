/-
Module: WorkflowEngine.Json.Reader
Layer: Json
Purpose: Reading JSON text from left to right, with the first fault and the way to it.
Imports: WorkflowEngine.Json.Fault, WorkflowEngine.Number.Decimal, WorkflowEngine.Text.Utf8
Trusted boundary: none
Main exports: Json.source, Json.Read, Json.readValue, Json.skipValue, Json.readNumber, Json.readText, Json.ofText
-/
import WorkflowEngine.Json.Fault
import WorkflowEngine.Number.Decimal
import WorkflowEngine.Text.Utf8

/-!
# Reading JSON text

Text is read in one pass, byte by byte; the reader sees a byte as the character with its number.  What stands
between quotes must be UTF-8.  A number is an integer when it fits 64 bits and a double otherwise; a double is
formed from the digits that fit 64 bits and a power of ten.  Containers may nest 127 deep.  Text under a key
that nobody asks for is skipped by a laxer pass, which accepts numbers, escapes and bytes of any value.

An object whose first key is the key of embedded text is no object: it is read as the value whose JSON text it
holds.
-/

namespace WorkflowEngine.Json

/-- What is left of the text after something was read, or why it could not be. -/
abbrev Scan (α : Type) := Except SyntaxFault (α × List Char)

/-- A scan that also says where in the value a fault was met. -/
abbrev Read (α : Type) := Except Located (α × List Char)

/-- What the reader sees of a byte. -/
def ofByte (byte : UInt8) : Char := Char.ofNat byte.toNat

/-- What the reader sees of bytes. -/
def source (bytes : List UInt8) : List Char := bytes.map ofByte

/-- What the reader sees of a character. -/
def spell (c : Char) : List Char := source (String.utf8EncodeChar c)

/-- The text whose bytes the reader has seen. -/
def unspell (cs : List Char) : Except SyntaxFault String :=
  match ofUtf8? (cs.map Char.toNat) with
  | some chars => .ok (String.ofList chars)
  | none => .error .invalidCodePoint

/-- How deep containers may nest, plus one. -/
def depthLimit : Nat := 128

/-- Drops the four white space characters of JSON. -/
def skipBlanks (cs : List Char) : List Char :=
  cs.dropWhile fun c => c = ' ' || c = '\n' || c = '\t' || c = '\r'

/-- Reads the rest of a word. -/
def readWord : (word : List Char) → List Char → Except SyntaxFault (List Char)
  | [], cs => .ok cs
  | _ :: _, [] => .error .endInValue
  | w :: word, c :: cs => if c = w then readWord word cs else .error .expectedIdent

/-! ## Numbers -/

/-- Appends digits to a number as long as it stays below the limit; also tells how many were taken. -/
def absorbDigits (limit : Nat) : (value taken : Nat) → List Char → Nat × Nat × List Char
  | value, taken, [] => (value, taken, [])
  | value, taken, c :: rest =>
      if c.isDigit ∧ 10 * value + digitValue c < limit then
        absorbDigits limit (10 * value + digitValue c) (taken + 1) rest
      else (value, taken, c :: rest)

/-- Whether a digit comes next. -/
def atDigit : List Char → Bool
  | c :: _ => c.isDigit
  | [] => false

/-- Multiplies a number that is not negative by a power of ten, one rounding for each factor up to
`10 ^ 308`. -/
def scaleByTen (x : Binary64) (e : Int) : Except SyntaxFault Binary64 :=
  if 0 ≤ e then
    if e ≤ 308 then
      let y := x.mul (.ofNat (Nat.pow 10 e.toNat))
      if y.isFinite then .ok y else .error .numberOutOfRange
    else if x = .zero then .ok x else .error .numberOutOfRange
  else if -308 ≤ e then .ok (x.div (.ofNat (Nat.pow 10 (-e).toNat)))
  else if x = .zero then .ok x
  else scaleByTen (x.div (.ofNat (Nat.pow 10 308))) (e + 308)
  termination_by (-e).toNat

/-- The double made of 64 bits of digits and a power of ten. -/
def floatOfParts (negative : Bool) (significand : Nat) (exponent : Int) (rest : List Char) : Scan Number :=
  (scaleByTen (.ofNat significand) exponent).map fun x => (.float (x.withSign negative), rest)

/-- Keeps an exponent within 32 bits. -/
def boundExponent (e : Int) : Int := max (-2147483648) (min 2147483647 e)

/-- Reads what follows an exponent mark. -/
def readExponent (negative : Bool) (significand : Nat) (start : Int) (cs : List Char) : Scan Number :=
  let (down, digits) := Decimal.splitSign cs
  match digits with
  | [] => .error .endInValue
  | c :: _ =>
      if c.isDigit then
        let (e, _, rest) := absorbDigits 2147483648 0 0 digits
        if atDigit rest then
          if significand ≠ 0 ∧ down = false then .error .numberOutOfRange
          else .ok (.float (.finite negative 0), rest.dropWhile Char.isDigit)
        else
          let exponent : Int := if down then start - e else start + e
          floatOfParts negative significand (boundExponent exponent) rest
      else .error .invalidNumber

/-- Reads an exponent if there is one. -/
def readScale (negative : Bool) (significand : Nat) (exponent : Int) (cs : List Char) : Scan Number :=
  match cs with
  | 'e' :: rest | 'E' :: rest => readExponent negative significand exponent rest
  | _ => floatOfParts negative significand exponent cs

/-- Reads what follows a decimal point.  Digits beyond 64 bits are dropped. -/
def readFraction (negative : Bool) (significand : Nat) (exponent : Int) (cs : List Char) : Scan Number :=
  let (value, taken, rest) := absorbDigits (Nat.pow 2 64) significand 0 cs
  if atDigit rest then
    readScale negative value (exponent - taken) (rest.dropWhile Char.isDigit)
  else if taken = 0 then
    .error (if rest.isEmpty then .endInValue else .invalidNumber)
  else readScale negative value (exponent - taken) rest

/-- Reads what follows the whole part of a number. -/
def readAfterWhole (negative : Bool) (significand : Nat) (cs : List Char) : Scan Number :=
  match cs with
  | '.' :: rest => readFraction negative significand 0 rest
  | 'e' :: rest | 'E' :: rest => readExponent negative significand 0 rest
  | _ =>
      if negative then
        if significand = 0 ∨ Nat.pow 2 63 < significand then
          .ok (.float ((Binary64.ofNat significand).withSign true), cs)
        else .ok (.integer (-(significand : Int)), cs)
      else .ok (.integer significand, cs)

/-- Reads a number after its sign. -/
def readNumber (negative : Bool) (cs : List Char) : Scan Number :=
  match cs with
  | [] => .error .endInValue
  | '0' :: rest => if atDigit rest then .error .invalidNumber else readAfterWhole negative 0 rest
  | c :: _ =>
      if c.isDigit then
        let (value, _, rest) := absorbDigits (Nat.pow 2 64) 0 0 cs
        if atDigit rest then
          let tail := rest.dropWhile Char.isDigit
          let dropped : Int := (rest.length - tail.length : Nat)
          match tail with
          | '.' :: fraction => readFraction negative value dropped fraction
          | _ => readScale negative value dropped tail
        else readAfterWhole negative value rest
      else .error .invalidNumber

/-! ## Texts -/

/-- Reads the four digits of a hexadecimal escape. -/
def readHex (cs : List Char) : Scan Nat :=
  let digits := cs.take 4
  if digits.length < 4 then .error .endInText
  else if digits.all isHexDigit then .ok (ofHexDigits digits, cs.drop 4)
  else .error .invalidEscape

/-- Reads the escape for the second half of a pair. -/
def readTrail : List Char → Except SyntaxFault (Nat × List Char)
  | [] | ['\\'] => .error .endInText
  | '\\' :: 'u' :: rest => do
      let (n, rest) ← readHex rest
      if n < 0xDC00 ∨ 0xDFFF < n then .error .loneSurrogate else .ok (n, rest)
  | _ => .error .endInHexEscape

/-- Reads a hexadecimal escape, or two that make up one character. -/
def readCodePoint (cs : List Char) : Except SyntaxFault (Char × List Char) := do
  let (n, rest) ← readHex cs
  if 0xDC00 ≤ n ∧ n ≤ 0xDFFF then .error .loneSurrogate
  else if 0xD800 ≤ n ∧ n ≤ 0xDBFF then
    let (m, rest) ← readTrail rest
    .ok (Char.ofNat (0x10000 + (n - 0xD800) * 0x400 + (m - 0xDC00)), rest)
  else .ok (Char.ofNat n, rest)

/-- The character that a letter after a backslash stands for. -/
def unescape? : Char → Option Char
  | '"' => some '"'
  | '\\' => some '\\'
  | '/' => some '/'
  | 'b' => some '\x08'
  | 'f' => some '\x0c'
  | 'n' => some '\n'
  | 'r' => some '\r'
  | 't' => some '\t'
  | _ => none

/-- Reads what follows a backslash. -/
def readEscape : List Char → Scan Char
  | [] => .error .endInText
  | 'u' :: rest => readCodePoint rest
  | c :: rest => match unescape? c with
      | some d => .ok (d, rest)
      | none => .error .invalidEscape

/-- Reads a text up to its closing quote; `done` holds its bytes so far, in reverse. -/
def readTextFrom : (fuel : Nat) → (done : List Char) → List Char → Scan String
  | 0, _, _ => .error .endInText
  | _, _, [] => .error .endInText
  | fuel + 1, done, c :: rest =>
      if c = '"' then (unspell done.reverse).map fun text => (text, rest)
      else if c = '\\' then
        match readEscape rest with
        | .ok (d, rest) => readTextFrom fuel ((spell d).reverse ++ done) rest
        | .error e => .error e
      else if c.toNat < 0x20 then .error .controlCharacter
      else readTextFrom fuel (c :: done) rest

/-- Reads a text after its opening quote. -/
def readText (cs : List Char) : Scan String := readTextFrom (cs.length + 1) [] cs

/-! ## Punctuation -/

/-- Finds the next item of a list: `true` and the text at the item, or `false` at the closing bracket. -/
def nextItem (first : Bool) (cs : List Char) : Scan Bool :=
  match skipBlanks cs with
  | [] => .error .endInList
  | c :: rest =>
      if c = ']' then .ok (false, c :: rest)
      else if first then .ok (true, c :: rest)
      else if c = ',' then
        match skipBlanks rest with
        | [] => .error .endInValue
        | ']' :: _ => .error .trailingComma
        | tail => .ok (true, tail)
      else .error .expectedListCommaOrEnd

/-- Finds the next key of an object: `true` and the text after its opening quote, or `false` at the closing
brace. -/
def nextKey (first : Bool) (cs : List Char) : Scan Bool :=
  match skipBlanks cs with
  | [] => .error .endInObject
  | c :: rest =>
      if c = '}' then .ok (false, c :: rest)
      else if first then if c = '"' then .ok (true, rest) else .error .keyNotText
      else if c = ',' then
        match skipBlanks rest with
        | [] => .error .endInValue
        | '"' :: tail => .ok (true, tail)
        | '}' :: _ => .error .trailingComma
        | _ => .error .keyNotText
      else .error .expectedObjectCommaOrEnd

/-- Reads the colon after a key. -/
def readColon (cs : List Char) : Except SyntaxFault (List Char) :=
  match skipBlanks cs with
  | [] => .error .endInObject
  | ':' :: rest => .ok rest
  | _ => .error .expectedColon

/-- Reads the end of a list. -/
def endList (cs : List Char) : Except SyntaxFault (List Char) :=
  match skipBlanks cs with
  | [] => .error .endInList
  | ']' :: rest => .ok rest
  | ',' :: rest => match skipBlanks rest with
      | ']' :: _ => .error .trailingComma
      | _ => .error .trailingCharacters
  | _ => .error .trailingCharacters

/-- Reads the end of an object. -/
def endObject (cs : List Char) : Except SyntaxFault (List Char) :=
  match skipBlanks cs with
  | [] => .error .endInObject
  | '}' :: rest => .ok rest
  | ',' :: _ => .error .trailingComma
  | _ => .error .trailingCharacters

/-! ## Values -/

/-- A fault met where the reader stands. -/
def Located.here (fault : SyntaxFault) : Located := ⟨[], .malformed fault⟩

/-- The same fault seen from one container further out. -/
def Located.inside (step : Step) (l : Located) : Located := ⟨l.path ++ [step], l.fault⟩

/-- Gives the faults of a scan a place. -/
def located {α : Type} (scan : Except SyntaxFault α) : Except Located α := scan.mapError Located.here

/-- Gives the faults of a reading a place one step further in. -/
def within {α : Type} (step : Step) (read : Except Located α) : Except Located α :=
  read.mapError (Located.inside step)

/-- Reads a value that is no container, from its first character on. -/
def readScalar (c : Char) (rest : List Char) : Scan Json :=
  if c = 'n' then (readWord "ull".toList rest).map fun rest => (.null, rest)
  else if c = 't' then (readWord "rue".toList rest).map fun rest => (.bool true, rest)
  else if c = 'f' then (readWord "alse".toList rest).map fun rest => (.bool false, rest)
  else if c = '-' then (readNumber true rest).map fun (n, rest) => (.number n, rest)
  else if c.isDigit then (readNumber false (c :: rest)).map fun (n, rest) => (.number n, rest)
  else if c = '"' then (readText rest).map fun (s, rest) => (.text s, rest)
  else .error .expectedValue

/-- A fault of shape met where the reader stands. -/
def Located.shape (fault : ShapeFault) : Located := ⟨[], .misshapen fault⟩

/-- What stands at the reader is not what was expected.  A scalar is read first, and its own faults win. -/
def readMismatch {α : Type} (expected : String) (cs : List Char) : Read α :=
  match skipBlanks cs with
  | [] => .error (.here .endInValue)
  | '[' :: _ => .error (.shape (.invalidType .sequence expected))
  | '{' :: _ => .error (.shape (.invalidType .map expected))
  | c :: rest => match readScalar c rest with
      | .ok (v, _) => .error (.shape (.invalidType (found v) expected))
      | .error fault => .error (.here fault)

/-- Reads a text where one is expected. -/
def readExpected (expected : String) (cs : List Char) : Read String :=
  match skipBlanks cs with
  | '"' :: rest => located (readText rest)
  | _ => readMismatch expected cs

/-- Refuses anything but white space after a value. -/
def readEnd {α : Type} (read : Read α) : Except Located α := do
  let (value, rest) ← read
  if (skipBlanks rest).isEmpty then .ok value else .error (.here .trailingCharacters)

/-! ## Embedded text -/

/-- The key of embedded text. -/
def embeddedKey : String := "$serde_json::private::RawValue"

/-- What is expected under that key. -/
def embeddedText : String := "raw value"

/-- What follows the first key of an object, if that is the key of embedded text. -/
def embedded? (cs : List Char) : Option (List Char) :=
  match nextKey true cs with
  | .ok (true, rest) => match readText rest with
      | .ok (key, rest) => if key = embeddedKey then some rest else none
      | .error _ => none
  | _ => none

/-- A fault of embedded text is a fault of shape outside. -/
def fromEmbedded {α : Type} (read : Except Located α) : Except ShapeFault α :=
  read.mapError fun l => .embedded l.fault.message

/-! ## Values of any kind -/

mutual

/-- Reads any value.  `depth` is one more than the number of containers that may still be opened. -/
def readValueFrom : (fuel depth : Nat) → List Char → Except Located (Json × List Char)
  | 0, _, _ => .error (.here .endInValue)
  | fuel + 1, depth, cs =>
      match skipBlanks cs with
      | [] => .error (.here .endInValue)
      | '[' :: rest =>
          if depth ≤ 1 then .error (.here .tooDeep)
          else do
            let (items, rest) ← readItemsFrom fuel (depth - 1) 0 [] rest
            let rest ← located (endList rest)
            .ok (.list items, rest)
      | '{' :: rest =>
          if depth ≤ 1 then .error (.here .tooDeep)
          else match embedded? rest with
            | some rest => do
                let (s, rest) ← within (.key embeddedKey) do
                  let rest ← located (readColon rest)
                  readExpected embeddedText rest
                let inner := readValueFrom fuel depthLimit (source (octets s))
                let value ← (fromEmbedded (readEnd inner)).mapError .shape
                let rest ← located (endObject rest)
                .ok (value, rest)
            | none => do
                let (members, rest) ← readMembersFrom fuel (depth - 1) true [] rest
                let rest ← located (endObject rest)
                .ok (.object members, rest)
      | c :: rest => located (readScalar c rest)

/-- Reads the items of a list; `done` holds those read, in reverse. -/
def readItemsFrom : (fuel depth position : Nat) → (done : List Json) → List Char →
    Except Located (List Json × List Char)
  | 0, _, _, _, _ => .error (.here .endInList)
  | fuel + 1, depth, position, done, cs => do
      let (more, rest) ← located (nextItem (position == 0) cs)
      if more then
        let (item, rest) ← within (.index position) (readValueFrom fuel depth rest)
        readItemsFrom fuel depth (position + 1) (item :: done) rest
      else .ok (done.reverse, rest)

/-- Reads the members of an object. -/
def readMembersFrom : (fuel depth : Nat) → (first : Bool) → (done : Object) → List Char →
    Except Located (Object × List Char)
  | 0, _, _, _, _ => .error (.here .endInObject)
  | fuel + 1, depth, first, done, cs => do
      let (more, rest) ← located (nextKey first cs)
      if more then
        let (key, rest) ← located (readText rest)
        let (value, rest) ← within (.key key) do
          let rest ← located (readColon rest)
          readValueFrom fuel depth rest
        readMembersFrom fuel depth false (done.insert key value) rest
      else .ok (done, rest)

end

/-- Reads any value. -/
def readValue (depth : Nat) (cs : List Char) : Read Json := readValueFrom (2 * cs.length + 2) depth cs

/-- Reads a whole text as one value. -/
def ofText (text : String) : Except Located Json := readEnd (readValue depthLimit (source (octets text)))

/-! ## Skipping -/

/-- Skips an exponent after its mark. -/
def skipExponent (cs : List Char) : Except SyntaxFault (List Char) :=
  let (_, digits) := Decimal.splitSign cs
  if atDigit digits then .ok (digits.dropWhile Char.isDigit) else .error .invalidNumber

/-- Skips what follows the whole part of a number. -/
def skipAfterWhole (cs : List Char) : Except SyntaxFault (List Char) :=
  match cs with
  | '.' :: rest =>
      if atDigit rest then
        match rest.dropWhile Char.isDigit with
        | 'e' :: tail | 'E' :: tail => skipExponent tail
        | tail => .ok tail
      else .error .invalidNumber
  | 'e' :: rest | 'E' :: rest => skipExponent rest
  | _ => .ok cs

/-- Skips a number after its sign. -/
def skipNumber (cs : List Char) : Except SyntaxFault (List Char) :=
  match cs with
  | '0' :: rest => if atDigit rest then .error .invalidNumber else skipAfterWhole rest
  | _ => if atDigit cs then skipAfterWhole (cs.dropWhile Char.isDigit) else .error .invalidNumber

/-- Skips a text up to its closing quote. -/
def skipTextFrom : (fuel : Nat) → List Char → Except SyntaxFault (List Char)
  | 0, _ => .error .endInText
  | _, [] => .error .endInText
  | fuel + 1, c :: rest =>
      if c = '"' then .ok rest
      else if c = '\\' then
        match rest with
        | [] => .error .endInText
        | 'u' :: rest => match readHex rest with
            | .ok (_, rest) => skipTextFrom fuel rest
            | .error e => .error e
        | d :: rest => if (unescape? d).isSome then skipTextFrom fuel rest else .error .invalidEscape
      else if c.toNat < 0x20 then .error .controlCharacter
      else skipTextFrom fuel rest

/-- Skips a text after its opening quote. -/
def skipText (cs : List Char) : Except SyntaxFault (List Char) := skipTextFrom (cs.length + 1) cs

/-- Skips a value that is no container. -/
def skipScalar (c : Char) (rest : List Char) : Except SyntaxFault (List Char) :=
  if c = 'n' then readWord "ull".toList rest
  else if c = 't' then readWord "rue".toList rest
  else if c = 'f' then readWord "alse".toList rest
  else if c = '-' then skipNumber rest
  else if c.isDigit then skipNumber (c :: rest)
  else if c = '"' then skipText rest
  else .error .expectedValue

/-- A container that is open: a list, or an object. -/
inductive Open where
  | list
  | object
  deriving DecidableEq, Repr

mutual

/-- Skips a value and what is left of the open containers around it, innermost first. -/
def skipInside : (fuel : Nat) → List Open → List Char → Except SyntaxFault (List Char)
  | 0, _, _ => .error .endInValue
  | fuel + 1, around, cs =>
      match skipBlanks cs with
      | [] => .error .endInValue
      | '[' :: rest => skipAfter fuel false .list around rest
      | '{' :: rest => skipAfter fuel false .object around rest
      | c :: rest => do
          let rest ← skipScalar c rest
          match around with
          | [] => .ok rest
          | inner :: outer => skipAfter fuel true inner outer rest

/-- Skips what is left of an open container; `comma` tells that an item stands before. -/
def skipAfter : (fuel : Nat) → (comma : Bool) → Open → List Open → List Char →
    Except SyntaxFault (List Char)
  | 0, _, _, _, _ => .error .endInValue
  | fuel + 1, comma, inner, outer, cs =>
      match skipBlanks cs with
      | [] => .error (if inner = .list then .endInList else .endInObject)
      | c :: rest =>
          if c = ',' && comma then skipEntry fuel inner outer rest
          else if c = (if inner = .list then ']' else '}') then
            match outer with
            | [] => .ok rest
            | next :: beyond => skipAfter fuel true next beyond rest
          else if comma then
            .error (if inner = .list then .expectedListCommaOrEnd else .expectedObjectCommaOrEnd)
          else skipEntry fuel inner outer (c :: rest)

/-- Skips an item, or a key and its value. -/
def skipEntry : (fuel : Nat) → Open → List Open → List Char → Except SyntaxFault (List Char)
  | 0, _, _, _ => .error .endInValue
  | fuel + 1, inner, outer, cs =>
      match inner with
      | .list => skipInside fuel (inner :: outer) cs
      | .object =>
          match skipBlanks cs with
          | [] => .error .endInObject
          | '"' :: rest => do
              let rest ← skipText rest
              let rest ← readColon rest
              skipInside fuel (inner :: outer) rest
          | _ => .error .keyNotText

end

/-- Skips any value. -/
def skipValue (cs : List Char) : Except SyntaxFault (List Char) := skipInside (3 * cs.length + 3) [] cs

end WorkflowEngine.Json
