/-
Module: WorkflowEngine.Json.Fault
Layer: Json
Purpose: What can be wrong with a JSON text or with the shape of a value, and the wording of each.
Imports: WorkflowEngine.Json.Value, WorkflowEngine.Number.Shortest, WorkflowEngine.Text.Quoted,
  WorkflowEngine.Uuid
Trusted boundary: none
Main exports: Json.SyntaxFault, Json.ShapeFault, Json.Fault, Json.Fault.message
-/
import WorkflowEngine.Json.Value
import WorkflowEngine.Number.Shortest
import WorkflowEngine.Text.Quoted
import WorkflowEngine.Uuid

/-!
# Faults of JSON input

A text can fail to be JSON, and a JSON value can fail to have the shape that is asked for.  The two kinds
are kept apart, because a service answers them with different statuses.
-/

namespace WorkflowEngine.Json

/-- Why a text is not JSON. -/
inductive SyntaxFault where
  | endInList
  | endInObject
  | endInText
  | endInValue
  | expectedColon
  | expectedListCommaOrEnd
  | expectedObjectCommaOrEnd
  | expectedIdent
  | expectedValue
  | invalidEscape
  | invalidNumber
  | numberOutOfRange
  | invalidCodePoint
  | controlCharacter
  | keyNotText
  | loneSurrogate
  | trailingComma
  | trailingCharacters
  | endInHexEscape
  | tooDeep
  deriving DecidableEq, Repr

/-- The wording of a syntax fault. -/
def SyntaxFault.message : SyntaxFault → String
  | .endInList => "EOF while parsing a list"
  | .endInObject => "EOF while parsing an object"
  | .endInText => "EOF while parsing a string"
  | .endInValue => "EOF while parsing a value"
  | .expectedColon => "expected `:`"
  | .expectedListCommaOrEnd => "expected `,` or `]`"
  | .expectedObjectCommaOrEnd => "expected `,` or `\x7d`"
  | .expectedIdent => "expected ident"
  | .expectedValue => "expected value"
  | .invalidEscape => "invalid escape"
  | .invalidNumber => "invalid number"
  | .numberOutOfRange => "number out of range"
  | .invalidCodePoint => "invalid unicode code point"
  | .controlCharacter => "control character (\\u0000-\\u001F) found while parsing a string"
  | .keyNotText => "key must be a string"
  | .loneSurrogate => "lone leading surrogate in hex escape"
  | .trailingComma => "trailing comma"
  | .trailingCharacters => "trailing characters"
  | .endInHexEscape => "unexpected end of hex escape"
  | .tooDeep => "recursion limit exceeded"

/-- What a value is, where something else was asked for. -/
inductive Found where
  | null
  | bool (value : Bool)
  | number (value : Number)
  | text (value : String)
  | sequence
  | map
  deriving DecidableEq, Repr

/-- The kind of a value. -/
def found : Json → Found
  | .null => .null
  | .bool b => .bool b
  | .number n => .number n
  | .text s => .text s
  | .list _ => .sequence
  | .object _ => .map

/-- The wording of what a value is. -/
def Found.message : Found → String
  | .null => "null"
  | .bool b => "boolean `" ++ toString b ++ "`"
  | .number (.integer i) => "integer `" ++ toString i ++ "`"
  | .number (.float x) => "floating point `" ++ x.render ++ "`"
  | .text s => "string " ++ quoted s
  | .sequence => "sequence"
  | .map => "map"

/-- Why a value has not the shape asked for. -/
inductive ShapeFault where
  | invalidType (found : Found) (expected : String)
  | missingField (name : String)
  | duplicateField (name : String)
  | tooShort (length : Nat) (record : String) (fields : Nat)
  | tooLong (length : Nat)
  | tooManyMembers (length : Nat)
  | invalidUuid (fault : Uuid.Fault)
  /-- The wording of what is wrong with embedded JSON text. -/
  | embedded (message : String)
  deriving DecidableEq, Repr

/-- The wording of a shape fault. -/
def ShapeFault.message : ShapeFault → String
  | .invalidType found expected => "invalid type: " ++ found.message ++ ", expected " ++ expected
  | .missingField name => "missing field `" ++ name ++ "`"
  | .duplicateField name => "duplicate field `" ++ name ++ "`"
  | .tooShort n record fields =>
      "invalid length " ++ toString n ++ ", expected struct " ++ record ++ " with " ++ toString fields
        ++ (if fields = 1 then " element" else " elements")
  | .tooLong n => "invalid length " ++ toString n ++ ", expected fewer elements in array"
  | .tooManyMembers n => "invalid length " ++ toString n ++ ", expected fewer elements in map"
  | .invalidUuid fault => "UUID parsing failed: " ++ fault.message
  | .embedded message => message

/-- A fault of either kind. -/
inductive Fault where
  | malformed (fault : SyntaxFault)
  | misshapen (fault : ShapeFault)
  deriving DecidableEq, Repr

/-- The wording of a fault. -/
def Fault.message : Fault → String
  | .malformed f => f.message
  | .misshapen f => f.message

/-- A step from a value to one inside it. -/
inductive Step where
  | key (name : String)
  | index (position : Nat)
  deriving DecidableEq, Repr

/-- The text of a path, outermost step first. -/
def pathText : List Step → String
  | [] => ""
  | .index i :: rest => "[" ++ toString i ++ "]" ++ pathText rest
  | .key k :: rest => "." ++ k ++ pathText rest

/-- A fault and the way to where it was met, innermost step first. -/
structure Located where
  path : List Step
  fault : Fault
  deriving DecidableEq, Repr

/-- The wording of a fault after the path to it. -/
def Located.message (l : Located) : String :=
  let path := (pathText l.path.reverse).toList
  let shown := match path with
    | '.' :: rest => rest
    | _ => path
  if shown.isEmpty then l.fault.message else String.ofList shown ++ ": " ++ l.fault.message

end WorkflowEngine.Json
