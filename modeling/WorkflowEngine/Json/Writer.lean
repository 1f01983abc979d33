/-
Module: WorkflowEngine.Json.Writer
Layer: Json
Purpose: The text of a JSON value, compact or indented.
Imports: WorkflowEngine.Json.Value, WorkflowEngine.Number.Hexadecimal, WorkflowEngine.Number.Shortest
Trusted boundary: none
Main exports: Json.compact, Json.indented
-/
import WorkflowEngine.Json.Value
import WorkflowEngine.Number.Hexadecimal
import WorkflowEngine.Number.Shortest

/-!
# Writing JSON

Compact text has no white space at all.  Indented text puts every item and member on a line of its own,
two blanks deeper than its container, and writes an empty container as its two brackets.
-/

namespace WorkflowEngine.Json

/-- How one character stands inside a quoted text. -/
def escape (c : Char) : List Char :=
  if c = '"' then ['\\', '"']
  else if c = '\\' then ['\\', '\\']
  else if c = '\x08' then ['\\', 'b']
  else if c = '\x0c' then ['\\', 'f']
  else if c = '\n' then ['\\', 'n']
  else if c = '\r' then ['\\', 'r']
  else if c = '\t' then ['\\', 't']
  else if c.toNat < 0x20 then
    ['\\', 'u', '0', '0', lowerHex (c.toNat / 16), lowerHex c.toNat]
  else [c]

/-- A text in quotes. -/
def quote (s : String) : String :=
  "\"" ++ String.ofList (s.toList.flatMap escape) ++ "\""

/-- The text of a number: integers plain, doubles with the fewest digits. -/
def Number.render : Number → String
  | .integer i => toString i
  | .float x => if x.isFinite then x.render else "null"

mutual

/-- The text of a value without white space. -/
def compact : Json → String
  | .null => "null"
  | .bool b => if b then "true" else "false"
  | .number n => n.render
  | .text s => quote s
  | .list items => "[" ++ compactItems items ++ "]"
  | .object members => "\x7b" ++ compactMembers members ++ "\x7d"

/-- Items separated by commas. -/
def compactItems : List Json → String
  | [] => ""
  | [x] => compact x
  | x :: y :: rest => compact x ++ "," ++ compactItems (y :: rest)

/-- Members separated by commas. -/
def compactMembers : List (String × Json) → String
  | [] => ""
  | [(k, x)] => quote k ++ ":" ++ compact x
  | (k, x) :: m :: rest => quote k ++ ":" ++ compact x ++ "," ++ compactMembers (m :: rest)

end

/-- A line break followed by the indentation of the given depth. -/
def newline (depth : Nat) : String := "\n" ++ String.ofList (List.replicate (2 * depth) ' ')

mutual

/-- The text of a value with every item and member on its own line. -/
def indentedAt (depth : Nat) : Json → String
  | .null => "null"
  | .bool b => if b then "true" else "false"
  | .number n => n.render
  | .text s => quote s
  | .list [] => "[]"
  | .list (x :: rest) =>
      "[" ++ newline (depth + 1) ++ indentedItems (depth + 1) (x :: rest) ++ newline depth ++ "]"
  | .object [] => "\x7b\x7d"
  | .object (m :: rest) =>
      "\x7b" ++ newline (depth + 1) ++ indentedMembers (depth + 1) (m :: rest) ++ newline depth ++ "\x7d"

/-- Items on lines of their own. -/
def indentedItems (depth : Nat) : List Json → String
  | [] => ""
  | [x] => indentedAt depth x
  | x :: y :: rest => indentedAt depth x ++ "," ++ newline depth ++ indentedItems depth (y :: rest)

/-- Members on lines of their own. -/
def indentedMembers (depth : Nat) : List (String × Json) → String
  | [] => ""
  | [(k, x)] => quote k ++ ": " ++ indentedAt depth x
  | (k, x) :: m :: rest =>
      quote k ++ ": " ++ indentedAt depth x ++ "," ++ newline depth ++ indentedMembers depth (m :: rest)

end

/-- The indented text of a value. -/
def indented (v : Json) : String := indentedAt 0 v

end WorkflowEngine.Json
