/-
Module: WorkflowEngine.Text.Quoted
Layer: Text
Purpose: Texts in quotes, as messages and reports show them.
Imports: WorkflowEngine.Text.Printable
Trusted boundary: none
Main exports: quoted, quotedList
-/
import WorkflowEngine.Text.Printable

/-!
# Quoted texts

A report shows a text between double quotes.  Quotes, backslashes and the common controls are escaped by a
letter; every other character without a visible form of its own is shown by its code point.
-/

namespace WorkflowEngine

/-- How one character is shown between quotes. -/
def shownChar (c : Char) : List Char :=
  if c = '\x00' then ['\\', '0']
  else if c = '\t' then ['\\', 't']
  else if c = '\r' then ['\\', 'r']
  else if c = '\n' then ['\\', 'n']
  else if c = '"' then ['\\', '"']
  else if c = '\\' then ['\\', '\\']
  else if extending.contains c || unprintable.contains c then
    ['\\', 'u', '{'] ++ Nat.toDigits 16 c.toNat ++ ['}']
  else [c]

/-- A text between quotes. -/
def quoted (s : String) : String :=
  String.ofList ('"' :: (s.toList.flatMap shownChar ++ ['"']))

/-- Quoted texts between brackets. -/
def quotedList (items : List String) : String :=
  "[" ++ ", ".intercalate (items.map quoted) ++ "]"

end WorkflowEngine
