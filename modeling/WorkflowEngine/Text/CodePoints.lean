/-
Module: WorkflowEngine.Text.CodePoints
Layer: Text
Purpose: Tables keyed by code point, held as sorted ranges.
Imports: none
Trusted boundary: none
Main exports: CodePointTable, CodePointTable.ofText, CodePointTable.contains, CodePointTable.find?
-/

/-!
# Tables of character properties

A property of the Unicode standard is a short list of ranges.  The tables are written as text, one range
`first-last` or one code point, in hexadecimal, with an optional value after `=` or a first image after
`>`; lookup is a binary search.
-/

namespace WorkflowEngine

/-- The value of a hexadecimal digit in upper case. -/
def upperHexValue (c : Char) : Nat :=
  if c.isDigit then c.toNat - 48 else c.toNat - 55

/-- The number that upper-case hexadecimal digits spell. -/
def ofUpperHex (cs : List Char) : Nat := cs.foldl (fun n c => 16 * n + upperHexValue c) 0

/-- What a table says about the code points of a range. -/
inductive Image where
  /-- Nothing more than that they belong. -/
  | member
  /-- All have the same image. -/
  | fixed (image : List Nat)
  /-- The first has this image and the others follow it. -/
  | shifted (first : Nat)
  deriving DecidableEq, Repr, Inhabited

/-- A range of code points and what is said about them. -/
structure CodePointRange where
  first : Nat
  last : Nat
  image : Image
  deriving Repr, Inhabited

/-- A table of ranges in increasing order. -/
structure CodePointTable where
  ranges : Array CodePointRange

namespace CodePointTable

/-- Reads `first` or `first-last`. -/
def readRange (cs : List Char) (image : Image) : CodePointRange :=
  match cs.splitOn '-' with
  | [first, last] => ⟨ofUpperHex first, ofUpperHex last, image⟩
  | _ => ⟨ofUpperHex cs, ofUpperHex cs, image⟩

/-- Reads one entry of a table. -/
def readEntry (cs : List Char) : CodePointRange :=
  let head := cs.takeWhile fun c => c ≠ '=' && c ≠ '>'
  match cs.drop head.length with
  | '=' :: [] => readRange head (.fixed [])
  | '=' :: image => readRange head (.fixed ((image.splitOn '_').map ofUpperHex))
  | '>' :: image => readRange head (.shifted (ofUpperHex image))
  | _ => readRange head .member

/-- Reads a table from its text. -/
def ofText (text : String) : CodePointTable :=
  let words := text.toList.splitBy fun a b => (a = ' ' || a = '\n') == (b = ' ' || b = '\n')
  ⟨((words.filter fun w => w.all fun c => c ≠ ' ' && c ≠ '\n').map readEntry).toArray⟩

/-- Searches the ranges from `low` up to and without `high`. -/
def search (ranges : Array CodePointRange) (n low : Nat) : (fuel : Nat) → (high : Nat) →
    Option CodePointRange
  | 0, _ => none
  | fuel + 1, high =>
      if low < high then
        let middle := (low + high) / 2
        match ranges[middle]? with
        | none => none
        | some r =>
            if n < r.first then search ranges n low fuel middle
            else if r.last < n then search ranges n (middle + 1) fuel high
            else some r
      else none

/-- The range that a code point lies in. -/
def range? (table : CodePointTable) (c : Char) : Option CodePointRange :=
  search table.ranges c.toNat 0 (table.ranges.size + 1) table.ranges.size

/-- Whether a code point lies in some range. -/
def contains (table : CodePointTable) (c : Char) : Bool := (table.range? c).isSome

/-- The image of a code point, none where the table does not mention it. -/
def find? (table : CodePointTable) (c : Char) : Option (List Nat) :=
  (table.range? c).map fun r => match r.image with
    | .member => [c.toNat]
    | .fixed image => image
    | .shifted first => [first + (c.toNat - r.first)]

end CodePointTable

end WorkflowEngine
