/-
Module: WorkflowEngine.Number.Decimal
Layer: Number
Purpose: Decimal literals: their grammar, their exact value and the double nearest to it.
Imports: WorkflowEngine.Number.Binary64
Trusted boundary: none
Main exports: Decimal, Decimal.read?, Decimal.toBinary64, Binary64.read?, readNatural?
-/
import WorkflowEngine.Number.Binary64

/-!
# Decimal literals

A decimal literal is an optional sign, digits with an optional point among, before or after them, and an
optional exponent.  It is read into its exact value, a signed significand times a power of ten, and turned
into a double in one correctly rounded step.
-/

namespace WorkflowEngine

/-- The value of a decimal digit. -/
def digitValue (c : Char) : Nat := c.toNat - '0'.toNat

/-- The natural number that decimal digits spell. -/
def naturalOfDigits (digits : List Char) : Nat :=
  digits.foldl (fun n c => 10 * n + digitValue c) 0

/-- The longest run of decimal digits at the front, and what follows it. -/
def spanDigits (cs : List Char) : List Char × List Char :=
  (cs.takeWhile Char.isDigit, cs.dropWhile Char.isDigit)

/-- Reads a natural number below `limit`: an optional plus sign and at least one digit, nothing else. -/
def readNatural? (limit : Nat) (cs : List Char) : Option Nat :=
  let digits := match cs with
    | '+' :: rest => rest
    | _ => cs
  if digits.isEmpty then none
  else if digits.all Char.isDigit then
    let n := naturalOfDigits digits
    if n < limit then some n else none
  else none

/-- An exact decimal value: `significand * 10 ^ exponent` with a sign. -/
structure Decimal where
  negative : Bool
  significand : Nat
  exponent : Int
  deriving DecidableEq, Repr, Inhabited

namespace Decimal

/-- Splits an optional sign off; the flag says whether it was a minus. -/
def splitSign : List Char → Bool × List Char
  | '+' :: rest => (false, rest)
  | '-' :: rest => (true, rest)
  | cs => (false, cs)

/-- Reads what may follow the digits: nothing, or an exponent mark, an optional sign and digits. -/
def readExponent? : List Char → Option Int
  | [] => some 0
  | mark :: rest =>
      if mark = 'e' ∨ mark = 'E' then
        let (negative, digits) := splitSign rest
        if digits.isEmpty then none
        else if digits.all Char.isDigit then
          some (if negative then -(naturalOfDigits digits : Int) else naturalOfDigits digits)
        else none
      else none

/-- Reads a decimal literal that takes up the whole text. -/
def read? (cs : List Char) : Option Decimal :=
  let (negative, unsigned) := splitSign cs
  let (whole, afterWhole) := spanDigits unsigned
  let (fraction, rest) := match afterWhole with
    | '.' :: tail => spanDigits tail
    | _ => ([], afterWhole)
  if whole.isEmpty && fraction.isEmpty then none
  else
    (readExponent? rest).map fun e =>
      ⟨negative, naturalOfDigits (whole ++ fraction), e - fraction.length⟩

/-- The double nearest to the value.  A value beyond `10^310` is infinite and one below `10^-400` is zero
whatever its digits, so the power of ten is formed only in between. -/
def toBinary64 (d : Decimal) : Binary64 :=
  if d.significand = 0 then .finite d.negative 0
  else
    let places : Int := (Nat.toDigits 10 d.significand).length
    if 310 < d.exponent + places then .infinite d.negative
    else if d.exponent + places < -400 then .finite d.negative 0
    else if 0 ≤ d.exponent then
      .ofRatio d.negative (d.significand * Nat.pow 10 d.exponent.toNat) 1
    else
      .ofRatio d.negative d.significand (Nat.pow 10 (-d.exponent).toNat)

end Decimal

namespace Binary64

/-- The names of the values that are not finite, in any letter case. -/
def ofName? (name : List Char) : Option Binary64 :=
  let lower := String.ofList (name.map Char.toLower)
  if lower = "inf" ∨ lower = "infinity" then some (.infinite false)
  else if lower = "nan" then some .nan
  else none

/-- Reads a number that takes up the whole text: a decimal literal, or a name of an infinity or of NaN
with an optional sign. -/
def read? (cs : List Char) : Option Binary64 :=
  match Decimal.read? cs with
  | some d => some d.toBinary64
  | none =>
      let (negative, name) := Decimal.splitSign cs
      (ofName? name).map (·.withSign negative)

end Binary64

/-! ## Small lemmas -/

/-- Every literal stands for a number. -/
theorem Decimal.toBinary64_ne_nan (d : Decimal) : d.toBinary64 ≠ .nan := by
  simp only [toBinary64]
  split
  · nofun
  split
  · nofun
  split
  · nofun
  split <;> exact Binary64.ofRatio_ne_nan _ _ _

section Runs

variable {p : Char → Bool} {run rest : List Char}

/-- A run of characters of one kind is taken up to where one of another kind follows. -/
theorem takeWhile_until (inside : ∀ c ∈ run, p c = true) (stops : ∀ c ∈ rest.head?, p c = false) :
    (run ++ rest).takeWhile p = run := by
  rw [List.takeWhile_append_of_pos inside]
  cases rest with
  | nil => simp
  | cons c rest => simp [stops c rfl]

theorem dropWhile_until (inside : ∀ c ∈ run, p c = true) (stops : ∀ c ∈ rest.head?, p c = false) :
    (run ++ rest).dropWhile p = rest := by
  rw [List.dropWhile_append_of_pos inside]
  cases rest with
  | nil => rfl
  | cons c rest => simp [stops c rfl]

/-- A run of digits ends before the first character that is no digit. -/
theorem spanDigits_until (all : ∀ c ∈ run, c.isDigit = true) (stops : ∀ c ∈ rest.head?, c.isDigit = false) :
    spanDigits (run ++ rest) = (run, rest) := by
  rw [spanDigits, takeWhile_until all stops, dropWhile_until all stops]

end Runs

theorem spanDigits_append (cs : List Char) : (spanDigits cs).1 ++ (spanDigits cs).2 = cs :=
  List.takeWhile_append_dropWhile

theorem spanDigits_digits (cs : List Char) : (spanDigits cs).1.all Char.isDigit = true :=
  List.all_takeWhile

example : Decimal.read? "-1.50e+2".toList = some ⟨true, 150, 0⟩ := by decide +kernel

example : Decimal.read? "5.".toList = some ⟨false, 5, 0⟩ := by decide +kernel

example : Decimal.read? ".e1".toList = none := by decide +kernel

end WorkflowEngine
