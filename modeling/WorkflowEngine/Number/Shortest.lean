/-
Module: WorkflowEngine.Number.Shortest
Layer: Number
Purpose: The fewest decimal digits that read back as a given double, and their layout.
Imports: WorkflowEngine.Number.Decimal
Trusted boundary: none
Main exports: Binary64.shortest, Binary64.render
-/
import WorkflowEngine.Number.Decimal

/-!
# Shortest decimal text

A double stands for every real number that rounds to it.  For one digit, two digits, and so on, the two
decimals of that many digits on either side of the double are tried against that interval; the first grid
with a hit wins, and of two hits the nearer.  The layout of the digits is a separate, small decision.
-/

namespace WorkflowEngine.Binary64

/-- `num / den < 10 ^ k`. -/
def belowPower (num den : Nat) (k : Int) : Bool :=
  if 0 ≤ k then num < den * Nat.pow 10 k.toNat else num * Nat.pow 10 (-k).toNat < den

/-- The position of the leading decimal digit of a positive number of grains: the exponent `k` with
`10 ^ k ≤ grains / one < 10 ^ (k + 1)`, found from the position of the leading binary digit. -/
def leadingPlace (grains : Nat) : Int :=
  let estimate : Int := ((grains.log2 : Int) - 1074) * 30103 / 100000
  if belowPower grains one estimate then estimate - 1
  else if belowPower grains one (estimate + 1) then estimate
  else estimate + 1

/-- The reals that round to a positive number of grains, as bounds in quarters of a grain, and whether the
bounds themselves do. -/
structure Interval where
  low : Nat
  high : Nat
  closed : Bool

/-- Halfway to each neighbour; the neighbour below a power of two is half as far away as the one above. -/
def interval (grains : Nat) : Interval :=
  let step := spacing grains
  let below := if grains = Nat.pow 2 52 * step ∧ 1 < step then step else 2 * step
  ⟨4 * grains - below, 4 * grains + 2 * step, grains / step % 2 = 0⟩

/-- Compares a decimal `m * 10 ^ p` and a number of quarter grains on a common scale. -/
def scaled (m : Nat) (p : Int) (quarters : Nat) : Nat × Nat :=
  if 0 ≤ p then (m * Nat.pow 10 p.toNat * (4 * one), quarters)
  else (m * (4 * one), quarters * Nat.pow 10 (-p).toNat)

/-- Whether the decimal `m * 10 ^ p` rounds to the double with this interval. -/
def Interval.holds (i : Interval) (m : Nat) (p : Int) : Bool :=
  let (a, low) := scaled m p i.low
  let (b, high) := scaled m p i.high
  if i.closed then decide (low ≤ a) && decide (b ≤ high) else decide (low < a) && decide (b < high)

/-- The distance between the decimal `m * 10 ^ p` and a number of grains, on a scale fixed by `p`. -/
def distance (grains m : Nat) (p : Int) : Nat :=
  let (a, v) := scaled m p (4 * grains)
  if a ≤ v then v - a else a - v

/-- The best decimal with its last digit at place `p` that rounds to the double, if one does. -/
def onGrid? (grains : Nat) (p : Int) : Option Nat :=
  let i := interval grains
  let below := if 0 ≤ p then grains / (one * Nat.pow 10 p.toNat) else grains * Nat.pow 10 (-p).toNat / one
  match i.holds below p, i.holds (below + 1) p with
  | true, true =>
      let d := distance grains below p
      let e := distance grains (below + 1) p
      if d < e ∨ d = e ∧ below % 2 = 0 then some below else some (below + 1)
  | true, false => some below
  | false, true => some (below + 1)
  | false, false => none

/-- Tries the grids from `p` downwards; seventeen digits always suffice. -/
def searchGrids (grains : Nat) (p : Int) : Nat → Nat × Int
  | 0 => (0, p)
  | fuel + 1 =>
      match onGrid? grains p with
      | some m => if 0 < m then (m, p) else searchGrids grains (p - 1) fuel
      | none => searchGrids grains (p - 1) fuel

/-- The fewest digits `m` and the exponent `p` such that `m * 10 ^ p` reads back as the double. -/
def shortest (grains : Nat) : Nat × Int := searchGrids grains (leadingPlace grains) 18

/-- Digits of a number without trailing zeros, most significant first. -/
def significantDigits (m : Nat) : List Char :=
  ((Nat.toDigits 10 m).reverse.dropWhile (· = '0')).reverse

/-- Lays digits out: positional when the leading digit's place is from -5 to 15, always with a point, and
otherwise with an exponent that carries its sign. -/
def layOut (digits : List Char) (place : Int) : List Char :=
  if place < -5 ∨ 16 ≤ place then
    let mantissa := match digits with
      | [] => ['0']
      | [d] => [d]
      | d :: rest => d :: '.' :: rest
    let sign := if place < 0 then '-' else '+'
    mantissa ++ 'e' :: sign :: Nat.toDigits 10 place.natAbs
  else if place < 0 then
    '0' :: '.' :: (List.replicate (place.natAbs - 1) '0' ++ digits)
  else
    let wholeLength := place.toNat + 1
    let whole := digits.take wholeLength ++ List.replicate (wholeLength - digits.length) '0'
    let fraction := digits.drop wholeLength
    whole ++ '.' :: (if fraction.isEmpty then ['0'] else fraction)

/-- The text of a double. -/
def render : Binary64 → String
  | .nan => "NaN"
  | .infinite negative => if negative then "-Infinity" else "Infinity"
  | .finite negative grains =>
      let body :=
        if grains = 0 then "0.0".toList
        else
          let (m, p) := shortest grains
          let digits := Nat.toDigits 10 m
          layOut (significantDigits m) (p + digits.length - 1)
      String.ofList (if negative then '-' :: body else body)

example : (Decimal.toBinary64 ⟨false, 1, -1⟩).render = "0.1" := by decide +kernel

example : (ofNat (Nat.pow 10 16)).render = "1e+16" := by decide +kernel

example : (finite true 1).render = "-5e-324" := by decide +kernel

end WorkflowEngine.Binary64
