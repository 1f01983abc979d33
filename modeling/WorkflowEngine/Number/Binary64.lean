/-
Module: WorkflowEngine.Number.Binary64
Layer: Number
Purpose: Double-precision numbers as exact integers, with correct rounding and the usual order.
Imports: none
Trusted boundary: none
Main exports: Binary64, Binary64.ofRatio, Binary64.lt, Binary64.le, Binary64.eq
-/

/-!
# Double-precision numbers

A finite double is a whole number of *grains* of size `2^-1074`, the least positive double.  Held that
way, comparison is comparison of integers and every rounding question is one about natural numbers: no
operation of the machine's floating-point unit is involved, so each can be reasoned about.
-/

namespace WorkflowEngine

/-- A double-precision number: a signed number of grains of size `2^-1074`, an infinity, or not a
number.  Zero keeps its sign. -/
inductive Binary64 where
  | nan
  | infinite (negative : Bool)
  | finite (negative : Bool) (grains : Nat)
  deriving DecidableEq, Repr, Inhabited

namespace Binary64

/-- How many grains make one. -/
def one : Nat := Nat.pow 2 1074

/-- The number of grains from which on a magnitude counts as infinite: `2^1024`. -/
def overflow : Nat := Nat.pow 2 2098

/-- The quotient rounded to the nearest natural number, a tie to the even one. -/
def roundHalfEven (num den : Nat) : Nat :=
  let quotient := num / den
  let twice := 2 * (num % den)
  if twice < den then quotient
  else if den < twice then quotient + 1
  else if quotient % 2 = 0 then quotient else quotient + 1

/-- The spacing of doubles around `grains`: 53 binary digits are kept. -/
def spacing (grains : Nat) : Nat := Nat.pow 2 (grains.log2 - 52)

/-- The double nearest to `num / den` grains, a tie going to the even one. -/
def ofGrainRatio (negative : Bool) (num den : Nat) : Binary64 :=
  let step := spacing (num / den)
  let grains := roundHalfEven num (den * step) * step
  if overflow ≤ grains then .infinite negative else .finite negative grains

/-- The double nearest to `num / den`. -/
def ofRatio (negative : Bool) (num den : Nat) : Binary64 :=
  ofGrainRatio negative (num * one) den

/-- The double nearest to a natural number. -/
def ofNat (n : Nat) : Binary64 := ofRatio false n 1

/-- The double nearest to an integer. -/
def ofInt (i : Int) : Binary64 := ofRatio (i < 0) i.natAbs 1

/-- Zero with a positive sign. -/
def zero : Binary64 := .finite false 0

/-- Whether the number is neither infinite nor not a number. -/
def isFinite : Binary64 → Bool
  | .finite _ _ => true
  | _ => false

/-- The same magnitude with the given sign. -/
def withSign (negative : Bool) : Binary64 → Binary64
  | .nan => .nan
  | .infinite _ => .infinite negative
  | .finite _ grains => .finite negative grains

/-! ## Order

Every number but NaN has a place on the integer line, an infinity beyond all finite ones; both zeros have
the same place.
-/

/-- The place of a number on the line, none for NaN. -/
def place : Binary64 → Option Int
  | .nan => none
  | .infinite negative => some (if negative then -(overflow : Int) else overflow)
  | .finite negative grains => some (if negative then -(grains : Int) else grains)

/-- Compares two places; a comparison with NaN is false. -/
def related (relation : Int → Int → Bool) (a b : Binary64) : Bool :=
  match a.place, b.place with
  | some x, some y => relation x y
  | _, _ => false

def lt (a b : Binary64) : Bool := related (· < ·) a b

def le (a b : Binary64) : Bool := related (· ≤ ·) a b

/-- Numeric equality: the zeros are equal, NaN differs from everything. -/
def eq (a b : Binary64) : Bool := related (· = ·) a b

/-- Bounds a number from both sides; a number equal to a bound is kept as it is. -/
def clamp (x low high : Binary64) : Binary64 :=
  let raised := if x.lt low then low else x
  if high.lt raised then high else raised

/-! ## Arithmetic

Each operation is exact on grains and rounds once.
-/

/-- The nearest double to the product of two numbers. -/
def mul : Binary64 → Binary64 → Binary64
  | .finite s a, .finite t b => ofGrainRatio (s != t) (a * b) one
  | .infinite s, .infinite t => .infinite (s != t)
  | .infinite s, .finite t b => if b = 0 then .nan else .infinite (s != t)
  | .finite s a, .infinite t => if a = 0 then .nan else .infinite (s != t)
  | _, _ => .nan

/-- The nearest double to the quotient of two numbers. -/
def div : Binary64 → Binary64 → Binary64
  | .finite s a, .finite t b =>
      if b = 0 then (if a = 0 then .nan else .infinite (s != t))
      else ofGrainRatio (s != t) (a * one) b
  | .infinite s, .finite t _ => .infinite (s != t)
  | .finite s _, .infinite t => .finite (s != t) 0
  | _, _ => .nan

/-- The nearest double to the sum of two numbers that are not negative. -/
def addMagnitudes : Binary64 → Binary64 → Binary64
  | .finite _ a, .finite _ b => ofGrainRatio false (a + b) 1
  | .nan, _ => .nan
  | _, .nan => .nan
  | _, _ => .infinite false

/-- The whole part of a number, zero for a negative one and `limit` for one beyond it. -/
def wholePart (limit : Nat) : Binary64 → Nat
  | .finite false grains => min (grains / one) limit
  | .infinite false => limit
  | _ => 0

/-- The number of parts of size `1 / parts` nearest to the magnitude, a tie to the even one. -/
def nearestParts (parts : Nat) : Binary64 → Nat
  | .finite _ grains => roundHalfEven (grains * parts) one
  | _ => 0

/-! ## Small lemmas -/

@[simp] theorem place_nan : place .nan = none := rfl

@[simp] theorem place_finite_false (n : Nat) : place (.finite false n) = some (n : Int) := rfl

theorem place_eq_none_iff {x : Binary64} : x.place = none ↔ x = .nan := by
  cases x with
  | nan => exact ⟨fun _ => rfl, fun _ => rfl⟩
  | infinite negative => exact ⟨nofun, nofun⟩
  | finite negative grains => exact ⟨nofun, nofun⟩

theorem eq_symm (a b : Binary64) : a.eq b = b.eq a := by
  unfold eq related
  cases a.place <;> cases b.place <;> simp [eq_comm]

theorem related_nan_left (relation : Int → Int → Bool) (x : Binary64) : related relation .nan x = false := rfl

theorem related_nan_right (relation : Int → Int → Bool) (x : Binary64) : related relation x .nan = false := by
  cases place : x.place <;> simp [related, place]

/-- Rounding never gives NaN. -/
theorem ofGrainRatio_ne_nan (negative : Bool) (num den : Nat) : ofGrainRatio negative num den ≠ .nan := by
  simp only [ofGrainRatio]
  split <;> nofun

theorem ofRatio_ne_nan (negative : Bool) (num den : Nat) : ofRatio negative num den ≠ .nan :=
  ofGrainRatio_ne_nan negative (num * one) den

theorem ofNat_ne_nan (n : Nat) : ofNat n ≠ .nan := ofRatio_ne_nan false n 1

end Binary64

end WorkflowEngine
