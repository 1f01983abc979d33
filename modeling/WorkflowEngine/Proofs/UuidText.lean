/-
Module: WorkflowEngine.Proofs.UuidText
Layer: Proofs
Purpose: The text of an identifier.  A text is read as an identifier exactly if it is the canonical text of that
  identifier in some letter case (`Uuid.ofChars?_eq_some`).
Imports: Mathlib.Algebra.Ring.Nat, WorkflowEngine.Proofs.Numerals, WorkflowEngine.Uuid
Trusted boundary: none
Main exports: isHexDigit_toLower_eq, Uuid.Grouped, Uuid.hexDigits_eq_toLower, Uuid.hexDigits_ofNat,
  Uuid.ofChars?_eq_some, Uuid.ofChars?_chars
-/
import Mathlib.Algebra.Ring.Nat
import WorkflowEngine.Proofs.Numerals
import WorkflowEngine.Uuid

namespace WorkflowEngine

/-! ## Letter case -/

theorem isHexDigit_toLower_eq (c : Char) : isHexDigit c.toLower = isHexDigit c := by
  rcases toLower_cases c with ⟨n, low, high, rfl⟩ | same
  · have table : ∀ n < 91, 65 ≤ n → isHexDigit (Char.ofNat n).toLower = isHexDigit (Char.ofNat n) := by decide
    exact table n (by omega) low
  · rw [same]

/-- The last four bits of a number are written as the digit that they were read from, in lower case. -/
theorem lowerHex_digit {c : Char} (digit : isHexDigit c = true) (n : Nat) :
    lowerHex (16 * n + hexValue c) = c.toLower := by
  have small : hexValue c < 16 := hexDigit_cases (P := fun c => hexValue c < 16) (by decide) digit
  have written : Nat.digitChar (hexValue c) = c.toLower :=
    hexDigit_cases (P := fun c => Nat.digitChar (hexValue c) = c.toLower) (by decide) digit
  rw [lowerHex, Nat.mul_add_mod, Nat.mod_eq_of_lt small, written]

/-- Digits spell no number beyond their count. -/
theorem Numeral.lt_pow {base n : Nat} {cs : List Char} (h : Numeral base cs n) : n < base ^ cs.length := by
  induction h with
  | nil => exact Nat.zero_lt_one
  | @snoc cs n c front digit small ih =>
      rw [List.length_append, List.length_singleton, Nat.pow_succ, Nat.mul_comm _ base]
      calc base * n + hexValue c < base * n + base := Nat.add_lt_add_left small _
        _ = base * (n + 1) := (Nat.mul_succ base n).symm
        _ ≤ base * base ^ cs.length := Nat.mul_le_mul_left base ih

namespace Uuid

/-! ## Groups -/

theorem all_isHexDigit_toLower (cs : List Char) : (cs.map Char.toLower).all isHexDigit = cs.all isHexDigit := by
  rw [List.all_map]
  congr 1
  funext c
  exact isHexDigit_toLower_eq c

/-- Digits in groups of given lengths with hyphens between, and the digits alone. -/
inductive Grouped : List Nat → List Char → List Char → Prop where
  | last {n : Nat} {cs : List Char} (length : cs.length = n) (all : cs.all isHexDigit = true) : Grouped [n] cs cs
  | more {n m : Nat} {rest : List Nat} {part tail digits : List Char} (length : part.length = n)
      (all : part.all isHexDigit = true) (others : Grouped (m :: rest) tail digits) :
      Grouped (n :: m :: rest) (part ++ '-' :: tail) (part ++ digits)

namespace Grouped

variable {groups : List Nat} {cs digits : List Char}

theorem all (h : Grouped groups cs digits) : digits.all isHexDigit = true := by
  induction h with
  | last length all => exact all
  | more length all others ih => rw [List.all_append, all, ih, Bool.and_self]

theorem length (h : Grouped groups cs digits) : digits.length = groups.sum := by
  induction h with
  | last length all => simpa using length
  | more length all others ih => rw [List.length_append, List.sum_cons, length, ih]

/-- The digits of groups are found. -/
theorem ungroup?_eq (h : Grouped groups cs digits) : ungroup? groups cs = some digits := by
  induction h with
  | last length all => rw [ungroup?, if_pos ⟨length, all⟩]
  | more length all others ih =>
      rw [ungroup?, ← length, List.drop_left, List.take_left]
      · simp only [all, if_true, ih, Option.map_some]
      · exact nofun

/-- A text with groups is made of its digits. -/
theorem hyphenate_eq (h : Grouped groups cs digits) : hyphenate groups digits = cs := by
  induction h with
  | last length all => rfl
  | more length all others ih => rw [hyphenate, ← length, List.take_left, List.drop_left, ih]

theorem toLower (h : Grouped groups cs digits) : Grouped groups (cs.map Char.toLower) (digits.map Char.toLower) := by
  induction h with
  | last length all =>
      exact .last ((List.length_map _).trans length) ((all_isHexDigit_toLower _).trans all)
  | more length all others ih =>
      rw [List.map_append, List.map_append]
      exact .more ((List.length_map _).trans length) ((all_isHexDigit_toLower _).trans all) ih

/-- A text in lower case has groups only if the text itself has. -/
theorem of_toLower {lower : List Char} (h : Grouped groups (cs.map Char.toLower) lower) :
    ∃ digits, Grouped groups cs digits ∧ digits.map Char.toLower = lower := by
  generalize same : cs.map Char.toLower = text at h
  induction h generalizing cs with
  | last length all =>
      subst same
      exact ⟨cs, .last ((List.length_map _).symm.trans length) ((all_isHexDigit_toLower _).symm.trans all), rfl⟩
  | more length all others ih =>
      obtain ⟨part, rest, rfl, rfl, split⟩ := List.map_eq_append_iff.1 same
      obtain ⟨hyphen, tail, rfl, dash, rfl⟩ := List.map_eq_cons_iff.1 split
      obtain ⟨digits, grouped, rfl⟩ := ih rfl
      rw [(toLower_eq_iff (by decide)).1 dash]
      refine ⟨part ++ digits, .more ((List.length_map _).symm.trans length) ?_ grouped, List.map_append⟩
      exact (all_isHexDigit_toLower _).symm.trans all

end Grouped

/-- Where digits of groups are found, there are groups. -/
theorem grouped_of_ungroup? {n : Nat} {rest : List Nat} {cs digits : List Char}
    (found : ungroup? (n :: rest) cs = some digits) : Grouped (n :: rest) cs digits := by
  induction rest generalizing n cs digits with
  | nil =>
      simp only [ungroup?, Option.ite_none_right_eq_some, Option.some.injEq] at found
      obtain ⟨⟨length, all⟩, rfl⟩ := found
      exact .last length all
  | cons m rest ih =>
      rw [ungroup?] at found
      · split at found
        · rename_i tail dropped
          split at found
          · rename_i all
            obtain ⟨others, inside, rfl⟩ := Option.map_eq_some_iff.1 found
            have length : (cs.take n).length = n := by
              have left : (cs.drop n).length = tail.length + 1 := congrArg List.length dropped
              rw [List.length_drop] at left
              exact List.length_take_of_le (by omega)
            have grouped := Grouped.more length all (ih inside)
            rwa [← dropped, List.take_append_drop] at grouped
          · cases found
        · cases found
      · exact nofun

/-- Any digits can be put in groups. -/
theorem grouped_hyphenate {n : Nat} {rest : List Nat} {digits : List Char} (all : digits.all isHexDigit = true)
    (length : digits.length = (n :: rest).sum) : Grouped (n :: rest) (hyphenate (n :: rest) digits) digits := by
  induction rest generalizing n digits with
  | nil => exact .last (length.trans (Nat.add_zero n)) all
  | cons m rest ih =>
      rw [List.sum_cons] at length
      have taken : (digits.take n).length = n := List.length_take_of_le (by omega)
      have whole : digits.take n ++ digits.drop n = digits := List.take_append_drop n digits
      rw [← whole, List.all_append, Bool.and_eq_true] at all
      have grouped := Grouped.more taken all.1 (ih (n := m) all.2 (by rw [List.length_drop]; omega))
      rwa [whole] at grouped

/-! ## Digits -/

/-- The number that digits spell is written with the same digits, in lower case. -/
theorem hexDigits_eq_toLower {digits : List Char} {n : Nat} (spelled : Numeral 16 digits n) :
    hexDigits digits.length n = digits.map Char.toLower := by
  induction spelled with
  | nil => rfl
  | @snoc cs n c front digit small ih =>
      have quotient : (16 * n + hexValue c) / 16 = n := by omega
      rw [List.length_append, List.length_singleton, hexDigits, quotient, ih, lowerHex_digit digit, List.map_append,
        List.map_singleton]

theorem lowerHex_isHexDigit (n : Nat) : isHexDigit (lowerHex n) = true ∧ hexValue (lowerHex n) = n % 16 := by
  have table : ∀ m < 16, isHexDigit (Nat.digitChar m) = true ∧ hexValue (Nat.digitChar m) = m := by decide
  exact table (n % 16) (Nat.mod_lt _ (by decide))

/-- A number that fits is spelled by its digits. -/
theorem numeral_hexDigits {width n : Nat} (fits : n < 16 ^ width) : Numeral 16 (hexDigits width n) n := by
  induction width generalizing n with
  | zero =>
      have zero : n = 0 := by simpa using fits
      rw [zero]
      exact .nil
  | succ width ih =>
      obtain ⟨digit, value⟩ := lowerHex_isHexDigit n
      have quotient : n / 16 < 16 ^ width := by
        rw [Nat.pow_succ] at fits
        exact Nat.div_lt_of_lt_mul (by rwa [Nat.mul_comm])
      have spelled := (ih quotient).snoc digit (by rw [value]; exact Nat.mod_lt _ (by decide))
      rwa [value, Nat.div_add_mod] at spelled

theorem length_hexDigits (width n : Nat) : (hexDigits width n).length = width := by
  induction width generalizing n with
  | zero => rfl
  | succ width ih => rw [hexDigits, List.length_append, ih, List.length_singleton]

/-! ## Identifiers -/

theorem numeral_bits (id : Uuid) : Numeral 16 (hexDigits 32 id.bits.val) id.bits.val :=
  numeral_hexDigits id.bits.isLt

/-- The canonical text has the digits of the identifier in its groups. -/
theorem grouped_chars (id : Uuid) : Grouped groups id.chars (hexDigits 32 id.bits.val) := by
  apply grouped_hyphenate
  · rw [List.all_eq_true]
    exact fun c member => (id.numeral_bits.digits c member).1
  · exact length_hexDigits ..

theorem eq_of_hexDigits {id other : Uuid} (same : hexDigits 32 id.bits.val = hexDigits 32 other.bits.val) :
    id = other := by
  have value : id.bits.val = other.bits.val := by
    rw [← id.numeral_bits.value_eq, same, other.numeral_bits.value_eq]
  obtain ⟨bits⟩ := id
  obtain ⟨bits'⟩ := other
  rw [Uuid.mk.injEq]
  exact Fin.ext value

/-- Thirty-two digits spell an identifier whose digits they are, in lower case. -/
theorem hexDigits_ofNat {digits : List Char} (all : digits.all isHexDigit = true) (length : digits.length = 32) :
    hexDigits 32 (ofNat (ofHexDigits digits)).bits.val = digits.map Char.toLower := by
  have number : Numeral 16 digits (ofHexDigits digits) := by
    apply Numeral.ofDigits
    rw [List.all_eq_true]
    intro c member
    have digit : isHexDigit c = true := List.all_eq_true.1 all c member
    have small : hexValue c < 16 := hexDigit_cases (P := fun c => hexValue c < 16) (by decide) digit
    rw [digit, decide_eq_true small, Bool.and_self]
  have fits : ofHexDigits digits < 16 ^ 32 := by
    rw [← length]
    exact number.lt_pow
  have bits : (ofNat (ofHexDigits digits)).bits.val = ofHexDigits digits := Nat.mod_eq_of_lt fits
  rw [bits, ← hexDigits_eq_toLower number, length]

/-- A text is read as an identifier exactly if it is the canonical text of that identifier in some letter case. -/
theorem ofChars?_eq_some {cs : List Char} {id : Uuid} : ofChars? cs = some id ↔ cs.map Char.toLower = id.chars := by
  -- What the digits of a text spell, in whatever case, has those digits in lower case.
  have spelled {digits : List Char} (grouped : Grouped groups cs digits) :
      ofChars? cs = some (ofNat (ofHexDigits digits)) ∧
        hexDigits 32 (ofNat (ofHexDigits digits)).bits.val = digits.map Char.toLower :=
    ⟨by rw [ofChars?, grouped.ungroup?_eq]; rfl, hexDigits_ofNat grouped.all grouped.length⟩
  constructor
  · intro read
    obtain ⟨digits, found, -⟩ := Option.map_eq_some_iff.1 read
    have grouped := grouped_of_ungroup? found
    obtain ⟨again, written⟩ := spelled grouped
    cases again.symm.trans read
    rw [chars, written]
    exact grouped.toLower.hyphenate_eq.symm
  · intro canonical
    have lower := grouped_chars id
    rw [← canonical] at lower
    obtain ⟨digits, grouped, same⟩ := lower.of_toLower
    obtain ⟨read, written⟩ := spelled grouped
    rw [read, eq_of_hexDigits (written.trans same)]

/-- The canonical text is in lower case. -/
theorem chars_toLower (id : Uuid) : id.chars.map Char.toLower = id.chars := by
  have digits := hexDigits_eq_toLower id.numeral_bits
  rw [length_hexDigits] at digits
  have lower := id.grouped_chars.toLower
  rw [← digits] at lower
  exact lower.hyphenate_eq.symm

/-- The canonical text is read back. -/
theorem ofChars?_chars (id : Uuid) : ofChars? id.chars = some id := ofChars?_eq_some.mpr id.chars_toLower

theorem read?_eq_some {text : String} {id : Uuid} : read? text = some id ↔ text.toList.map Char.toLower = id.chars :=
  ofChars?_eq_some

end Uuid

end WorkflowEngine
