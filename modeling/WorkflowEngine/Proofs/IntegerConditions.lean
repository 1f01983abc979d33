/-
Module: WorkflowEngine.Proofs.IntegerConditions
Layer: Proofs
Purpose: Comparisons with an integer in plain decimal.  A decimal literal is read as the double nearest to its value
  (`Operand.ofLiteral_written`), and so is an integer of the context, so the two are equal exactly if both are kept as
  the same number of 53 binary digits (`Binary64.kept`, `integer_equality`).  That is exact as long as one of them has
  no more digits; two longer ones that are neighbours can be taken for each other (`integer_equality_can_fail`).
Imports: WorkflowEngine.Proofs.DecimalValue, WorkflowEngine.Proofs.NumberText, WorkflowEngine.Proofs.OperatorLaws,
  WorkflowEngine.Proofs.QuotedConditions
Trusted boundary: none
Main exports: Decimal.written_integer, Operand.numberOfText_written, Operand.ofLiteral_written,
  Expression.read?_written, Binary64.kept, Binary64.ofInt_eq_iff, integer_equality, integer_equality_can_fail
-/
import WorkflowEngine.Proofs.DecimalValue
import WorkflowEngine.Proofs.NumberText
import WorkflowEngine.Proofs.OperatorLaws
import WorkflowEngine.Proofs.QuotedConditions

namespace WorkflowEngine

/-! ## Integers in plain decimal -/

namespace Decimal

variable {cs : List Char} {d : Decimal}

theorem digits_toDigits (n : Nat) : Digits (Nat.toDigits 10 n) where
  ne_nil := Nat.toDigits_ne_nil
  all := fun _ member => Nat.isDigit_of_mem_toDigits (by decide) (by decide) member

/-- An integer is written as a literal for itself. -/
theorem written_integer (i : Int) : Written (toString i).toList ⟨decide (i < 0), i.natAbs, 0⟩ := by
  have spelled {sign : List Char} {negative : Bool} (signed : Sign sign negative) (n : Nat) :
      Written (sign ++ Nat.toDigits 10 n) ⟨negative, n, 0⟩ := by
    have written := Written.intro signed (.whole (digits_toDigits n)) .absent
    have value : naturalOfDigits (Nat.toDigits 10 n) = n := Nat.ofDigitChars_ten_toDigits
    rw [List.append_nil, value] at written
    exact written
  cases i with
  | ofNat n =>
      have text : (toString (Int.ofNat n)).toList = [] ++ Nat.toDigits 10 n := Nat.toList_repr
      rw [text]
      exact spelled .absent n
  | negSucc n =>
      have text : (toString (Int.negSucc n)).toList = ['-'] ++ Nat.toDigits 10 (n + 1) := by
        change ("-" ++ toString (n + 1)).toList = _
        rw [String.toList_append, Nat.toString_eq_repr, Nat.toList_repr]
        rfl
      rw [text, decide_eq_true (Int.negSucc_lt_zero n)]
      exact spelled .minus (n + 1)

theorem notBlank_of_decimalChar {c : Char} (decimal : Operand.isDecimalChar c = true) : isBlank c = false := by
  simp only [Operand.isDecimalChar, Bool.or_eq_true, decide_eq_true_eq] at decimal
  rcases decimal with ((((digit | rfl) | rfl) | rfl) | rfl) | rfl
  · have bounds : 48 ≤ c.toNat ∧ c.toNat ≤ 57 := by
      simpa [Char.isDigit, UInt32.le_iff_toNat_le] using digit
    simp only [isBlank, Bool.or_eq_false_iff, Bool.and_eq_false_iff, decide_eq_false_iff_not]
    omega
  all_goals rfl

namespace Written

variable (written : Written cs d)

include written

theorem starts : ∀ c, cs.head? = some c → isBlank c = false := fun c first =>
  notBlank_of_decimalChar (written.decimalChars c (List.mem_of_mem_head? first))

theorem ends : ∀ c, cs.getLast? = some c → isBlank c = false := fun c last =>
  notBlank_of_decimalChar (written.decimalChars c (List.mem_of_getLast? last))

/-- A character that stands in no literal does not stand in this one. -/
theorem not_mem {c : Char} (foreign : Operand.isDecimalChar c = false) : c ∉ cs := by
  intro member
  cases foreign.symm.trans (written.decimalChars c member)

/-- A text with a character that stands in no literal is no literal. -/
theorem ne_of_mem {text : List Char} {c : Char} (member : c ∈ text) (foreign : Operand.isDecimalChar c = false) :
    cs ≠ text := by
  rintro rfl
  exact written.not_mem foreign member

/-- A literal can follow any operator. -/
theorem takes (p : ComparisonPhrase) : p.Takes cs where
  ne_nil := written.ne_nil
  starts := written.starts
  apart := by
    intro _ follows
    have member := List.mem_of_mem_head? follows
    rcases List.mem_append.mp member with gap | literal
    · cases p.gapAfter_blank '=' gap
    · exact written.not_mem rfl literal

end Written

end Decimal

namespace Operand

variable {cs : List Char} {d : Decimal}

/-- A literal counts as the double nearest to its value. -/
theorem numberOfText_written (written : Decimal.Written cs d) : numberOfText cs = d.toBinary64 := by
  have trimmed : trim cs = cs := trim_eq_self written.starts written.ends
  have notInfinity : cs ≠ "Infinity".toList := written.ne_of_mem (c := 'I') (by decide) rfl
  have notPlus : cs ≠ "+Infinity".toList := written.ne_of_mem (c := 'I') (by decide) rfl
  have notMinus : cs ≠ "-Infinity".toList := written.ne_of_mem (c := 'I') (by decide) rfl
  have unmarked : ¬ (cs.take 2 = ['0', 'x'] ∨ cs.take 2 = ['0', 'X']) := by
    rintro (marked | marked)
    · exact written.not_mem (c := 'x') rfl (List.mem_of_mem_take (by rw [marked]; decide))
    · exact written.not_mem (c := 'X') rfl (List.mem_of_mem_take (by rw [marked]; decide))
  have all : cs.all isDecimalChar = true := List.all_eq_true.mpr written.decimalChars
  unfold numberOfText
  rw [trimmed]
  split
  · exact absurd rfl written.ne_nil
  · rw [if_neg (not_or.mpr ⟨notInfinity, notPlus⟩), if_neg notMinus, if_neg unmarked, if_pos all,
      Decimal.read?_eq_some_iff.mpr written]
    rfl

theorem ofLiteral_written (written : Decimal.Written cs d) : ofLiteral cs = .number d.toBinary64 := by
  have unquoted : ¬ Quoted cs := by
    rintro ⟨quote, inner, quotes, rfl⟩
    have decimal := written.decimalChars quote List.mem_cons_self
    rcases quotes with rfl | rfl <;> cases decimal
  have noWord : cs ∉ words := by
    simp only [words, List.mem_cons, List.not_mem_nil, or_false, not_or]
    exact ⟨written.ne_of_mem (c := 'r') (by decide) rfl, written.ne_of_mem (c := 'a') (by decide) rfl,
      written.ne_of_mem (c := 'n') (by decide) rfl, written.ne_of_mem (c := 'n') (by decide) rfl⟩
  rw [ofLiteral_plain unquoted noWord, numberOfText_written written, if_neg d.toBinary64_ne_nan]

end Operand

/-- A comparison with a decimal literal is read as one with the double nearest to its value. -/
theorem Expression.read?_written (p : ComparisonPhrase) {cs : List Char} {d : Decimal}
    (written : Decimal.Written cs d) :
    read? (p.chars ++ cs) = some (.compare ⟨p.path, p.op, .number d.toBinary64⟩) := by
  rw [read?_phrase (written.takes p) written.ends, Operand.ofLiteral_written written,
    if_neg (written.not_mem (c := '\n') rfl)]

/-! ## Integers as doubles -/

/-- An integer that JSON keeps: it fits 64 bits, with a sign or without. -/
def FitsWord (i : Int) : Prop := -2 ^ 63 ≤ i ∧ i < 2 ^ 64

instance (i : Int) : Decidable (FitsWord i) := inferInstanceAs (Decidable (_ ∧ _))

namespace Binary64

/-- What is kept of an integer: the number of 53 binary digits, and zeros after them, that is nearest to it, or the even
one of two. -/
def kept (i : Int) : Int := signed (decide (i < 0)) (rounded i.natAbs 1)

theorem signed_natAbs (i : Int) : signed (decide (i < 0)) i.natAbs = i := by
  rcases lt_or_ge i 0 with negative | positive
  · rw [decide_eq_true negative, signed_true]
    omega
  · rw [decide_eq_false (Int.not_lt.mpr positive), signed_false]
    omega

theorem natAbs_signed (negative : Bool) (n : Nat) : (signed negative n).natAbs = n := by
  cases negative with
  | false => rfl
  | true => exact Int.natAbs_neg n

/-- Up to 53 binary digits, everything is kept. -/
theorem kept_eq_self {i : Int} (small : i.natAbs < 2 ^ 53) : kept i = i := by
  rw [kept, rounded_eq_self (spacing_dvd_self small), signed_natAbs]

/-- A longer integer is kept as one that is no shorter. -/
theorem le_natAbs_kept {i : Int} (large : 2 ^ 53 ≤ i.natAbs) : 2 ^ 53 ≤ (kept i).natAbs := by
  have power : rounded (2 ^ 53) 1 = 2 ^ 53 := rounded_eq_self (spacing_dvd_two_pow (by decide))
  rw [kept, natAbs_signed]
  calc 2 ^ 53 = rounded (2 ^ 53) 1 := power.symm
    _ ≤ rounded i.natAbs 1 := rounded_mono Nat.one_pos Nat.one_pos (Nat.mul_le_mul_right 1 large)

/-- An integer of up to 53 binary digits is not kept as another one is. -/
theorem kept_inj {m n : Int} (small : m.natAbs < 2 ^ 53) : kept m = kept n ↔ m = n := by
  constructor
  · intro same
    rw [kept_eq_self small] at same
    rcases Nat.lt_or_ge n.natAbs (2 ^ 53) with short | long
    · rwa [kept_eq_self short] at same
    · have longer := le_natAbs_kept long
      rw [← same] at longer
      omega
  · exact congrArg kept

/-- The place of an integer that fits 64 bits is that of what is kept of it. -/
theorem place_ofInt {i : Int} (fits : FitsWord i) : (ofInt i).place = some (kept i * one) := by
  obtain ⟨low, high⟩ := fits
  obtain ⟨zeros, top, one_eq, -⟩ := powers
  have scaled : rounded (i.natAbs * one) 1 = rounded i.natAbs 1 * one := by
    rw [one_eq]
    exact rounded_mul_two_pow i.natAbs zeros
  have digits : i.natAbs.log2 ≤ 64 := by
    have mono := log2_mono (show i.natAbs ≤ 2 ^ 64 by omega)
    rwa [Nat.log2_two_pow] at mono
  have small : rounded i.natAbs 1 ≤ 2 ^ 64 := by
    apply rounded_le Nat.one_pos
    · rw [Nat.div_one]
      exact spacing_dvd_two_pow digits
    · omega
  have finite : rounded i.natAbs 1 * one ≤ overflow :=
    Nat.le_trans (Nat.mul_le_mul_right one small) (by decide +kernel)
  rw [ofInt, ofRatio, place_ofGrainRatio, scaled, Nat.min_eq_left finite, signed_mul, kept]

/-- Doubles of integers that fit 64 bits are equal if the same is kept of both. -/
theorem ofInt_eq_iff {m n : Int} (fits : FitsWord m) (fits' : FitsWord n) :
    (ofInt m).eq (ofInt n) = true ↔ kept m = kept n := by
  have positive : (0 : Int) < one := Int.natCast_pos.mpr one_pos
  rw [eq_iff, place_ofInt fits, place_ofInt fits']
  constructor
  · rintro ⟨place, placed, placed'⟩
    rw [Option.some.injEq] at placed placed'
    exact Int.eq_of_mul_eq_mul_right positive.ne' (placed.trans placed'.symm)
  · intro same
    exact ⟨_, rfl, by rw [same]⟩

end Binary64

/-! ## Equality with an integer -/

/-- A path is strictly equal to an integer exactly if it leads to an integer of which the same is kept: so always if the
two are the same, and only then if one of them has no more than 53 binary digits. -/
theorem integer_equality (p : ComparisonPhrase) (equality : p.op = .strictEq) {m n : Int} (fits : FitsWord m)
    (fits' : FitsWord n) {context : Json.Object}
    (found : Comparison.target? p.path context = some (.number (.integer n))) :
    (evaluateCondition (String.ofList (p.chars ++ (toString m).toList)) context = true ↔
      Binary64.kept m = Binary64.kept n) ∧
    (m = n → evaluateCondition (String.ofList (p.chars ++ (toString m).toList)) context = true) ∧
    (m.natAbs < 2 ^ 53 ∨ n.natAbs < 2 ^ 53 →
      (evaluateCondition (String.ofList (p.chars ++ (toString m).toList)) context = true ↔ m = n)) := by
  have literal : Decimal.toBinary64 ⟨decide (m < 0), m.natAbs, 0⟩ = .ofInt m := Decimal.toBinary64_whole ..
  have resolved : Comparison.resolve p.path context = .number (.ofInt n) := by
    rw [Comparison.resolve_eq, found]
    rfl
  have equal : evaluateCondition (String.ofList (p.chars ++ (toString m).toList)) context = true ↔
      Binary64.kept m = Binary64.kept n := by
    rw [evaluateCondition, String.toList_ofList, Expression.read?_written p (Decimal.written_integer m), literal]
    simp only [Expression.evaluate, Comparison.evaluate, resolved, equality]
    exact (Binary64.ofInt_eq_iff fits' fits).trans eq_comm
  refine ⟨equal, ?_, ?_⟩
  · rintro rfl
    exact equal.mpr rfl
  · rintro (small | small)
    · exact equal.trans (Binary64.kept_inj small)
    · rw [equal, eq_comm, Binary64.kept_inj small, eq_comm]

theorem target?_equals (v : Json) : Comparison.target? equals.path [("x", v)] = some v := by
  have path : equals.path = ["x"] := by decide
  simp [path, Comparison.target?, Json.Object.find?, Json.descend?]

theorem integer_equality_largest : FitsWord (2 ^ 64 - 1) ∧
    evaluateCondition "x === 18446744073709551615" [("x", .number (.integer (2 ^ 64 - 1)))] = true := by
  have fits : FitsWord (2 ^ 64 - 1) := by decide
  obtain ⟨-, same, -⟩ := integer_equality equals rfl fits fits (target?_equals _)
  exact ⟨fits, same rfl⟩

/-- Neighbours of 54 binary digits are taken for each other. -/
theorem integer_equality_can_fail :
    ¬ ∀ (p : ComparisonPhrase) (m n : Int) (context : Json.Object), p.op = .strictEq → FitsWord m → FitsWord n →
      Comparison.target? p.path context = some (.number (.integer n)) →
        (evaluateCondition (String.ofList (p.chars ++ (toString m).toList)) context = true ↔ m = n) := by
  intro exact
  have here := exact equals 9007199254740993 9007199254740992 [("x", .number (.integer 9007199254740992))] rfl
    (by decide) (by decide) (target?_equals _)
  have equal : evaluateCondition (String.ofList (equals.chars ++ (toString (9007199254740993 : Int)).toList))
      [("x", .number (.integer 9007199254740992))] = true := by decide +kernel
  exact absurd (here.mp equal) (by decide)

end WorkflowEngine
