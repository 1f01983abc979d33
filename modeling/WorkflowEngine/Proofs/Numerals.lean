/-
Module: WorkflowEngine.Proofs.Numerals
Layer: Proofs
Purpose: Digits and the numbers that they spell, in the bases that addresses and ports are written in.  The spelling is
  a relation that builds a numeral digit by digit; what the readers compute is the number of that relation.
Imports: WorkflowEngine.Network.Ipv6
Trusted boundary: none
Main exports: Numeral, Numeral.value_eq, Numeral.ofDigits, Numeral.toLower, Numeral.naturalOfDigits_eq,
  hexDigit_cases, toLower_cases
-/
import WorkflowEngine.Network.Ipv6

namespace WorkflowEngine

/-! ## Letter case -/

/-- A character in lower case is a capital letter of ASCII in lower case, or as it was. -/
theorem toLower_cases (c : Char) : (∃ n, 65 ≤ n ∧ n ≤ 90 ∧ c = Char.ofNat n) ∨ c.toLower = c := by
  by_cases capital : c.val ≥ 'A'.val ∧ c.val ≤ 'Z'.val
  · exact .inl ⟨c.toNat, capital.1, capital.2, (Char.ofNat_toNat c).symm⟩
  · exact .inr (dif_neg capital)

/-- A character that is no letter is in lower case only where it was one. -/
theorem toLower_eq_iff {mark c : Char}
    (noLetter : ∀ n < 91, 65 ≤ n → ((Char.ofNat n).toLower = mark ↔ Char.ofNat n = mark)) :
    c.toLower = mark ↔ c = mark := by
  rcases toLower_cases c with ⟨n, low, high, rfl⟩ | same
  · exact noLetter n (by omega) low
  · rw [same]

/-! ## Digits -/

/-- Numbers are told apart by their digits. -/
theorem toDigits_inj {m n : Nat} : Nat.toDigits 10 m = Nat.toDigits 10 n ↔ m = n := by
  constructor
  · intro same
    have number := congrArg (Nat.ofDigitChars 10 · 0) same
    rwa [Nat.ofDigitChars_ten_toDigits, Nat.ofDigitChars_ten_toDigits] at number
  · rintro rfl
    rfl

/-- The hexadecimal digits. -/
def hexDigits : List Char := "0123456789abcdefABCDEF".toList

theorem mem_hexDigits {c : Char} (digit : isHexDigit c = true) : c ∈ hexDigits := by
  have bound : c.toNat < 103 := by
    simp only [isHexDigit, Char.isDigit, Bool.or_eq_true, Bool.and_eq_true, decide_eq_true_eq, Char.le_def,
      UInt32.le_iff_toNat_le] at digit
    change c.val.toNat < 103
    rcases digit with (⟨-, low⟩ | ⟨-, low⟩) | ⟨-, low⟩
    · exact Nat.lt_of_le_of_lt low (by decide)
    · exact Nat.lt_of_le_of_lt low (by decide)
    · exact Nat.lt_of_le_of_lt low (by decide)
  have table : ∀ n < 103, isHexDigit (Char.ofNat n) = true → Char.ofNat n ∈ hexDigits := by decide
  rw [← Char.ofNat_toNat c] at digit ⊢
  exact table c.toNat bound digit

/-- What holds of each of the digits holds of whatever character is a digit. -/
theorem hexDigit_cases {P : Char → Prop} [DecidablePred P] (all : (hexDigits.all fun c => decide (P c)) = true) {c : Char}
    (digit : isHexDigit c = true) : P c :=
  of_decide_eq_true (List.all_eq_true.1 all c (mem_hexDigits digit))

theorem isHexDigit_toLower {c : Char} : isHexDigit c = true → isHexDigit c.toLower = true :=
  hexDigit_cases (P := fun c => isHexDigit c.toLower = true) (by decide)

theorem hexValue_toLower {c : Char} : isHexDigit c = true → hexValue c.toLower = hexValue c :=
  hexDigit_cases (P := fun c => hexValue c.toLower = hexValue c) (by decide)

theorem isDigit_of_hexValue {c : Char} : isHexDigit c = true → hexValue c < 10 → c.isDigit = true :=
  hexDigit_cases (P := fun c => hexValue c < 10 → c.isDigit = true) (by decide)

theorem hexValue_of_isDigit {c : Char} (digit : c.isDigit = true) : hexValue c = digitValue c := by
  rw [hexValue, if_pos digit]
  rfl

/-! ## Numerals -/

/-- Digits of a base, and the number that they spell. -/
inductive Numeral (base : Nat) : List Char → Nat → Prop where
  | nil : Numeral base [] 0
  | snoc {cs : List Char} {n : Nat} {c : Char} (front : Numeral base cs n) (digit : isHexDigit c = true)
      (small : hexValue c < base) : Numeral base (cs ++ [c]) (base * n + hexValue c)

namespace Numeral

variable {base n : Nat} {cs : List Char}

theorem digits (h : Numeral base cs n) : ∀ c ∈ cs, isHexDigit c = true ∧ hexValue c < base := by
  induction h with
  | nil => exact nofun
  | snoc front digit small ih =>
      intro c member
      rcases List.mem_append.1 member with earlier | last
      · exact ih c earlier
      · rw [List.mem_singleton.1 last]
        exact ⟨digit, small⟩

/-- The number is the one that digits give when they are taken from the left. -/
theorem value_eq (h : Numeral base cs n) : cs.foldl (fun n c => base * n + hexValue c) 0 = n := by
  induction h with
  | nil => rfl
  | snoc front digit small ih => rw [List.foldl_append, ih, List.foldl_cons, List.foldl_nil]

/-- Letter case makes no difference. -/
theorem toLower (h : Numeral base cs n) : Numeral base (cs.map Char.toLower) n := by
  induction h with
  | nil => exact .nil
  | snoc front digit small ih =>
      rw [List.map_append, List.map_singleton, ← hexValue_toLower digit]
      exact .snoc ih (isHexDigit_toLower digit) (by rwa [hexValue_toLower digit])

/-- Digits after a numeral make a longer one. -/
theorem append {more : List Char} (h : Numeral base cs n) (all : ∀ c ∈ more, isHexDigit c = true ∧ hexValue c < base) :
    Numeral base (cs ++ more) (more.foldl (fun n c => base * n + hexValue c) n) := by
  induction more generalizing cs n with
  | nil => simpa using h
  | cons c more ih =>
      obtain ⟨⟨digit, small⟩, rest⟩ := List.forall_mem_cons.1 all
      have longer := ih (h.snoc digit small) rest
      rwa [List.append_assoc, List.singleton_append] at longer

/-- Whatever digits there are, they spell a number. -/
theorem ofDigits (all : (cs.all fun c => isHexDigit c && hexValue c < base) = true) :
    Numeral base cs (cs.foldl (fun n c => base * n + hexValue c) 0) :=
  append .nil (by simpa using all)

theorem isDigit (h : Numeral 10 cs n) : ∀ c ∈ cs, c.isDigit = true :=
  fun c member => isDigit_of_hexValue (h.digits c member).1 (h.digits c member).2

theorem naturalOfDigits_eq (h : Numeral 10 cs n) : naturalOfDigits cs = n := by
  induction h with
  | nil => rfl
  | snoc front digit small ih =>
      rw [naturalOfDigits, List.foldl_append, List.foldl_cons, List.foldl_nil, ← naturalOfDigits, ih,
        hexValue_of_isDigit (isDigit_of_hexValue digit small)]

theorem ofHexDigits_eq (h : Numeral 16 cs n) : ofHexDigits cs = n := h.value_eq

theorem readDigits?_eq (h : Numeral base cs n) : Ipv4.readDigits? base cs = some n := by
  have all : (cs.all fun c => isHexDigit c && hexValue c < base) = true := by
    simpa using h.digits
  rw [Ipv4.readDigits?, if_pos all, h.value_eq]

end Numeral

end WorkflowEngine
