/-
Module: WorkflowEngine.Proofs.DecimalText
Layer: Proofs
Purpose: The grammar of decimal literals and their values: an optional sign, digits with an optional fraction or a
  point and digits, and an optional exponent.  Literals are read as what the grammar says that they are, and no other
  text is read (`Decimal.read?_eq_some_iff`).
Imports: WorkflowEngine.Number.Decimal
Trusted boundary: none
Main exports: Decimal.Digits, Decimal.Sign, Decimal.Mantissa, Decimal.Exponent, Decimal.Written,
  Decimal.readExponent?_eq_some_iff, Decimal.read?_eq_some_iff
-/
import WorkflowEngine.Number.Decimal

namespace WorkflowEngine

namespace Decimal

/-! ## The grammar -/

/-- Decimal digits, at least one. -/
structure Digits (cs : List Char) : Prop where
  ne_nil : cs ≠ []
  all : ∀ c ∈ cs, c.isDigit = true

/-- An optional sign; the flag says whether it is a minus. -/
inductive Sign : List Char → Bool → Prop where
  | absent : Sign [] false
  | plus : Sign ['+'] false
  | minus : Sign ['-'] true

/-- The digits before and after the point, of which there are some. -/
inductive Mantissa : (cs whole fraction : List Char) → Prop where
  | whole {whole : List Char} (digits : Digits whole) : Mantissa whole whole []
  | pointed {whole fraction : List Char} (digits : Digits whole) (more : ∀ c ∈ fraction, c.isDigit = true) :
      Mantissa (whole ++ '.' :: fraction) whole fraction
  | fraction {fraction : List Char} (digits : Digits fraction) : Mantissa ('.' :: fraction) [] fraction

/-- An optional exponent. -/
inductive Exponent : List Char → Int → Prop where
  | absent : Exponent [] 0
  | marked {mark : Char} {sign digits : List Char} {negative : Bool} (marks : mark = 'e' ∨ mark = 'E')
      (signed : Sign sign negative) (filled : Digits digits) :
      Exponent (mark :: (sign ++ digits))
        (if negative then -(naturalOfDigits digits : Int) else naturalOfDigits digits)

/-- A decimal literal and its value. -/
inductive Written : List Char → Decimal → Prop where
  | intro {sign mantissa whole fraction exponent : List Char} {negative : Bool} {e : Int}
      (signed : Sign sign negative) (digits : Mantissa mantissa whole fraction) (scaled : Exponent exponent e) :
      Written (sign ++ (mantissa ++ exponent)) ⟨negative, naturalOfDigits (whole ++ fraction), e - fraction.length⟩

/-! ## Signs -/

variable {cs rest whole fraction : List Char} {negative : Bool}

theorem of_splitSign (split : splitSign cs = (negative, rest)) : ∃ sign, Sign sign negative ∧ cs = sign ++ rest := by
  unfold splitSign at split
  split at split
  · cases split
    exact ⟨_, .plus, rfl⟩
  · cases split
    exact ⟨_, .minus, rfl⟩
  · cases split
    exact ⟨_, .absent, rfl⟩

/-- A sign is split off as long as no other one follows. -/
theorem splitSign_append {sign : List Char} (signed : Sign sign negative)
    (unsigned : ∀ c ∈ rest.head?, c ≠ '+' ∧ c ≠ '-') : splitSign (sign ++ rest) = (negative, rest) := by
  cases signed with
  | plus | minus => rfl
  | absent =>
      rw [List.nil_append]
      unfold splitSign
      split
      · exact absurd rfl (unsigned '+' rfl).1
      · exact absurd rfl (unsigned '-' rfl).2
      · rfl

theorem Digits.head? (digits : Digits cs) : ∀ c ∈ (cs ++ rest).head?, c.isDigit = true := by
  obtain ⟨first, more, rfl⟩ := List.exists_cons_of_ne_nil digits.ne_nil
  rintro c ⟨⟩
  exact digits.all first List.mem_cons_self

theorem ne_sign_of_isDigit {c : Char} (digit : c.isDigit = true) : c ≠ '+' ∧ c ≠ '-' := by
  constructor
  · rintro rfl
    cases digit
  · rintro rfl
    cases digit

/-! ## Exponents -/

theorem readExponent?_eq_some_iff {e : Int} : readExponent? cs = some e ↔ Exponent cs e := by
  constructor
  · intro read
    unfold readExponent? at read
    split at read
    · cases read
      exact .absent
    · rename_i mark tail
      simp only [Option.ite_none_right_eq_some] at read
      obtain ⟨marks, read⟩ := read
      cases split : splitSign tail with
      | mk negative digits =>
          obtain ⟨sign, signed, rfl⟩ := of_splitSign split
          simp only [split, Option.ite_none_left_eq_some, Option.ite_none_right_eq_some, List.isEmpty_iff,
            List.all_eq_true] at read
          obtain ⟨ne_nil, all, value⟩ := read
          cases value
          exact .marked marks signed ⟨ne_nil, all⟩
  · intro scaled
    cases scaled with
    | absent => rfl
    | @marked mark sign digits negative marks signed filled =>
        have unsigned : ∀ c ∈ digits.head?, c ≠ '+' ∧ c ≠ '-' := by
          intro c first
          exact ne_sign_of_isDigit (filled.all c (List.mem_of_mem_head? first))
        have all : digits.all Char.isDigit = true := List.all_eq_true.mpr filled.all
        have full : digits.isEmpty = false := by simpa using filled.ne_nil
        simp only [readExponent?, if_pos marks, splitSign_append signed unsigned, full, all]
        rfl

/-! ## Digits and points -/

/-- What a mantissa is read as: the digits before the point, those after it, and what follows. -/
def spanMantissa (cs : List Char) : List Char × List Char × List Char :=
  let (whole, afterWhole) := spanDigits cs
  let (fraction, rest) := match afterWhole with
    | '.' :: tail => spanDigits tail
    | _ => ([], afterWhole)
  (whole, fraction, rest)

theorem read?_eq (cs : List Char) : read? cs =
    let (negative, unsigned) := splitSign cs
    let (whole, fraction, rest) := spanMantissa unsigned
    if whole.isEmpty && fraction.isEmpty then none
    else (readExponent? rest).map fun e => ⟨negative, naturalOfDigits (whole ++ fraction), e - fraction.length⟩ := rfl

theorem spanDigits_all (digits : spanDigits cs = (whole, rest)) : ∀ c ∈ whole, c.isDigit = true := by
  have all := spanDigits_digits cs
  rw [digits] at all
  exact List.all_eq_true.mp all

theorem spanDigits_join (digits : spanDigits cs = (whole, rest)) : cs = whole ++ rest := by
  have whole := spanDigits_append cs
  rw [digits] at whole
  exact whole.symm

theorem of_spanMantissa (spans : spanMantissa cs = (whole, fraction, rest)) (filled : whole = [] → fraction ≠ []) :
    ∃ mantissa, Mantissa mantissa whole fraction ∧ cs = mantissa ++ rest := by
  cases spanned : spanDigits cs with
  | mk front after =>
      have all := spanDigits_all spanned
      obtain rfl := spanDigits_join spanned
      simp only [spanMantissa, spanned, Prod.mk.injEq] at spans
      obtain ⟨rfl, fractionEq, restEq⟩ := spans
      split at fractionEq
      · rename_i tail
        have tailSpanned : spanDigits tail = (fraction, rest) := Prod.ext fractionEq restEq
        have more := spanDigits_all tailSpanned
        obtain rfl := spanDigits_join tailSpanned
        by_cases bare : front = []
        · subst bare
          exact ⟨_, .fraction ⟨filled rfl, more⟩, rfl⟩
        · exact ⟨_, .pointed ⟨bare, all⟩ more, by simp⟩
      · rename_i pointless
        subst fractionEq
        have restEq : after = rest := by
          split at restEq
          · exact absurd rfl (pointless _)
          · exact restEq
        subst restEq
        exact ⟨_, .whole ⟨fun bare => filled bare rfl, all⟩, rfl⟩

/-- A mantissa is read to its end, as long as neither a digit nor a point follows. -/
theorem spanMantissa_append {mantissa : List Char} (digits : Mantissa mantissa whole fraction)
    (stops : ∀ c ∈ rest.head?, c.isDigit = false ∧ c ≠ '.') : spanMantissa (mantissa ++ rest) = (whole, fraction, rest) := by
  have noDigit : ∀ c ∈ rest.head?, c.isDigit = false := fun c first => (stops c first).1
  cases digits with
  | whole filled =>
      simp only [spanMantissa, spanDigits_until filled.all noDigit]
      split
      · exact absurd rfl (stops '.' rfl).2
      · rfl
  | pointed filled more =>
      have point : ∀ c ∈ ('.' :: (fraction ++ rest)).head?, c.isDigit = false := by
        rintro c ⟨⟩
        rfl
      simp only [List.append_assoc, List.cons_append, spanMantissa, spanDigits_until filled.all point,
        spanDigits_until more noDigit]
  | fraction filled =>
      have bare : spanDigits ('.' :: (fraction ++ rest)) = ([], '.' :: (fraction ++ rest)) := rfl
      simp only [List.cons_append, spanMantissa, bare, spanDigits_until filled.all noDigit]

/-! ## Literals -/

theorem Mantissa.filled {mantissa : List Char} (digits : Mantissa mantissa whole fraction) :
    (whole.isEmpty && fraction.isEmpty) = false := by
  cases digits with
  | whole filled | pointed filled | fraction filled => simp [filled.ne_nil]

/-- A mantissa starts with a digit or a point. -/
theorem Mantissa.unsigned {mantissa : List Char} (digits : Mantissa mantissa whole fraction) :
    ∀ c ∈ (mantissa ++ rest).head?, c ≠ '+' ∧ c ≠ '-' := by
  intro c first
  cases digits with
  | whole filled => exact ne_sign_of_isDigit (filled.head? c first)
  | pointed filled =>
      rw [List.append_assoc] at first
      exact ne_sign_of_isDigit (filled.head? c first)
  | fraction =>
      cases first
      decide

theorem Exponent.stops {e : Int} (scaled : Exponent cs e) : ∀ c ∈ cs.head?, c.isDigit = false ∧ c ≠ '.' := by
  intro c first
  cases scaled with
  | absent => cases first
  | marked marks =>
      cases first
      rcases marks with rfl | rfl <;> decide

/-- A text is read as a decimal just if it is a literal with that value. -/
theorem read?_eq_some_iff {d : Decimal} : read? cs = some d ↔ Written cs d := by
  rw [read?_eq]
  constructor
  · intro read
    cases split : splitSign cs with
    | mk negative unsigned =>
        obtain ⟨sign, signed, rfl⟩ := of_splitSign split
        cases spanned : spanMantissa unsigned with
        | mk whole tail =>
            obtain ⟨fraction, rest⟩ := tail
            simp only [split, spanned, Option.ite_none_left_eq_some, Option.map_eq_some_iff] at read
            obtain ⟨some, e, scaled, rfl⟩ := read
            have filled : whole = [] → fraction ≠ [] := by
              simpa using some
            obtain ⟨mantissa, digits, rfl⟩ := of_spanMantissa spanned filled
            exact .intro signed digits (readExponent?_eq_some_iff.mp scaled)
  · intro written
    cases written with
    | intro signed digits scaled =>
        simp only [splitSign_append signed digits.unsigned, spanMantissa_append digits scaled.stops, digits.filled,
          readExponent?_eq_some_iff.mpr scaled]
        rfl

end Decimal

end WorkflowEngine
