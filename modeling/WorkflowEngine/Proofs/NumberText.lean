/-
Module: WorkflowEngine.Proofs.NumberText
Layer: Proofs
Purpose: Which texts count as numbers: nothing but white space, `Infinity` with an optional sign, hexadecimal digits
  after `0x` and decimal literals (`NumberText`).  Hexadecimal digits are misread in two ways: digits that spell
  `2 ^ 64` or more are no number, and a plus sign before the others is let pass (`number_text`,
  `hexadecimal_text_differs`).  A literal that is no word, not quoted and no number is the text itself.
Imports: WorkflowEngine.Condition.Operand, WorkflowEngine.Proofs.DecimalText
Trusted boundary: none
Main exports: HexDigits, ReadableHex, MisreadHex, NumberText, Operand.readHexadecimal?_ne_none_iff,
  Operand.numberOfText_ne_nan_iff, Operand.numberOfText_eq_nan, number_text, hexadecimal_text_differs
-/
import WorkflowEngine.Condition.Operand
import WorkflowEngine.Proofs.DecimalText

namespace WorkflowEngine

/-! ## The forms of numbers -/

/-- Hexadecimal digits, at least one and any number of them. -/
structure HexDigits (cs : List Char) : Prop where
  ne_nil : cs ≠ []
  all : ∀ c ∈ cs, isHexDigit c = true

/-- The hexadecimal digits that are read: an optional plus sign, and digits that spell a number below `2 ^ 64`. -/
inductive ReadableHex : List Char → Prop where
  | bare {digits : List Char} (spelled : HexDigits digits) (small : ofHexDigits digits < Nat.pow 2 64) :
      ReadableHex digits
  | plus {digits : List Char} (spelled : HexDigits digits) (small : ofHexDigits digits < Nat.pow 2 64) :
      ReadableHex ('+' :: digits)

/-- What may follow `0x` and is read as it should not be: a plus sign is let pass, and digits that spell `2 ^ 64` or
more are not read. -/
inductive MisreadHex : List Char → Prop where
  | plus {digits : List Char} (spelled : HexDigits digits) (small : ofHexDigits digits < Nat.pow 2 64) :
      MisreadHex ('+' :: digits)
  | large {digits : List Char} (spelled : HexDigits digits) (large : Nat.pow 2 64 ≤ ofHexDigits digits) :
      MisreadHex digits

/-- The text starts as hexadecimal numbers do, and goes on like this. -/
inductive Marked (hex : List Char → Prop) : List Char → Prop where
  | intro {mark : Char} {digits : List Char} (marks : mark = 'x' ∨ mark = 'X') (spelled : hex digits) :
      Marked hex ('0' :: mark :: digits)

/-- A text without white space around it that is a number, given what may follow `0x`. -/
inductive NumberText (hex : List Char → Prop) : List Char → Prop where
  | empty : NumberText hex []
  | infinity {sign : List Char} {negative : Bool} (signed : Decimal.Sign sign negative) :
      NumberText hex (sign ++ "Infinity".toList)
  | hexadecimal {cs : List Char} (marked : Marked hex cs) : NumberText hex cs
  | decimal {cs : List Char} {d : Decimal} (written : Decimal.Written cs d) : NumberText hex cs

/-! ## Characters of decimal literals -/

namespace Decimal

variable {cs : List Char}

theorem Digits.decimalChars (digits : Digits cs) : ∀ c ∈ cs, Operand.isDecimalChar c = true := by
  intro c member
  simp [Operand.isDecimalChar, digits.all c member]

theorem Sign.decimalChars {negative : Bool} (signed : Sign cs negative) :
    ∀ c ∈ cs, Operand.isDecimalChar c = true := by
  cases signed with
  | absent => exact List.forall_mem_nil _
  | plus | minus => exact List.forall_mem_singleton.mpr rfl

theorem Mantissa.decimalChars {whole fraction : List Char} (digits : Mantissa cs whole fraction) :
    ∀ c ∈ cs, Operand.isDecimalChar c = true := by
  cases digits with
  | whole filled => exact filled.decimalChars
  | pointed filled more =>
      rw [List.forall_mem_append, List.forall_mem_cons]
      refine ⟨filled.decimalChars, rfl, fun c member => ?_⟩
      simp [Operand.isDecimalChar, more c member]
  | fraction filled => exact List.forall_mem_cons.mpr ⟨rfl, filled.decimalChars⟩

theorem Exponent.decimalChars {e : Int} (scaled : Exponent cs e) : ∀ c ∈ cs, Operand.isDecimalChar c = true := by
  cases scaled with
  | absent => exact List.forall_mem_nil _
  | marked marks signed filled =>
      rw [List.forall_mem_cons, List.forall_mem_append]
      refine ⟨?_, signed.decimalChars, filled.decimalChars⟩
      rcases marks with rfl | rfl <;> rfl

theorem Written.decimalChars {d : Decimal} (written : Written cs d) : ∀ c ∈ cs, Operand.isDecimalChar c = true := by
  cases written with
  | intro signed digits scaled =>
      rw [List.forall_mem_append, List.forall_mem_append]
      exact ⟨signed.decimalChars, digits.decimalChars, scaled.decimalChars⟩

theorem Written.ne_nil {d : Decimal} (written : Written cs d) : cs ≠ [] := by
  rintro rfl
  have read := read?_eq_some_iff.mpr written
  cases read

end Decimal

/-! ## Hexadecimal digits -/

section Hexadecimal

variable {cs : List Char}

theorem hexDigits_iff : (!cs.isEmpty && cs.all isHexDigit) = true ↔ HexDigits cs := by
  rw [Bool.and_eq_true, Bool.not_eq_true', List.isEmpty_eq_false_iff, List.all_eq_true]
  exact ⟨fun ⟨ne_nil, all⟩ => ⟨ne_nil, all⟩, fun ⟨ne_nil, all⟩ => ⟨ne_nil, all⟩⟩

theorem HexDigits.unsigned (spelled : HexDigits ('+' :: cs)) : False := by
  have digit := spelled.all '+' List.mem_cons_self
  cases digit

/-- What is read is what should be, just where nothing is misread. -/
theorem readableHex_iff_hexDigits : (ReadableHex cs ↔ HexDigits cs) ↔ ¬ MisreadHex cs := by
  constructor
  · intro agree misread
    cases misread with
    | plus spelled small => exact (agree.mp (.plus spelled small)).unsigned
    | large spelled large =>
        cases agree.mpr spelled with
        | bare _ small => exact absurd small (Nat.not_lt.mpr large)
        | plus => exact spelled.unsigned
  · intro faithful
    constructor
    · intro readable
      cases readable with
      | bare spelled => exact spelled
      | plus spelled small => exact absurd (.plus spelled small) faithful
    · intro spelled
      apply ReadableHex.bare spelled
      rw [← Nat.not_le]
      exact fun large => faithful (.large spelled large)

end Hexadecimal

/-! ## Texts that start with `0x` -/

namespace NumberText

variable {hex hex' : List Char → Prop} {cs : List Char}

/-- Such a text is no number of another form. -/
theorem marked_iff {mark : Char} {digits : List Char} (marks : mark = 'x' ∨ mark = 'X') :
    NumberText hex ('0' :: mark :: digits) ↔ hex digits := by
  constructor
  · intro number
    generalize text : '0' :: mark :: digits = cs at number
    cases number with
    | empty => cases text
    | infinity signed => cases signed <;> cases text
    | hexadecimal marked =>
        cases marked with
        | intro _ spelled =>
            cases text
            exact spelled
    | decimal written =>
        subst text
        have decimalChar := written.decimalChars mark (List.mem_cons_of_mem _ List.mem_cons_self)
        rcases marks with rfl | rfl <;> cases decimalChar
  · exact fun spelled => .hexadecimal (.intro marks spelled)

/-- What may follow `0x` matters for such texts only. -/
theorem congr (apart : ¬ Marked (fun _ => True) cs) : NumberText hex cs ↔ NumberText hex' cs := by
  have one {hex hex' : List Char → Prop} (number : NumberText hex cs) : NumberText hex' cs := by
    cases number with
    | empty => exact .empty
    | infinity signed => exact .infinity signed
    | hexadecimal marked =>
        cases marked with
        | intro marks => exact absurd (.intro marks trivial) apart
    | decimal written => exact .decimal written
  exact ⟨one, one⟩

/-- What counts as a number is what should, just where no hexadecimal digits are misread. -/
theorem readable_iff :
    (NumberText ReadableHex cs ↔ NumberText HexDigits cs) ↔ ¬ Marked MisreadHex cs := by
  by_cases starts : Marked (fun _ => True) cs
  · cases starts with
    | intro marks =>
        rw [marked_iff marks, marked_iff marks, readableHex_iff_hexDigits]
        refine not_congr ⟨.intro marks, fun marked => ?_⟩
        cases marked with
        | intro _ misread => exact misread
  · refine iff_of_true (congr starts) fun marked => starts ?_
    cases marked with
    | intro marks => exact .intro marks trivial

end NumberText

theorem marked_iff_take {cs : List Char} :
    Marked (fun _ => True) cs ↔ cs.take 2 = ['0', 'x'] ∨ cs.take 2 = ['0', 'X'] := by
  constructor
  · intro marked
    cases marked with
    | intro marks => exact marks.imp (fun mark => by rw [mark]; rfl) (fun mark => by rw [mark]; rfl)
  · intro taken
    rw [← List.take_append_drop 2 cs]
    rcases taken with taken | taken
    · rw [taken]
      exact .intro (.inl rfl) trivial
    · rw [taken]
      exact .intro (.inr rfl) trivial

/-! ## Characters of numbers -/

/-- The characters that stand in numbers besides digits and white space. -/
def numberMarks : List Char := "+-.eExXInfinity".toList

/-- The character is a digit or a mark. -/
def NumberChar (c : Char) : Prop := isHexDigit c = true ∨ c ∈ numberMarks

theorem NumberChar.of_decimal {c : Char} (decimal : Operand.isDecimalChar c = true) : NumberChar c := by
  simp only [Operand.isDecimalChar, Bool.or_eq_true, decide_eq_true_eq] at decimal
  rcases decimal with ((((digit | rfl) | rfl) | rfl) | rfl) | rfl
  · exact .inl (by simp [isHexDigit, digit])
  all_goals exact .inr (by decide +kernel)

theorem ReadableHex.chars {cs : List Char} (readable : ReadableHex cs) : ∀ c ∈ cs, NumberChar c := by
  cases readable with
  | bare spelled => exact fun c member => .inl (spelled.all c member)
  | plus spelled => exact List.forall_mem_cons.mpr ⟨.of_decimal rfl, fun c member => .inl (spelled.all c member)⟩

/-- Nothing but digits and marks stands in a number. -/
theorem NumberText.chars {cs : List Char} (number : NumberText ReadableHex cs) : ∀ c ∈ cs, NumberChar c := by
  cases number with
  | empty => exact List.forall_mem_nil _
  | infinity signed =>
      rw [List.forall_mem_append]
      exact ⟨fun c member => .of_decimal (signed.decimalChars c member),
        fun c member => .inr (List.mem_append_right "+-.eExX".toList member)⟩
  | hexadecimal marked =>
      cases marked with
      | intro marks spelled =>
          rw [List.forall_mem_cons, List.forall_mem_cons]
          refine ⟨.inl rfl, .inr ?_, spelled.chars⟩
          rcases marks with rfl | rfl <;> decide +kernel
  | decimal written => exact fun c member => .of_decimal (written.decimalChars c member)

namespace Operand

variable {cs : List Char}

/-! ## Texts as numbers -/

/-- What follows `0x` is read just if it is readable. -/
theorem readHexadecimal?_ne_none_iff : readHexadecimal? cs ≠ none ↔ ReadableHex cs := by
  have read (digits : List Char) :
      (if !digits.isEmpty && digits.all isHexDigit then
        if ofHexDigits digits < Nat.pow 2 64 then some (ofHexDigits digits) else none
      else none) ≠ none ↔ HexDigits digits ∧ ofHexDigits digits < Nat.pow 2 64 := by
    simp only [hexDigits_iff, ne_eq, ite_eq_right_iff, reduceCtorEq, imp_false, Classical.not_imp, Classical.not_not]
  unfold readHexadecimal?
  split
  · rename_i digits
    refine (read digits).trans ⟨fun ⟨spelled, small⟩ => .plus spelled small, fun readable => ?_⟩
    cases readable with
    | bare spelled => exact spelled.unsigned.elim
    | plus spelled small => exact ⟨spelled, small⟩
  · rename_i unsigned
    refine (read cs).trans ⟨fun ⟨spelled, small⟩ => .bare spelled small, fun readable => ?_⟩
    cases readable with
    | bare spelled small => exact ⟨spelled, small⟩
    | plus => exact absurd rfl (unsigned _)

/-- A number where there is something that has one. -/
theorem getD_map_ne_nan {α : Type} {value : α → Binary64} (numbers : ∀ a, value a ≠ .nan) {read : Option α} :
    (read.map value).getD .nan ≠ .nan ↔ read ≠ none := by
  cases read with
  | none => exact iff_of_false (fun differs => differs rfl) (fun differs => differs rfl)
  | some a => exact iff_of_true (numbers a) nofun

/-- A text counts as a number just if it is one without the white space around it. -/
theorem numberOfText_ne_nan_iff : numberOfText cs ≠ .nan ↔ NumberText ReadableHex (trim cs) := by
  unfold numberOfText
  generalize trim cs = text
  split
  · exact iff_of_true nofun .empty
  rename_i filled
  split
  · rename_i named
    refine iff_of_true nofun ?_
    rcases named with rfl | rfl
    · exact .infinity .absent
    · exact .infinity .plus
  rename_i unnamed
  split
  · rename_i named
    refine iff_of_true nofun ?_
    rw [named]
    exact .infinity .minus
  rename_i notMinus
  split
  · rename_i marked
    cases marked_iff_take.mpr marked with
    | intro marks =>
        rw [NumberText.marked_iff marks, ← readHexadecimal?_ne_none_iff]
        exact getD_map_ne_nan Binary64.ofNat_ne_nan
  rename_i unmarked
  -- what is left is a decimal literal
  have number_iff : NumberText ReadableHex text ↔ ∃ d, Decimal.Written text d := by
    constructor
    · intro number
      cases number with
      | empty => exact absurd rfl filled
      | infinity signed =>
          cases signed with
          | absent => exact absurd (.inl rfl) unnamed
          | plus => exact absurd (.inr rfl) unnamed
          | minus => exact absurd rfl notMinus
      | hexadecimal marked =>
          cases marked with
          | intro marks => exact absurd (marked_iff_take.mp (.intro marks trivial)) unmarked
      | decimal written => exact ⟨_, written⟩
    · exact fun ⟨_, written⟩ => .decimal written
  rw [number_iff]
  split
  · rw [getD_map_ne_nan Decimal.toBinary64_ne_nan, Option.ne_none_iff_exists']
    simp only [Decimal.read?_eq_some_iff]
  · rename_i foreign
    refine iff_of_false (fun differs => differs rfl) ?_
    rintro ⟨d, written⟩
    exact foreign (List.all_eq_true.mpr written.decimalChars)

/-- A text with a character that stands in no number counts as no number. -/
theorem numberOfText_eq_nan {cs : List Char} {c : Char} (member : c ∈ cs) (notBlank : isBlank c = false)
    (notHex : isHexDigit c = false) (notMark : c ∉ numberMarks) : numberOfText cs = .nan := by
  by_cases number : numberOfText cs = .nan
  · exact number
  · rcases (numberOfText_ne_nan_iff.mp number).chars c (mem_trim member notBlank) with digit | mark
    · cases notHex.symm.trans digit
    · exact absurd mark notMark

/-! ## Literals -/

/-- The words that stand for a value. -/
def words : List (List Char) := ["true".toList, "false".toList, "null".toList, "undefined".toList]

/-- The text is something between quotes. -/
def Quoted (cs : List Char) : Prop := ∃ quote inner, (quote = '\'' ∨ quote = '"') ∧ cs = quote :: (inner ++ [quote])

/-- Where quotes are taken away, what was between them is left. -/
theorem eq_of_unquote? {cs inner : List Char} (taken : unquote? cs = some inner) :
    ∃ quote, (quote = '\'' ∨ quote = '"') ∧ cs = quote :: (inner ++ [quote]) := by
  cases cs with
  | nil => cases taken
  | cons quote rest =>
      simp only [unquote?, Option.ite_none_right_eq_some, Option.some.injEq] at taken
      obtain ⟨⟨quotes, last⟩, rfl⟩ := taken
      obtain ⟨front, rfl⟩ := List.getLast?_eq_some_iff.mp last
      exact ⟨quote, quotes, by rw [List.dropLast_concat]⟩

/-- A literal that is neither a word nor quoted is the number that the text counts as, or else the text itself. -/
theorem ofLiteral_plain (unquoted : ¬ Quoted cs) (noWord : cs ∉ words) :
    ofLiteral cs = if numberOfText cs = .nan then .text (String.ofList cs) else .number (numberOfText cs) := by
  have bare : unquote? cs = none := by
    rw [Option.eq_none_iff_forall_ne_some]
    intro inner taken
    obtain ⟨quote, quotes, text⟩ := eq_of_unquote? taken
    exact unquoted ⟨quote, inner, quotes, text⟩
  simp only [words, List.mem_cons, List.not_mem_nil, or_false, not_or] at noWord
  obtain ⟨notTrue, notFalse, notNull, notUndefined⟩ := noWord
  rw [ofLiteral, if_neg notTrue, if_neg notFalse, if_neg notNull, if_neg notUndefined, bare]
  cases numberOfText cs <;> rfl

end Operand

/-! ## Which texts are numbers -/

open Operand in
/-- A text counts as a number just if, without the white space around it, it is empty, `Infinity` with an optional
sign, a decimal literal, or `0x` and readable digits; which is what it should be, apart from digits that are misread.
A literal that is neither a word nor quoted is that number, and the text itself where it is none. -/
theorem number_text (cs : List Char) :
    (numberOfText cs ≠ .nan ↔ NumberText ReadableHex (trim cs)) ∧
      ((numberOfText cs ≠ .nan ↔ NumberText HexDigits (trim cs)) ↔ ¬ Marked MisreadHex (trim cs)) ∧
      (¬ Quoted cs → cs ∉ words →
        (NumberText ReadableHex (trim cs) → ofLiteral cs = .number (numberOfText cs)) ∧
        (¬ NumberText ReadableHex (trim cs) → ofLiteral cs = .text (String.ofList cs))) := by
  refine ⟨numberOfText_ne_nan_iff, ?_, fun unquoted noWord => ⟨fun number => ?_, fun noNumber => ?_⟩⟩
  · rw [numberOfText_ne_nan_iff, NumberText.readable_iff]
  · rw [ofLiteral_plain unquoted noWord, if_neg (numberOfText_ne_nan_iff.mpr number)]
  · rw [← numberOfText_ne_nan_iff, Classical.not_not] at noNumber
    rw [ofLiteral_plain unquoted noWord, if_pos noNumber]

open Operand in
/-- A plus sign between `0x` and the digits leaves a number, and seventeen digits leave none. -/
theorem hexadecimal_text_differs :
    ¬ (∀ cs, numberOfText cs ≠ .nan → NumberText HexDigits (trim cs)) ∧
      ¬ (∀ cs, NumberText HexDigits (trim cs) → numberOfText cs ≠ .nan) := by
  constructor
  · intro sound
    have text : trim "0x+5".toList = '0' :: 'x' :: '+' :: ['5'] := by decide +kernel
    have number := sound "0x+5".toList (by decide +kernel)
    rw [text, NumberText.marked_iff (.inl rfl)] at number
    exact number.unsigned
  · intro complete
    have text : trim "0x10000000000000000".toList = '0' :: 'x' :: "10000000000000000".toList := by decide +kernel
    have spelled : HexDigits "10000000000000000".toList := hexDigits_iff.mp (by decide +kernel)
    refine complete "0x10000000000000000".toList ?_ (by decide +kernel)
    rw [text, NumberText.marked_iff (.inl rfl)]
    exact spelled

end WorkflowEngine
