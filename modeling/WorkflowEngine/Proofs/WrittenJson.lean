/-
Module: WorkflowEngine.Proofs.WrittenJson
Layer: Proofs
Purpose: JSON that was written is read back.  Every character stands inside quotes as its bytes or as one escape
  (`Json.readTextFrom_escape`), so that what is written between quotes is what is read between them
  (`Json.readText_quoted`); numerals of 64 bits are read as the numbers that they spell, and members of an object
  one by one.
Imports: Mathlib.Algebra.Ring.Nat, WorkflowEngine.Json.Writer, WorkflowEngine.Proofs.Spelling
Trusted boundary: none
Main exports: Json.readText_quoted, Json.readValueFrom_quote, Json.readNumber_numeral, Json.readMembersFrom_member,
  Json.readValueFrom_object
-/
import Mathlib.Algebra.Ring.Nat
import WorkflowEngine.Json.Writer
import WorkflowEngine.Proofs.Spelling

namespace WorkflowEngine.Json

/-! ## Quoted text -/

/-- The escape of a control character is read as four digits that spell its code point. -/
theorem readHex_control {n : Nat} (small : n < 32) (rest : List Char) :
    readHex ('0' :: '0' :: lowerHex (n / 16) :: lowerHex n :: rest) = .ok (n, rest) := by
  have table : ∀ n < 32, let digits := ['0', '0', lowerHex (n / 16), lowerHex n]
      digits.all isHexDigit ∧ ofHexDigits digits = n := by decide +kernel
  obtain ⟨digits, value⟩ := table n small
  simp only [readHex, List.take_succ_cons, List.take_zero, List.drop_succ_cons, List.drop_zero, digits, value,
    List.length_cons, List.length_nil, Nat.reduceAdd, Nat.lt_irrefl, if_true, if_false]

/-- How a character stands between quotes: as a letter after a backslash, as digits, or as itself. -/
inductive Escaped (c : Char) : List Char → Prop where
  | letter {l : Char} (other : l ≠ 'u') (stands : unescape? l = some c) : Escaped c ['\\', l]
  | digits (control : c.toNat < 32) :
      Escaped c ['\\', 'u', '0', '0', lowerHex (c.toNat / 16), lowerHex c.toNat]
  | plain (quote : c ≠ '"') (backslash : c ≠ '\\') (visible : ¬ c.toNat < 32) : Escaped c [c]

theorem escape_escaped (c : Char) : Escaped c (escape c) := by
  have letters : ∀ d ∈ ['"', '\\', '\x08', '\x0c', '\n', '\r', '\t'],
      ∃ l, l ≠ 'u' ∧ unescape? l = some d ∧ escape d = ['\\', l] := by
    simp only [List.forall_mem_cons, List.not_mem_nil, false_imp_iff, implies_true, and_true]
    exact ⟨⟨'"', by decide⟩, ⟨'\\', by decide⟩, ⟨'b', by decide⟩, ⟨'f', by decide⟩, ⟨'n', by decide⟩, ⟨'r', by decide⟩,
      ⟨'t', by decide⟩⟩
  by_cases special : c ∈ ['"', '\\', '\x08', '\x0c', '\n', '\r', '\t']
  · obtain ⟨l, other, stands, escaped⟩ := letters c special
    rw [escaped]
    exact .letter other stands
  · simp only [List.mem_cons, List.not_mem_nil, or_false, not_or] at special
    obtain ⟨quote, backslash, backspace, feed, newline, return_, tab⟩ := special
    simp only [escape, quote, backslash, backspace, feed, newline, return_, tab, if_false]
    split
    · rename_i control
      exact .digits control
    · rename_i visible
      exact .plain quote backslash visible

/-- An escape is seen as itself, and any other character as its bytes. -/
theorem flatMap_spell_escape (c : Char) : escape c = [c] ∨ (escape c).flatMap spell = escape c := by
  have escaped := escape_escaped c
  generalize escape c = text at escaped
  cases escaped with
  | plain => exact .inl rfl
  | letter other stands =>
      right
      apply flatMap_spell_narrow
      simp only [List.forall_mem_cons, List.not_mem_nil, false_imp_iff, implies_true, and_true]
      refine ⟨by decide, ?_⟩
      unfold unescape? at stands
      split at stands
      all_goals first | decide | cases stands
  | digits control =>
      right
      have hex : ∀ n < 32, (lowerHex (n / 16)).toNat < 0x80 ∧ (lowerHex n).toNat < 0x80 := by decide +kernel
      apply flatMap_spell_narrow
      simp only [List.forall_mem_cons, List.not_mem_nil, false_imp_iff, implies_true, and_true]
      exact ⟨by decide, by decide, by decide, by decide, hex _ control⟩

/-- Bytes that mean nothing between quotes are read as they are. -/
theorem readTextFrom_plain {bytes : List Char}
    (plain : ∀ b ∈ bytes, b ≠ '"' ∧ b ≠ '\\' ∧ ¬ b.toNat < 32) (fuel : Nat) (done rest : List Char) :
    readTextFrom (fuel + bytes.length) done (bytes ++ rest) = readTextFrom fuel (bytes.reverse ++ done) rest := by
  induction bytes generalizing done with
  | nil => rfl
  | cons b bytes ih =>
      obtain ⟨⟨quote, backslash, visible⟩, others⟩ := List.forall_mem_cons.1 plain
      rw [List.length_cons, ← Nat.add_assoc, List.cons_append, readTextFrom, if_neg quote, if_neg backslash,
        if_neg visible, ih others, List.reverse_cons, List.append_assoc, List.singleton_append]

theorem spell_plain {c : Char} (quote : c ≠ '"') (backslash : c ≠ '\\') (visible : ¬ c.toNat < 32) :
    ∀ b ∈ spell c, b ≠ '"' ∧ b ≠ '\\' ∧ ¬ b.toNat < 32 := by
  intro b member
  rcases Nat.lt_or_ge c.toNat 0x80 with narrow | wide
  · rw [spell_narrow narrow] at member
    rw [List.mem_singleton.1 member]
    exact ⟨quote, backslash, visible⟩
  · have large := spell_wide wide member
    refine ⟨?_, ?_, by omega⟩
    · rintro rfl
      exact absurd large (by decide)
    · rintro rfl
      exact absurd large (by decide)

/-- What stands for a character between quotes is read as that character. -/
theorem readTextFrom_escape (c : Char) :
    ∃ used, used ≤ ((escape c).flatMap spell).length ∧ ∀ fuel done rest,
      readTextFrom (fuel + used) done ((escape c).flatMap spell ++ rest) =
        readTextFrom fuel ((spell c).reverse ++ done) rest := by
  have seen := flatMap_spell_escape c
  have escaped := escape_escaped c
  generalize escape c = text at escaped seen
  cases escaped with
  | @letter l other stands =>
      have whole := seen.resolve_left (by simp)
      rw [whole]
      refine ⟨1, by simp, fun fuel done rest => ?_⟩
      have read : readEscape (l :: rest) = .ok (c, rest) := by
        simp only [readEscape, stands]
      simp only [List.cons_append, List.nil_append, readTextFrom, read]
      rfl
  | digits control =>
      have whole := seen.resolve_left (by simp)
      rw [whole]
      refine ⟨1, by simp, fun fuel done rest => ?_⟩
      have read :
          readEscape ('u' :: '0' :: '0' :: lowerHex (c.toNat / 16) :: lowerHex c.toNat :: rest) = .ok (c, rest) := by
        have low : ¬ (0xDC00 ≤ c.toNat ∧ c.toNat ≤ 0xDFFF) := by omega
        have high : ¬ (0xD800 ≤ c.toNat ∧ c.toNat ≤ 0xDBFF) := by omega
        simp only [readEscape, readCodePoint, readHex_control control, bind, Except.bind, if_neg low, if_neg high,
          Char.ofNat_toNat]
      simp only [List.cons_append, List.nil_append, readTextFrom, read]
      rfl
  | plain quote backslash visible =>
      rw [List.flatMap_singleton]
      exact ⟨_, Nat.le_refl _, readTextFrom_plain (spell_plain quote backslash visible)⟩

theorem readTextFrom_quoted (cs rest : List Char) (done : List Char) {fuel : Nat}
    (enough : ((cs.flatMap escape).flatMap spell).length < fuel) :
    readTextFrom fuel done ((cs.flatMap escape).flatMap spell ++ '"' :: rest) =
      (unspell (done.reverse ++ cs.flatMap spell)).map fun text => (text, rest) := by
  induction cs generalizing done fuel with
  | nil =>
      obtain ⟨fuel, rfl⟩ := Nat.exists_eq_add_of_lt enough
      simp [readTextFrom]
  | cons c cs ih =>
      obtain ⟨used, within, read⟩ := readTextFrom_escape c
      rw [List.flatMap_cons, List.flatMap_append, List.length_append] at enough
      obtain ⟨fuel, rfl⟩ : ∃ left, fuel = left + used := ⟨fuel - used, by omega⟩
      rw [List.flatMap_cons, List.flatMap_append, List.append_assoc, read, ih _ (by omega)]
      simp

/-- What is written between quotes is read between them. -/
theorem readText_quoted (s : String) (rest : List Char) :
    readText ((s.toList.flatMap escape).flatMap spell ++ '"' :: rest) = .ok (s, rest) := by
  rw [readText, readTextFrom_quoted _ _ _ (by rw [List.length_append]; omega), List.reverse_nil, List.nil_append,
    unspell_spell, String.ofList_toList]
  rfl

theorem quote_spelled (s : String) :
    (quote s).toList.flatMap spell = '"' :: ((s.toList.flatMap escape).flatMap spell ++ ['"']) := by
  have mark : spell '"' = ['"'] := spell_narrow (by decide)
  simp [quote, mark]

/-! ## Values and members -/

variable {fuel depth : Nat} {cs rest : List Char} {c : Char}

@[simp]
theorem located_ok {α : Type} (a : α) : located (.ok a) = .ok a := rfl

@[simp]
theorem within_ok {α : Type} (step : Step) (a : α) : within step (.ok a) = .ok a := rfl

/-- What opens no container is read as a scalar. -/
theorem readValueFrom_scalar (starts : skipBlanks cs = c :: rest) (list : c ≠ '[') (object : c ≠ '{') :
    readValueFrom (fuel + 1) depth cs = located (readScalar c rest) := by
  rw [readValueFrom, starts]
  split
  · contradiction
  · rename_i opens
    cases opens
    exact absurd rfl list
  · rename_i opens
    cases opens
    exact absurd rfl object
  · rename_i same
    cases same
    rfl

theorem readValueFrom_quote (s : String) :
    readValueFrom (fuel + 1) depth ((quote s).toList.flatMap spell ++ rest) = .ok (.text s, rest) := by
  have scalar : readScalar '"' ((s.toList.flatMap escape).flatMap spell ++ '"' :: rest) = .ok (.text s, rest) := by
    simp only [readScalar, readText_quoted]
    rfl
  rw [quote_spelled, List.cons_append, List.append_assoc, List.singleton_append,
    readValueFrom_scalar rfl (by decide) (by decide), scalar]
  rfl

/-- A member is read before whatever follows it, if its value is. -/
theorem readMembersFrom_member {key : String} {value : Json} {text rest : List Char} {first : Bool} {done : Object}
    (read : readValueFrom fuel depth (text ++ rest) = .ok (value, rest)) :
    readMembersFrom (fuel + 1) depth first done
        ((if first then [] else [',']) ++ (quote key).toList.flatMap spell ++ ':' :: text ++ rest) =
      readMembersFrom fuel depth false (done.insert key value) rest := by
  have next : nextKey first ((if first then [] else [',']) ++ (quote key).toList.flatMap spell ++ ':' :: text ++ rest) =
      .ok (true, (key.toList.flatMap escape).flatMap spell ++ '"' :: ':' :: (text ++ rest)) := by
    rw [quote_spelled]
    cases first
    · simp [nextKey, skipBlanks]
    · simp [nextKey, skipBlanks]
  have colon : readColon (':' :: (text ++ rest)) = .ok (text ++ rest) := rfl
  simp only [readMembersFrom, next, readText_quoted, colon, read, located_ok, within_ok, bind, Except.bind,
    if_true]

theorem readMembersFrom_end {first : Bool} {done : Object} :
    readMembersFrom (fuel + 1) depth first done ('}' :: rest) = .ok (done, '}' :: rest) := by
  have none_left : nextKey first ('}' :: rest) = .ok (false, '}' :: rest) := rfl
  rw [readMembersFrom, none_left]
  rfl

/-- Where another key comes first, nothing is embedded. -/
theorem embedded?_quote {key : String} (other : key ≠ embeddedKey) :
    embedded? ((quote key).toList.flatMap spell ++ rest) = none := by
  have next : nextKey true ('"' :: ((key.toList.flatMap escape).flatMap spell ++ ['"']) ++ rest) =
      .ok (true, (key.toList.flatMap escape).flatMap spell ++ '"' :: rest) := by
    simp [nextKey, skipBlanks]
  rw [quote_spelled]
  simp only [embedded?, next, readText_quoted, if_neg other]

/-- An object is read up to its closing brace. -/
theorem readValueFrom_object {text : List Char} {members : Object} (deep : 1 < depth) (plain : embedded? text = none)
    (read : readMembersFrom fuel (depth - 1) true [] text = .ok (members, '}' :: rest)) :
    readValueFrom (fuel + 1) depth ('{' :: text) = .ok (.object members, rest) := by
  have visible : skipBlanks ('{' :: text) = '{' :: text := rfl
  have closed : endObject ('}' :: rest) = .ok rest := rfl
  simp only [readValueFrom, visible, if_neg (Nat.not_le.2 deep), plain, read, bind, Except.bind, closed, located_ok]

/-! ## Numerals -/

/-- Digits are taken as long as the number that they spell stays below the limit. -/
theorem absorbDigits_append {limit value taken : Nat} {digits : List Char} (all : ∀ c ∈ digits, c.isDigit = true)
    (fits : Nat.ofDigitChars 10 digits value < limit) :
    absorbDigits limit value taken (digits ++ rest) =
      absorbDigits limit (Nat.ofDigitChars 10 digits value) (taken + digits.length) rest := by
  induction digits generalizing value taken with
  | nil => simp
  | cons c digits ih =>
      obtain ⟨digit, others⟩ := List.forall_mem_cons.1 all
      rw [Nat.ofDigitChars_cons] at fits ⊢
      have below : 10 * value + digitValue c < limit := by
        have grows : 1 * (10 * value + digitValue c) ≤ 10 ^ digits.length * (10 * value + digitValue c) :=
          Nat.mul_le_mul_right _ (Nat.one_le_pow _ _ (by decide))
        rw [Nat.ofDigitChars_eq_ofDigitChars_zero] at fits
        change 10 ^ digits.length * (10 * value + digitValue c) + _ < limit at fits
        omega
      rw [List.cons_append, absorbDigits, if_pos ⟨digit, below⟩, List.length_cons, Nat.add_comm digits.length,
        ← Nat.add_assoc]
      exact ih others fits

/-- Only the numeral of zero begins with the digit zero. -/
theorem toDigits_head {n : Nat} (positive : 0 < n) : ∃ c cs, Nat.toDigits 10 n = c :: cs ∧ c ≠ '0' := by
  induction n using Nat.strongRecOn with
  | ind n ih =>
      rcases Nat.lt_or_ge n 10 with small | large
      · refine ⟨n.digitChar, [], Nat.toDigits_of_lt_base small, ?_⟩
        rw [Ne, Nat.digitChar_eq_zero]
        exact Nat.ne_of_gt positive
      · obtain ⟨c, cs, digits, first⟩ := ih (n / 10) (by omega) (by omega)
        refine ⟨c, cs ++ [(n % 10).digitChar], ?_, first⟩
        rw [Nat.toDigits_of_base_le (by decide) large, digits, List.cons_append]

/-- A number of 64 bits is read before a closing brace. -/
theorem readNumber_numeral {n : Nat} (fits : n < 2 ^ 64) :
    readNumber false ((toString n).toList ++ '}' :: rest) = .ok (.integer n, '}' :: rest) := by
  have numeral : (toString n).toList = Nat.toDigits 10 n := Nat.toList_repr
  rcases Nat.eq_zero_or_pos n with rfl | positive
  · rw [numeral]
    rfl
  · obtain ⟨c, cs, digits, first⟩ := toDigits_head positive
    have all : ∀ d ∈ Nat.toDigits 10 n, d.isDigit = true :=
      fun d member => Nat.isDigit_of_mem_toDigits (by decide) (by decide) member
    have taken : absorbDigits (Nat.pow 2 64) 0 0 (Nat.toDigits 10 n ++ '}' :: rest) =
        (n, 0 + (Nat.toDigits 10 n).length, '}' :: rest) := by
      rw [absorbDigits_append all (by rwa [Nat.ofDigitChars_ten_toDigits]), Nat.ofDigitChars_ten_toDigits]
      rfl
    have digit : c.isDigit = true := all c (by rw [digits]; exact List.mem_cons_self)
    rw [digits, List.cons_append] at taken
    rw [numeral, digits, List.cons_append, readNumber.eq_def]
    split
    · contradiction
    · rename_i zero
      cases zero
      exact absurd rfl first
    · rename_i same
      cases same
      simp only [digit, if_true, taken]
      rfl

theorem readValueFrom_numeral {n : Nat} (fits : n < 2 ^ 64) :
    readValueFrom (fuel + 1) depth ((toString n).toList ++ '}' :: rest) = .ok (.ofNat n, '}' :: rest) := by
  have read : readNumber false ((toString n).toList ++ '}' :: rest) = .ok (.integer n, '}' :: rest) :=
    readNumber_numeral fits
  have spelled : (toString n).toList = Nat.toDigits 10 n := Nat.toList_repr
  obtain ⟨c, cs, digits⟩ := List.exists_cons_of_ne_nil (Nat.toDigits_ne_nil (n := n) (b := 10))
  have digit : c.isDigit = true := by
    apply Nat.isDigit_of_mem_toDigits (b := 10) (n := n) (by decide) (by decide)
    rw [digits]
    exact List.mem_cons_self
  have other : ∀ d : Char, d.isDigit = false → c ≠ d := by
    rintro d letter rfl
    cases letter.symm.trans digit
  have visible (more : List Char) : skipBlanks (c :: more) = c :: more := by
    rw [skipBlanks, List.dropWhile_cons_of_neg]
    simp [other ' ' rfl, other '\n' rfl, other '\t' rfl, other '\r' rfl]
  rw [spelled, digits, List.cons_append] at read ⊢
  rw [readValueFrom_scalar (visible _) (other '[' rfl) (other '{' rfl), readScalar, if_neg (other 'n' rfl),
    if_neg (other 't' rfl), if_neg (other 'f' rfl), if_neg (other '-' rfl), if_pos digit, read]
  rfl

end WorkflowEngine.Json
