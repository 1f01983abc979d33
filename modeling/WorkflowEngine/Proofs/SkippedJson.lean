/-
Module: WorkflowEngine.Proofs.SkippedJson
Layer: Proofs
Purpose: Where a value ends in a text.  What is read of a text does not depend on how long the reader may take
  (`Json.readValue_unique`), and skipping a value leaves what reading it leaves (`Json.skipValue_agrees`).
Imports: WorkflowEngine.Json.Reader, WorkflowEngine.Proofs.Reachability
Trusted boundary: none
Main exports: Json.ValueRead, Json.ItemsRead, Json.MembersRead, Json.readValueFrom_unique, Json.skipValue_agrees
-/
import WorkflowEngine.Json.Reader
import WorkflowEngine.Proofs.Reachability

namespace WorkflowEngine.Json

variable {cs rest left : List Char}

/-! ## Numbers -/

/-- The digits that do not fit are the ones that are left. -/
theorem absorbDigits_dropWhile (limit value taken : Nat) (cs : List Char) :
    (absorbDigits limit value taken cs).2.2.dropWhile Char.isDigit = cs.dropWhile Char.isDigit := by
  induction cs generalizing value taken with
  | nil => rfl
  | cons c cs ih =>
      rw [absorbDigits]
      split
      · rename_i digit
        rw [ih, List.dropWhile_cons_of_pos digit.1]
      · rfl

theorem dropWhile_of_not_atDigit (h : atDigit cs = false) : cs.dropWhile Char.isDigit = cs := by
  cases cs with
  | nil => rfl
  | cons c cs => exact List.dropWhile_cons_of_neg (by simpa [atDigit] using h)

theorem floatOfParts_rest {negative : Bool} {significand : Nat} {exponent : Int} {n : Number}
    (read : floatOfParts negative significand exponent cs = .ok (n, rest)) : rest = cs := by
  unfold floatOfParts at read
  cases scaled : scaleByTen (.ofNat significand) exponent with
  | error e =>
      rw [scaled] at read
      cases read
  | ok x =>
      rw [scaled] at read
      cases read
      rfl

theorem absorbDigits_atDigit (limit value taken : Nat) (cs : List Char) :
    (absorbDigits limit value taken cs).2 = (taken, cs) ∨ atDigit cs = true := by
  cases cs with
  | nil => exact .inl rfl
  | cons c cs =>
      rw [absorbDigits]
      split
      · rename_i digit
        exact .inr digit.1
      · exact .inl rfl

theorem skipExponent_of_read {negative : Bool} {significand : Nat} {start : Int} {n : Number}
    (read : readExponent negative significand start cs = .ok (n, rest)) : skipExponent cs = .ok rest := by
  unfold readExponent at read
  unfold skipExponent
  cases signed : Decimal.splitSign cs with
  | mk down digits =>
      simp only [signed] at read ⊢
      cases digits with
      | nil => cases read
      | cons c tail =>
          simp only at read
          split at read
          · rename_i digit
            have ends := absorbDigits_dropWhile 2147483648 0 0 (c :: tail)
            split at read
            · split at read
              · cases read
              · cases read
                rw [ends]
                exact if_pos digit
            · rename_i stopped
              rw [dropWhile_of_not_atDigit (by simpa using stopped)] at ends
              rw [floatOfParts_rest read, ends]
              exact if_pos digit
          · cases read

theorem skipScale_of_read {negative : Bool} {significand : Nat} {exponent : Int} {n : Number}
    (read : readScale negative significand exponent cs = .ok (n, rest)) :
    (match cs with
      | 'e' :: tail | 'E' :: tail => skipExponent tail
      | tail => .ok tail) = .ok rest := by
  split
  · exact skipExponent_of_read read
  · exact skipExponent_of_read read
  · rename_i small capital
    have whole : readScale negative significand exponent cs = floatOfParts negative significand exponent cs := by
      unfold readScale
      split
      · exact absurd rfl (small _)
      · exact absurd rfl (capital _)
      · rfl
    rw [whole] at read
    rw [floatOfParts_rest read]

theorem skipAfterWhole_of_readScale {negative : Bool} {significand : Nat} {exponent : Int} {n : Number}
    (pointless : ∀ tail, cs ≠ '.' :: tail) (read : readScale negative significand exponent cs = .ok (n, rest)) :
    skipAfterWhole cs = .ok rest := by
  have skipped := skipScale_of_read read
  unfold skipAfterWhole
  split
  · exact absurd rfl (pointless _)
  · exact skipped
  · exact skipped
  · rename_i small capital
    split at skipped
    · exact absurd rfl (small _)
    · exact absurd rfl (capital _)
    · exact skipped

theorem skipFraction_of_read {negative : Bool} {significand : Nat} {exponent : Int} {n : Number}
    (read : readFraction negative significand exponent cs = .ok (n, rest)) :
    skipAfterWhole ('.' :: cs) = .ok rest := by
  unfold readFraction at read
  unfold skipAfterWhole
  have ends := absorbDigits_dropWhile (Nat.pow 2 64) significand 0 cs
  have digit := absorbDigits_atDigit (Nat.pow 2 64) significand 0 cs
  cases absorbed : absorbDigits (Nat.pow 2 64) significand 0 cs with
  | mk value more =>
      obtain ⟨taken, left⟩ := more
      simp only [absorbed] at read ends digit
      have first : atDigit cs = true := by
        rcases digit with none | digit
        · cases none
          split at read
          · assumption
          · cases read
        · exact digit
      simp only [first, if_true, ← ends]
      split at read
      · exact skipScale_of_read read
      · rename_i stopped
        rw [dropWhile_of_not_atDigit (by simpa using stopped)]
        split at read
        · cases read
        · exact skipScale_of_read read

theorem skipAfterWhole_of_read {negative : Bool} {significand : Nat} {n : Number}
    (read : readAfterWhole negative significand cs = .ok (n, rest)) : skipAfterWhole cs = .ok rest := by
  unfold readAfterWhole at read
  split at read
  · exact skipFraction_of_read read
  · exact skipExponent_of_read read
  · exact skipExponent_of_read read
  · rename_i point small capital
    have same : rest = cs := by
      split at read
      · split at read
        · cases read
          rfl
        · cases read
          rfl
      · cases read
        rfl
    rw [same]
    unfold skipAfterWhole
    split
    · exact absurd rfl (point _)
    · exact absurd rfl (small _)
    · exact absurd rfl (capital _)
    · rfl

/-- Skipping a number leaves what reading it leaves. -/
theorem skipNumber_of_read {negative : Bool} {n : Number} (read : readNumber negative cs = .ok (n, rest)) :
    skipNumber cs = .ok rest := by
  unfold readNumber at read
  unfold skipNumber
  split at read
  · cases read
  · rename_i tail
    split at read
    · cases read
    · rename_i stopped
      simp only [stopped]
      exact skipAfterWhole_of_read read
  · rename_i c tail zero
    split at read
    · rename_i digit
      have ends := absorbDigits_dropWhile (Nat.pow 2 64) 0 0 (c :: tail)
      cases absorbed : absorbDigits (Nat.pow 2 64) 0 0 (c :: tail) with
      | mk value more =>
          obtain ⟨taken, left⟩ := more
          simp only [absorbed] at read ends
          split
          · rename_i zeros
            cases zeros
            exact absurd rfl zero
          · rw [if_pos (show atDigit (c :: tail) = true from digit), ← ends]
            split at read
            · split at read
              · rename_i fraction point
                rw [point]
                exact skipFraction_of_read read
              · rename_i other
                exact skipAfterWhole_of_readScale (fun tail point => other tail point) read
            · rename_i stopped
              rw [dropWhile_of_not_atDigit (by simpa using stopped)]
              exact skipAfterWhole_of_read read
    · cases read

/-! ## Texts -/

/-- How an escape is read: as a letter, as digits, or as digits of two halves. -/
inductive EscapeRead : List Char → List Char → Prop where
  | letter {l d : Char} {rest : List Char} (other : l ≠ 'u') (stands : unescape? l = some d) :
      EscapeRead (l :: rest) rest
  | digits {n : Nat} {text rest : List Char} (read : readHex text = .ok (n, rest)) : EscapeRead ('u' :: text) rest
  | pair {m n : Nat} {text trail rest : List Char} (first : readHex text = .ok (n, '\\' :: 'u' :: trail))
      (second : readHex trail = .ok (m, rest)) : EscapeRead ('u' :: text) rest

theorem readTrail_ok {n : Nat} (read : readTrail cs = .ok (n, rest)) :
    ∃ trail m, cs = '\\' :: 'u' :: trail ∧ readHex trail = .ok (m, rest) := by
  unfold readTrail at read
  split at read
  · cases read
  · cases read
  · rename_i trail
    obtain ⟨⟨m, left⟩, hex, kept⟩ := Except.of_bind read
    simp only at kept
    split at kept
    · cases kept
    · cases kept
      exact ⟨trail, _, rfl, hex⟩
  · cases read

theorem readEscape_ok {d : Char} (read : readEscape cs = .ok (d, rest)) : EscapeRead cs rest := by
  unfold readEscape at read
  split at read
  · cases read
  · rename_i text
    obtain ⟨⟨n, left⟩, hex, kept⟩ := Except.of_bind read
    simp only at kept
    split at kept
    · cases kept
    · split at kept
      · obtain ⟨⟨m, after⟩, low, kept⟩ := Except.of_bind kept
        obtain ⟨-, rfl⟩ := Prod.mk.inj (Except.ok.inj kept)
        obtain ⟨trail, m, rfl, second⟩ := readTrail_ok low
        exact .pair hex second
      · obtain ⟨-, rfl⟩ := Prod.mk.inj (Except.ok.inj kept)
        exact .digits hex
  · rename_i l tail other
    split at read
    · rename_i stands
      cases read
      exact .letter other stands
    · cases read

theorem skipTextFrom_letter {fuel : Nat} {l d : Char} (other : l ≠ 'u') (stands : unescape? l = some d) :
    skipTextFrom (fuel + 1) ('\\' :: l :: rest) = skipTextFrom fuel rest := by
  simp [skipTextFrom, stands]

theorem skipTextFrom_digits {fuel n : Nat} {text : List Char} (read : readHex text = .ok (n, rest)) :
    skipTextFrom (fuel + 1) ('\\' :: 'u' :: text) = skipTextFrom fuel rest := by
  simp [skipTextFrom, read]

theorem ok_of_map {ε α β : Type} {e : Except ε α} {f : α → β} {b : β} (ok : e.map f = .ok b) :
    ∃ a, e = .ok a ∧ f a = b := by
  cases e with
  | error fault => cases ok
  | ok a => exact ⟨a, rfl, Except.ok.inj ok⟩

/-- Skipping the rest of a text leaves what reading it leaves.  A character that is written as two escapes is skipped
one escape at a time. -/
theorem skipTextFrom_agrees {fuel more : Nat} {done : List Char} {text : String}
    (read : readTextFrom fuel done cs = .ok (text, rest)) (skipped : skipTextFrom more cs = .ok left) :
    left = rest := by
  induction fuel generalizing done cs more with
  | zero => cases read
  | succ fuel ih =>
      cases cs with
      | nil => cases read
      | cons c cs =>
          cases more with
          | zero => cases skipped
          | succ more =>
              rw [readTextFrom] at read
              split at read
              · rename_i quote
                subst quote
                obtain ⟨text, -, same⟩ := ok_of_map read
                cases same
                cases skipped
                rfl
              · rename_i quote
                split at read
                · rename_i backslash
                  subst backslash
                  split at read
                  · rename_i d after escape
                    cases readEscape_ok escape with
                    | letter other stands =>
                        rw [skipTextFrom_letter other stands] at skipped
                        exact ih read skipped
                    | digits hex =>
                        rw [skipTextFrom_digits hex] at skipped
                        exact ih read skipped
                    | pair first second =>
                        rw [skipTextFrom_digits first] at skipped
                        cases more with
                        | zero => cases skipped
                        | succ more =>
                            rw [skipTextFrom_digits second] at skipped
                            exact ih read skipped
                  · cases read
                · rename_i backslash
                  split at read
                  · cases read
                  · rename_i visible
                    rw [skipTextFrom.eq_def] at skipped
                    simp only [quote, backslash, visible, if_false] at skipped
                    exact ih read skipped

/-- Skipping a text leaves what reading it leaves. -/
theorem skipText_agrees {text : String} (read : readText cs = .ok (text, rest)) (skipped : skipText cs = .ok left) :
    left = rest :=
  skipTextFrom_agrees read skipped

/-- Skipping what is no container leaves what reading it leaves. -/
theorem skipScalar_agrees {c : Char} {value : Json} (read : readScalar c cs = .ok (value, rest))
    (skipped : skipScalar c cs = .ok left) : left = rest := by
  have word {text : List Char} {v : Json}
      (read : (readWord text cs).map (fun rest => (v, rest)) = .ok (value, rest))
      (skipped : readWord text cs = .ok left) : left = rest := by
    obtain ⟨after, reads, same⟩ := ok_of_map read
    cases reads.symm.trans skipped
    exact (Prod.mk.inj same).2
  have number {negative : Bool} {text : List Char} {made : Number × List Char → Json × List Char}
      (keeps : ∀ p, (made p).2 = p.2) (read : (readNumber negative text).map made = .ok (value, rest))
      (skipped : skipNumber text = .ok left) : left = rest := by
    obtain ⟨⟨n, after⟩, reads, same⟩ := ok_of_map read
    cases (skipNumber_of_read reads).symm.trans skipped
    exact (keeps (n, left)).symm.trans (congrArg Prod.snd same)
  rw [readScalar] at read
  rw [skipScalar] at skipped
  by_cases null : c = 'n'
  · rw [if_pos null] at read skipped
    exact word read skipped
  rw [if_neg null] at read skipped
  by_cases true_ : c = 't'
  · rw [if_pos true_] at read skipped
    exact word read skipped
  rw [if_neg true_] at read skipped
  by_cases false_ : c = 'f'
  · rw [if_pos false_] at read skipped
    exact word read skipped
  rw [if_neg false_] at read skipped
  by_cases minus : c = '-'
  · rw [if_pos minus] at read skipped
    exact number (fun _ => rfl) read skipped
  rw [if_neg minus] at read skipped
  by_cases digit : c.isDigit = true
  · rw [if_pos digit] at read skipped
    exact number (fun _ => rfl) read skipped
  rw [if_neg digit] at read skipped
  by_cases quote : c = '"'
  · rw [if_pos quote] at read skipped
    obtain ⟨⟨text, after⟩, reads, same⟩ := ok_of_map read
    obtain ⟨-, rfl⟩ := Prod.mk.inj same
    exact skipText_agrees reads skipped
  · rw [if_neg quote] at read
    cases read

/-! ## Steps of reading -/

variable {fuel depth : Nat}

/-- How a value is read: as a list, as an object, as text embedded in one, or as what is no container. -/
inductive ValueRead (fuel depth : Nat) (cs : List Char) : Json → List Char → Prop where
  | list {text left rest : List Char} {items : List Json} (opens : skipBlanks cs = '[' :: text)
      (read : readItemsFrom fuel (depth - 1) 0 [] text = .ok (items, left)) (ends : endList left = .ok rest) :
      ValueRead fuel depth cs (.list items) rest
  | object {text left rest : List Char} {members : Object} (opens : skipBlanks cs = '{' :: text)
      (plain : embedded? text = none)
      (read : readMembersFrom fuel (depth - 1) true [] text = .ok (members, left)) (ends : endObject left = .ok rest) :
      ValueRead fuel depth cs (.object members) rest
  | embedded {text colon inside quoted left after rest : List Char} {s : String} {value : Json}
      (opens : skipBlanks cs = '{' :: text) (key : embedded? text = some colon) (comes : readColon colon = .ok inside)
      (quote : skipBlanks inside = '"' :: quoted) (holds : readText quoted = .ok (s, left))
      (read : readValueFrom fuel depthLimit (source (octets s)) = .ok (value, after))
      (ends : endObject left = .ok rest) : ValueRead fuel depth cs value rest
  | scalar {c : Char} {text rest : List Char} {value : Json} (starts : skipBlanks cs = c :: text) (list : c ≠ '[')
      (object : c ≠ '{') (read : readScalar c text = .ok (value, rest)) : ValueRead fuel depth cs value rest

/-- How items of a list are read: none is left, or one comes before others. -/
inductive ItemsRead (fuel depth position : Nat) (done : List Json) (cs : List Char) :
    List Json → List Char → Prop where
  | none {rest : List Char} (next : nextItem (position == 0) cs = .ok (false, rest)) :
      ItemsRead fuel depth position done cs done.reverse rest
  | more {text left rest : List Char} {item : Json} {items : List Json}
      (next : nextItem (position == 0) cs = .ok (true, text))
      (read : readValueFrom fuel depth text = .ok (item, left))
      (others : readItemsFrom fuel depth (position + 1) (item :: done) left = .ok (items, rest)) :
      ItemsRead fuel depth position done cs items rest

/-- How members of an object are read: none is left, or one comes before others. -/
inductive MembersRead (fuel depth : Nat) (first : Bool) (done : Object) (cs : List Char) :
    Object → List Char → Prop where
  | none {rest : List Char} (next : nextKey first cs = .ok (false, rest)) :
      MembersRead fuel depth first done cs done rest
  | more {text colon inside left rest : List Char} {key : String} {value : Json} {members : Object}
      (next : nextKey first cs = .ok (true, text)) (named : readText text = .ok (key, colon))
      (comes : readColon colon = .ok inside) (read : readValueFrom fuel depth inside = .ok (value, left))
      (others : readMembersFrom fuel depth false (done.insert key value) left = .ok (members, rest)) :
      MembersRead fuel depth first done cs members rest

theorem ok_of_located {α : Type} {scan : Except SyntaxFault α} {a : α} (read : located scan = .ok a) :
    scan = .ok a := by
  cases scan with
  | error fault => cases read
  | ok b =>
      cases read
      rfl

theorem ok_of_within {α : Type} {step : Step} {inside : Except Located α} {a : α}
    (read : within step inside = .ok a) : inside = .ok a := by
  cases inside with
  | error fault => cases read
  | ok b =>
      cases read
      rfl

theorem ok_of_readEnd {α : Type} {scan : Read α} {a : α} (read : readEnd scan = .ok a) :
    ∃ rest, scan = .ok (a, rest) := by
  obtain ⟨⟨b, rest⟩, scanned, ends⟩ := Except.of_bind read
  simp only at ends
  split at ends
  · cases ends
    exact ⟨rest, scanned⟩
  · cases ends

theorem ok_of_mapError {ε δ α : Type} {e : Except ε α} {f : ε → δ} {a : α} (ok : e.mapError f = .ok a) : e = .ok a := by
  cases e with
  | error fault => cases ok
  | ok b =>
      cases ok
      rfl

theorem readMismatch_not_ok {α : Type} {expected : String} {a : α} : readMismatch expected cs ≠ .ok (a, rest) := by
  intro read
  rw [readMismatch] at read
  split at read
  · cases read
  · cases read
  · cases read
  · split at read
    · cases read
    · cases read

theorem ok_of_readExpected {expected s : String} (read : readExpected expected cs = .ok (s, rest)) :
    ∃ quoted, skipBlanks cs = '"' :: quoted ∧ readText quoted = .ok (s, rest) := by
  rw [readExpected] at read
  split at read
  · rename_i quoted opens
    exact ⟨quoted, opens, ok_of_located read⟩
  · exact absurd read readMismatch_not_ok

/-- Embedded text comes under the first key. -/
theorem embedded?_some {colon : List Char} (key : embedded? cs = some colon) :
    ∃ text, nextKey true cs = .ok (true, text) ∧ readText text = .ok (embeddedKey, colon) := by
  rw [embedded?] at key
  split at key
  · rename_i text next
    split at key
    · rename_i own colon named
      split at key
      · rename_i same
        subst same
        cases key
        exact ⟨text, next, named⟩
      · cases key
    · cases key
  · cases key

theorem valueRead_of_read {value : Json} (read : readValueFrom (fuel + 1) depth cs = .ok (value, rest)) :
    ValueRead fuel depth cs value rest := by
  rw [readValueFrom] at read
  split at read
  · cases read
  · rename_i text opens
    split at read
    · cases read
    · obtain ⟨⟨items, left⟩, inside, read⟩ := Except.of_bind read
      obtain ⟨after, ends, read⟩ := Except.of_bind read
      cases read
      exact .list opens inside (ok_of_located ends)
  · rename_i text opens
    split at read
    · cases read
    · split at read
      · rename_i colon key
        obtain ⟨⟨s, left⟩, expected, read⟩ := Except.of_bind read
        obtain ⟨inside, comes, expected⟩ := Except.of_bind (ok_of_within expected)
        obtain ⟨quoted, quote, holds⟩ := ok_of_readExpected expected
        obtain ⟨v, inner, read⟩ := Except.of_bind read
        obtain ⟨after, inner⟩ := ok_of_readEnd (ok_of_mapError (ok_of_mapError inner))
        obtain ⟨after', ends, read⟩ := Except.of_bind read
        cases read
        exact .embedded opens key (ok_of_located comes) quote holds inner (ok_of_located ends)
      · rename_i plain
        obtain ⟨⟨members, left⟩, inside, read⟩ := Except.of_bind read
        obtain ⟨after, ends, read⟩ := Except.of_bind read
        cases read
        exact .object opens plain inside (ok_of_located ends)
  · rename_i c text list object starts
    refine .scalar starts ?_ ?_ (ok_of_located read)
    · rintro rfl
      exact list rfl
    · rintro rfl
      exact object rfl

theorem itemsRead_of_read {position : Nat} {done items : List Json}
    (read : readItemsFrom (fuel + 1) depth position done cs = .ok (items, rest)) :
    ItemsRead fuel depth position done cs items rest := by
  rw [readItemsFrom] at read
  obtain ⟨⟨more, text⟩, next, read⟩ := Except.of_bind read
  cases more with
  | false =>
      cases read
      exact .none (ok_of_located next)
  | true =>
      obtain ⟨⟨item, left⟩, inside, others⟩ := Except.of_bind read
      exact .more (ok_of_located next) (ok_of_within inside) others

theorem membersRead_of_read {first : Bool} {done members : Object}
    (read : readMembersFrom (fuel + 1) depth first done cs = .ok (members, rest)) :
    MembersRead fuel depth first done cs members rest := by
  rw [readMembersFrom] at read
  obtain ⟨⟨more, text⟩, next, read⟩ := Except.of_bind read
  cases more with
  | false =>
      cases read
      exact .none (ok_of_located next)
  | true =>
      obtain ⟨⟨key, colon⟩, named, read⟩ := Except.of_bind read
      obtain ⟨⟨value, left⟩, inside, others⟩ := Except.of_bind read
      obtain ⟨after, comes, value⟩ := Except.of_bind (ok_of_within inside)
      exact .more (ok_of_located next) (ok_of_located named) (ok_of_located comes) value others

/-! ## Time makes no difference -/

section Unique

/-- What is read as a value in some time is read in any other time that is enough. -/
def ValuesUnique (fuel : Nat) : Prop :=
  ∀ {more depth : Nat} {cs rest left : List Char} {v w : Json}, readValueFrom fuel depth cs = .ok (v, rest) →
    readValueFrom more depth cs = .ok (w, left) → w = v ∧ left = rest

/-- What is read as items in some time is read in any other time that is enough. -/
def ItemsUnique (fuel : Nat) : Prop :=
  ∀ {more depth position : Nat} {done vs ws : List Json} {cs rest left : List Char},
    readItemsFrom fuel depth position done cs = .ok (vs, rest) →
    readItemsFrom more depth position done cs = .ok (ws, left) → ws = vs ∧ left = rest

/-- What is read as members in some time is read in any other time that is enough. -/
def MembersUnique (fuel : Nat) : Prop :=
  ∀ {more depth : Nat} {first : Bool} {done vs ws : Object} {cs rest left : List Char},
    readMembersFrom fuel depth first done cs = .ok (vs, rest) →
    readMembersFrom more depth first done cs = .ok (ws, left) → ws = vs ∧ left = rest

theorem valuesUnique_succ (values : ValuesUnique fuel) (items : ItemsUnique fuel) (members : MembersUnique fuel) :
    ValuesUnique (fuel + 1) := by
  intro more depth cs rest left v w read again
  cases more with
  | zero => simp [readValueFrom] at again
  | succ more =>
      cases valueRead_of_read read with
      | list opens inside ends =>
          cases valueRead_of_read again with
          | list opens' inside' ends' =>
              cases opens.symm.trans opens'
              obtain ⟨rfl, rfl⟩ := items inside inside'
              cases ends.symm.trans ends'
              exact ⟨rfl, rfl⟩
          | object opens' | embedded opens' => cases opens.symm.trans opens'
          | scalar starts list =>
              cases opens.symm.trans starts
              exact absurd rfl list
      | object opens plain inside ends =>
          cases valueRead_of_read again with
          | list opens' => cases opens.symm.trans opens'
          | object opens' _ inside' ends' =>
              cases opens.symm.trans opens'
              obtain ⟨rfl, rfl⟩ := members inside inside'
              cases ends.symm.trans ends'
              exact ⟨rfl, rfl⟩
          | embedded opens' key =>
              cases opens.symm.trans opens'
              cases plain.symm.trans key
          | scalar starts _ object =>
              cases opens.symm.trans starts
              exact absurd rfl object
      | embedded opens key comes quote holds inner ends =>
          cases valueRead_of_read again with
          | list opens' => cases opens.symm.trans opens'
          | object opens' plain =>
              cases opens.symm.trans opens'
              cases key.symm.trans plain
          | embedded opens' key' comes' quote' holds' inner' ends' =>
              cases opens.symm.trans opens'
              cases key.symm.trans key'
              cases comes.symm.trans comes'
              cases quote.symm.trans quote'
              cases holds.symm.trans holds'
              cases ends.symm.trans ends'
              exact ⟨(values inner inner').1, rfl⟩
          | scalar starts _ object =>
              cases opens.symm.trans starts
              exact absurd rfl object
      | scalar starts list object reads =>
          cases valueRead_of_read again with
          | list opens =>
              cases starts.symm.trans opens
              exact absurd rfl list
          | object opens | embedded opens =>
              cases starts.symm.trans opens
              exact absurd rfl object
          | scalar starts' _ _ reads' =>
              cases starts.symm.trans starts'
              cases reads.symm.trans reads'
              exact ⟨rfl, rfl⟩

theorem itemsUnique_succ (values : ValuesUnique fuel) (items : ItemsUnique fuel) : ItemsUnique (fuel + 1) := by
  intro more depth position done vs ws cs rest left read again
  cases more with
  | zero => simp [readItemsFrom] at again
  | succ more =>
      cases itemsRead_of_read read with
      | none next =>
          cases itemsRead_of_read again with
          | none next' =>
              cases next.symm.trans next'
              exact ⟨rfl, rfl⟩
          | more next' => cases next.symm.trans next'
      | more next value others =>
          cases itemsRead_of_read again with
          | none next' => cases next.symm.trans next'
          | more next' value' others' =>
              cases next.symm.trans next'
              obtain ⟨rfl, rfl⟩ := values value value'
              exact items others others'

theorem membersUnique_succ (values : ValuesUnique fuel) (members : MembersUnique fuel) : MembersUnique (fuel + 1) := by
  intro more depth first done vs ws cs rest left read again
  cases more with
  | zero => simp [readMembersFrom] at again
  | succ more =>
      cases membersRead_of_read read with
      | none next =>
          cases membersRead_of_read again with
          | none next' =>
              cases next.symm.trans next'
              exact ⟨rfl, rfl⟩
          | more next' => cases next.symm.trans next'
      | more next named comes value others =>
          cases membersRead_of_read again with
          | none next' => cases next.symm.trans next'
          | more next' named' comes' value' others' =>
              cases next.symm.trans next'
              cases named.symm.trans named'
              cases comes.symm.trans comes'
              obtain ⟨rfl, rfl⟩ := values value value'
              exact members others others'

theorem readers_unique (fuel : Nat) : ValuesUnique fuel ∧ ItemsUnique fuel ∧ MembersUnique fuel := by
  induction fuel with
  | zero =>
      refine ⟨?_, ?_, ?_⟩
      · intro more depth cs rest left v w read
        simp [readValueFrom] at read
      · intro more depth position done vs ws cs rest left read
        simp [readItemsFrom] at read
      · intro more depth first done vs ws cs rest left read
        simp [readMembersFrom] at read
  | succ fuel ih =>
      obtain ⟨values, items, members⟩ := ih
      exact ⟨valuesUnique_succ values items members, itemsUnique_succ values items, membersUnique_succ values members⟩

/-- What is read of a text does not depend on how long the reader may take. -/
theorem readValueFrom_unique {more : Nat} {v w : Json} (read : readValueFrom fuel depth cs = .ok (v, rest))
    (again : readValueFrom more depth cs = .ok (w, left)) : w = v ∧ left = rest :=
  (readers_unique fuel).1 read again

end Unique

/-! ## Skipping -/

theorem skipBlanks_skipBlanks (cs : List Char) : skipBlanks (skipBlanks cs) = skipBlanks cs := by
  induction cs with
  | nil => rfl
  | cons c cs ih =>
      by_cases blank : (c = ' ' || c = '\n' || c = '\t' || c = '\r') = true
      · have skipped : skipBlanks (c :: cs) = skipBlanks cs := List.dropWhile_cons_of_pos blank
        rw [skipped, ih]
      · have kept : skipBlanks (c :: cs) = c :: cs := List.dropWhile_cons_of_neg blank
        rw [kept, kept]

/-- What follows blanks is no blank. -/
theorem skipBlanks_visible {c : Char} (visible : skipBlanks cs = c :: rest) : skipBlanks (c :: rest) = c :: rest := by
  rw [← visible, skipBlanks_skipBlanks]

theorem readValueFrom_skipBlanks (fuel depth : Nat) (cs : List Char) :
    readValueFrom fuel depth (skipBlanks cs) = readValueFrom fuel depth cs := by
  cases fuel with
  | zero => simp only [readValueFrom]
  | succ fuel => simp only [readValueFrom, skipBlanks_skipBlanks]

/-- Where skipping goes on after a value: nowhere if no container is open around it. -/
def Resumes : List Open → List Char → List Char → Prop
  | [], rest, out => out = rest
  | inner :: outer, rest, out => ∃ fuel, skipAfter fuel true inner outer rest = .ok out

/-- Skipping resumes after a value where reading the value ends. -/
def ValuesSkipped (fuel : Nat) : Prop :=
  ∀ {more depth : Nat} {cs rest out : List Char} {v : Json} {around : List Open},
    readValueFrom fuel depth cs = .ok (v, rest) → skipInside more around cs = .ok out → Resumes around rest out

/-- Skipping resumes after the items of a list where reading the list ends. -/
def ItemsSkipped (fuel : Nat) : Prop :=
  ∀ {more depth position : Nat} {done items : List Json} {cs left rest out : List Char} {outer : List Open},
    readItemsFrom fuel depth position done cs = .ok (items, left) → endList left = .ok rest →
    skipAfter more (!(position == 0)) .list outer cs = .ok out → Resumes outer rest out

/-- Skipping resumes after the members of an object where reading the object ends. -/
def MembersSkipped (fuel : Nat) : Prop :=
  ∀ {more depth : Nat} {first : Bool} {done members : Object} {cs left rest out : List Char} {outer : List Open},
    readMembersFrom fuel depth first done cs = .ok (members, left) → endObject left = .ok rest →
    skipAfter more (!first) .object outer cs = .ok out → Resumes outer rest out

variable {out : List Char} {around outer : List Open} {first : Bool}

theorem resumes_of_match {fuel : Nat} (skipped : (match around with
    | [] => .ok rest
    | inner :: outer => skipAfter fuel true inner outer rest) = Except.ok out) : Resumes around rest out := by
  cases around with
  | nil =>
      cases skipped
      rfl
  | cons inner outer => exact ⟨fuel, skipped⟩

/-- A list that ends is skipped up to its closing bracket. -/
theorem resumes_of_endList (next : nextItem first cs = .ok (false, left)) (ends : endList left = .ok rest)
    (skipped : skipAfter fuel (!first) .list outer cs = .ok out) : Resumes outer rest out := by
  cases fuel with
  | zero => simp [skipAfter] at skipped
  | succ fuel =>
      rw [nextItem] at next
      split at next
      · cases next
      · rename_i c text starts
        split at next
        · rename_i bracket
          subst bracket
          cases next
          rw [endList, skipBlanks_visible starts] at ends
          cases ends
          rw [skipAfter, starts] at skipped
          exact resumes_of_match skipped
        · split at next
          · cases next
          · split at next
            · split at next
              · cases next
              · cases next
              · cases next
            · cases next

/-- An object that ends is skipped up to its closing brace. -/
theorem resumes_of_endObject (next : nextKey first cs = .ok (false, left)) (ends : endObject left = .ok rest)
    (skipped : skipAfter fuel (!first) .object outer cs = .ok out) : Resumes outer rest out := by
  cases fuel with
  | zero => simp [skipAfter] at skipped
  | succ fuel =>
      rw [nextKey] at next
      split at next
      · cases next
      · rename_i c text starts
        split at next
        · rename_i brace
          subst brace
          cases next
          rw [endObject, skipBlanks_visible starts] at ends
          cases ends
          rw [skipAfter, starts] at skipped
          exact resumes_of_match skipped
        · split at next
          · split at next
            · cases next
            · cases next
          · split at next
            · split at next
              · cases next
              · cases next
              · cases next
              · cases next
            · cases next

/-- What stands inside a container after a comma, or at first, is skipped from where it is read. -/
theorem skipAfter_entry {inner : Open} {c : Char} {text : List Char} (starts : skipBlanks cs = c :: text)
    (open_ : c ≠ if inner = .list then ']' else '}') (skipped : skipAfter fuel (!first) inner outer cs = .ok out) :
    ∃ fuel entry, skipEntry fuel inner outer entry = .ok out ∧
      (first = true ∧ entry = c :: text ∨ first = false ∧ c = ',' ∧ entry = text) := by
  cases fuel with
  | zero => simp [skipAfter] at skipped
  | succ fuel =>
      simp only [skipAfter, starts, if_neg open_] at skipped
      cases first with
      | true =>
          simp only [Bool.not_true, Bool.and_false, Bool.false_eq_true, if_false] at skipped
          exact ⟨fuel, _, skipped, .inl ⟨rfl, rfl⟩⟩
      | false =>
          by_cases comma : c = ','
          · simp only [Bool.not_false, comma, decide_true, Bool.and_self, if_true] at skipped
            exact ⟨fuel, _, skipped, .inr ⟨rfl, comma, rfl⟩⟩
          · simp [comma] at skipped

/-- The next item of a list is skipped from where it is read. -/
theorem skipInside_of_nextItem {text : List Char} (next : nextItem first cs = .ok (true, text))
    (skipped : skipAfter fuel (!first) .list outer cs = .ok out) :
    ∃ fuel inside, skipBlanks inside = text ∧ skipInside fuel (.list :: outer) inside = .ok out := by
  rw [nextItem] at next
  split at next
  · cases next
  · rename_i c tail starts
    split at next
    · cases next
    · rename_i open_
      have unclosed : c ≠ if Open.list = .list then ']' else '}' := open_
      obtain ⟨fuel, entry, skipped, place⟩ := skipAfter_entry starts unclosed skipped
      have read : skipBlanks entry = text := by
        rcases place with ⟨rfl, rfl⟩ | ⟨rfl, rfl, rfl⟩
        · cases next
          exact skipBlanks_visible starts
        · simp only [Bool.false_eq_true, if_false, if_true] at next
          split at next
          · cases next
          · cases next
          · cases next
            rfl
      cases fuel with
      | zero => simp [skipEntry] at skipped
      | succ fuel => exact ⟨fuel, entry, read, skipped⟩

/-- The value under the next key of an object is skipped from where it is read. -/
theorem skipInside_of_nextKey {text colon inside : List Char} {key : String}
    (next : nextKey first cs = .ok (true, text)) (named : readText text = .ok (key, colon))
    (comes : readColon colon = .ok inside)
    (skipped : skipAfter fuel (!first) .object outer cs = .ok out) :
    ∃ fuel, skipInside fuel (.object :: outer) inside = .ok out := by
  rw [nextKey] at next
  split at next
  · cases next
  · rename_i c tail starts
    split at next
    · cases next
    · rename_i open_
      have unclosed : c ≠ if Open.object = .list then ']' else '}' := open_
      obtain ⟨fuel, entry, skipped, place⟩ := skipAfter_entry starts unclosed skipped
      have read : skipBlanks entry = '"' :: text := by
        rcases place with ⟨rfl, rfl⟩ | ⟨rfl, rfl, rfl⟩
        · simp only [if_true] at next
          split at next
          · rename_i quote
            subst quote
            cases next
            exact skipBlanks_visible starts
          · cases next
        · simp only [Bool.false_eq_true, if_false, if_true] at next
          split at next
          · cases next
          · rename_i quoted
            cases next
            exact quoted
          · cases next
          · cases next
      cases fuel with
      | zero => simp [skipEntry] at skipped
      | succ fuel =>
          simp only [skipEntry, read] at skipped
          obtain ⟨after, passed, skipped⟩ := Except.of_bind skipped
          cases skipText_agrees named passed
          obtain ⟨after, comes', skipped⟩ := Except.of_bind skipped
          cases comes.symm.trans comes'
          exact ⟨fuel, skipped⟩

/-- What opens no container is skipped as a scalar. -/
theorem skipInside_scalar {c : Char} {text : List Char} (starts : skipBlanks cs = c :: text) (list : c ≠ '[')
    (object : c ≠ '{') (skipped : skipInside (fuel + 1) around cs = .ok out) :
    ∃ after, skipScalar c text = .ok after ∧ Resumes around after out := by
  rw [skipInside, starts] at skipped
  split at skipped
  · contradiction
  · rename_i opens
    cases opens
    exact absurd rfl list
  · rename_i opens
    cases opens
    exact absurd rfl object
  · rename_i same
    cases same
    obtain ⟨after, scalar, resumes⟩ := Except.of_bind skipped
    exact ⟨after, scalar, resumes_of_match resumes⟩

/-- The end of an object is where its last member ends. -/
theorem nextKey_of_endObject (ends : endObject cs = .ok rest) : nextKey false cs = .ok (false, '}' :: rest) := by
  rw [endObject] at ends
  split at ends
  · cases ends
  · rename_i closed
    cases ends
    rw [nextKey, closed]
    rfl
  · cases ends
  · cases ends

/-- A text that is the last value of an object is skipped, and so is the end of the object. -/
theorem resumes_of_quoted {inside quoted : List Char} {s : String} (quote : skipBlanks inside = '"' :: quoted)
    (holds : readText quoted = .ok (s, left)) (ends : endObject left = .ok rest)
    (skipped : skipInside fuel (.object :: outer) inside = .ok out) : Resumes outer rest out := by
  cases fuel with
  | zero => simp [skipInside] at skipped
  | succ fuel =>
      obtain ⟨after, passed, resumes⟩ := skipInside_scalar quote (by decide) (by decide) skipped
      cases skipText_agrees holds passed
      obtain ⟨fuel, skipped⟩ := resumes
      have next : nextKey false left = .ok (false, '}' :: rest) := nextKey_of_endObject ends
      exact resumes_of_endObject next rfl skipped

theorem valuesSkipped_succ (items : ItemsSkipped fuel) (members : MembersSkipped fuel) : ValuesSkipped (fuel + 1) := by
  intro more depth cs rest out v around read skipped
  cases more with
  | zero => simp [skipInside] at skipped
  | succ more =>
      cases valueRead_of_read read with
      | list opens inside ends =>
          rw [skipInside, opens] at skipped
          exact items inside ends skipped
      | object opens _ inside ends =>
          rw [skipInside, opens] at skipped
          exact members inside ends skipped
      | embedded opens key comes quote holds _ ends =>
          rw [skipInside, opens] at skipped
          obtain ⟨text, next, named⟩ := embedded?_some key
          obtain ⟨fuel, skipped⟩ := skipInside_of_nextKey next named comes skipped
          exact resumes_of_quoted quote holds ends skipped
      | scalar starts list object reads =>
          obtain ⟨after, scalar, resumes⟩ := skipInside_scalar starts list object skipped
          rwa [skipScalar_agrees reads scalar] at resumes

theorem itemsSkipped_succ (values : ValuesSkipped fuel) (items : ItemsSkipped fuel) : ItemsSkipped (fuel + 1) := by
  intro more depth position done vs cs left rest out outer read ends skipped
  cases itemsRead_of_read read with
  | none next => exact resumes_of_endList next ends skipped
  | more next value others =>
      obtain ⟨fuel, inside, rfl, skipped⟩ := skipInside_of_nextItem next skipped
      rw [readValueFrom_skipBlanks] at value
      obtain ⟨fuel, skipped⟩ := values value skipped
      exact items others ends skipped

theorem membersSkipped_succ (values : ValuesSkipped fuel) (members : MembersSkipped fuel) :
    MembersSkipped (fuel + 1) := by
  intro more depth first done vs cs left rest out outer read ends skipped
  cases membersRead_of_read read with
  | none next => exact resumes_of_endObject next ends skipped
  | more next named comes value others =>
      obtain ⟨fuel, skipped⟩ := skipInside_of_nextKey next named comes skipped
      obtain ⟨fuel, skipped⟩ := values value skipped
      exact members others ends skipped

theorem skippers_agree (fuel : Nat) : ValuesSkipped fuel ∧ ItemsSkipped fuel ∧ MembersSkipped fuel := by
  induction fuel with
  | zero =>
      refine ⟨?_, ?_, ?_⟩
      · intro more depth cs rest out v around read
        simp [readValueFrom] at read
      · intro more depth position done items cs left rest out outer read
        simp [readItemsFrom] at read
      · intro more depth first done members cs left rest out outer read
        simp [readMembersFrom] at read
  | succ fuel ih =>
      obtain ⟨values, items, members⟩ := ih
      exact ⟨valuesSkipped_succ items members, itemsSkipped_succ values items, membersSkipped_succ values members⟩

/-- Skipping a value leaves what reading it leaves. -/
theorem skipValue_agrees {v : Json} (read : readValueFrom fuel depth cs = .ok (v, rest))
    (skipped : skipValue cs = .ok left) : left = rest :=
  (skippers_agree fuel).1 read skipped

end WorkflowEngine.Json
