/-
Module: WorkflowEngine.Proofs.UuidSpellings
Layer: Proofs
Purpose: The spellings of an identifier.  There are four of them, each with a length of its own (`Uuid.readAny_eq_ok`,
  `Uuid.Spelled.chars_of_size`), so among the texts of thirty-six bytes those that spell an identifier are the canonical
  ones (`Uuid.read?_eq`): hyphens at four places and hexadecimal digits at all others (`Uuid.shaped_iff`).
Imports: WorkflowEngine.Proofs.UuidText
Trusted boundary: none
Main exports: Uuid.Shaped, Uuid.shaped_iff, Uuid.Spelled, Uuid.readAny_eq_ok, Uuid.readAny_chars, Uuid.read?_eq,
  Uuid.read?_render, Uuid.read?_iff_render
-/
import WorkflowEngine.Proofs.UuidText

namespace WorkflowEngine

/-! ## Bytes -/

/-- A text whose characters take one byte each has as many bytes as characters. -/
theorem utf8ByteSize_of_narrow {cs : List Char} (narrow : ∀ c ∈ cs, c.utf8Size = 1) :
    (String.ofList cs).utf8ByteSize = cs.length := by
  induction cs with
  | nil => rfl
  | cons c cs ih =>
      obtain ⟨first, others⟩ := List.forall_mem_cons.1 narrow
      rw [String.ofList_cons, String.utf8ByteSize_append, String.utf8ByteSize_singleton, ih others, first,
        List.length_cons, Nat.add_comm]

theorem utf8Size_hexDigit {c : Char} : isHexDigit c = true → c.utf8Size = 1 :=
  hexDigit_cases (P := fun c => c.utf8Size = 1) (by decide)

theorem utf8ByteSize_hexDigits {cs : List Char} (all : cs.all isHexDigit = true) :
    (String.ofList cs).utf8ByteSize = cs.length :=
  utf8ByteSize_of_narrow fun c member => utf8Size_hexDigit (List.all_eq_true.1 all c member)

namespace Uuid

/-! ## Places -/

/-- Where hyphens stand between groups of given lengths. -/
def hyphens : List Nat → List Nat
  | n :: m :: rest => n :: (hyphens (m :: rest)).map (n + 1 + ·)
  | _ => []

example : hyphens groups = [8, 13, 18, 23] := rfl

/-- A text has hyphens at given places and hexadecimal digits at all others. -/
def Placed (marks : List Nat) (cs : List Char) : Prop :=
  ∀ i c, cs[i]? = some c → if i ∈ marks then c = '-' else isHexDigit c = true

/-- The shape of canonical texts: thirty-six characters, of which four are hyphens and the others hexadecimal digits. -/
structure Shaped (cs : List Char) : Prop where
  length : cs.length = 36
  placed : Placed [8, 13, 18, 23] cs

section Places

variable {n m : Nat} {rest : List Nat} {cs digits : List Char}

theorem mem_hyphens_first : n ∈ hyphens (n :: m :: rest) := List.mem_cons_self

/-- No hyphen stands within the first group. -/
theorem not_mem_hyphens {i : Nat} (within : i < n) : i ∉ hyphens (n :: m :: rest) := by
  rw [hyphens, List.mem_cons, List.mem_map]
  rintro (rfl | ⟨j, -, rfl⟩) <;> omega

/-- The hyphens after the first one are those of the other groups. -/
theorem mem_hyphens_after (i : Nat) : n + 1 + i ∈ hyphens (n :: m :: rest) ↔ i ∈ hyphens (m :: rest) := by
  rw [hyphens, List.mem_cons, List.mem_map]
  constructor
  · rintro (first | ⟨j, member, same⟩)
    · omega
    · rwa [← Nat.add_left_cancel same]
  · exact fun member => .inr ⟨i, member, rfl⟩

theorem placed_of_all (all : cs.all isHexDigit = true) : Placed (hyphens [n]) cs := by
  intro i c at_
  have unmarked : i ∉ hyphens [n] := List.not_mem_nil
  rw [if_neg unmarked]
  exact List.all_eq_true.1 all c (List.mem_of_getElem? at_)

/-- A hyphen after the first group puts the places of the other groups behind both. -/
theorem placed_append {part tail : List Char} (length : part.length = n) (all : part.all isHexDigit = true)
    (others : Placed (hyphens (m :: rest)) tail) : Placed (hyphens (n :: m :: rest)) (part ++ '-' :: tail) := by
  intro i c at_
  rcases Nat.lt_trichotomy i n with within | rfl | behind
  · rw [List.getElem?_append_left (by omega)] at at_
    rw [if_neg (not_mem_hyphens within)]
    exact List.all_eq_true.1 all c (List.mem_of_getElem? at_)
  · rw [List.getElem?_append_right (by omega), length, Nat.sub_self, List.getElem?_cons_zero] at at_
    rw [if_pos mem_hyphens_first]
    exact (Option.some.inj at_).symm
  · obtain ⟨j, rfl⟩ : ∃ j, i = n + 1 + j := ⟨i - (n + 1), by omega⟩
    have after : n + 1 + j - part.length = j + 1 := by omega
    rw [List.getElem?_append_right (by omega), after, List.getElem?_cons_succ] at at_
    simpa only [mem_hyphens_after] using others j c at_

theorem Grouped.placed {groups : List Nat} (h : Grouped groups cs digits) :
    cs.length + 1 = groups.sum + groups.length ∧ Placed (hyphens groups) cs := by
  induction h with
  | last length all => exact ⟨by simp [length], placed_of_all all⟩
  | more length all others ih =>
      refine ⟨?_, placed_append length all ih.2⟩
      have inner := ih.1
      simp only [List.length_append, List.length_cons, List.sum_cons, length] at inner ⊢
      omega

/-- Hyphens and digits at the places where groups have them make groups. -/
theorem grouped_of_placed (length : cs.length + 1 = (n :: rest).sum + (n :: rest).length)
    (placed : Placed (hyphens (n :: rest)) cs) : ∃ digits, Grouped (n :: rest) cs digits := by
  induction rest generalizing n cs with
  | nil =>
      have all : cs.all isHexDigit = true := by
        rw [List.all_eq_true]
        intro c member
        obtain ⟨i, at_⟩ := List.mem_iff_getElem?.1 member
        simpa only [hyphens, List.not_mem_nil, if_false] using placed i c at_
      exact ⟨cs, .last (by simpa using length) all⟩
  | cons m rest ih =>
      simp only [List.sum_cons, List.length_cons] at length
      have first : (cs.take n).length = n := List.length_take_of_le (by omega)
      have all : (cs.take n).all isHexDigit = true := by
        rw [List.all_eq_true]
        intro c member
        obtain ⟨i, at_⟩ := List.mem_iff_getElem?.1 member
        have within : i < n := by
          rw [← first]
          exact (List.getElem?_eq_some_iff.1 at_).1
        rw [List.getElem?_take_of_lt within] at at_
        simpa only [if_neg (not_mem_hyphens within)] using placed i c at_
      have within : n < cs.length := by omega
      have hyphen : cs[n] = '-' := by
        have here := placed n _ (List.getElem?_eq_getElem within)
        rwa [if_pos mem_hyphens_first] at here
      have others : Placed (hyphens (m :: rest)) (cs.drop (n + 1)) := by
        intro i c at_
        rw [List.getElem?_drop] at at_
        simpa only [mem_hyphens_after] using placed (n + 1 + i) c at_
      have fits : (cs.drop (n + 1)).length + 1 = (m :: rest).sum + (m :: rest).length := by
        simp only [List.length_drop, List.sum_cons, List.length_cons]
        omega
      obtain ⟨digits, grouped⟩ := ih fits others
      have whole : cs.take n ++ '-' :: cs.drop (n + 1) = cs := by
        rw [← hyphen, List.getElem_cons_drop, List.take_append_drop]
      rw [← whole]
      exact ⟨_, .more first all grouped⟩

end Places

/-- A text has the shape of canonical texts exactly if it is made of groups of their lengths. -/
theorem shaped_iff {cs : List Char} : Shaped cs ↔ ∃ digits, Grouped groups cs digits := by
  constructor
  · rintro ⟨length, placed⟩
    exact grouped_of_placed (by rw [length]; rfl) placed
  · rintro ⟨digits, grouped⟩
    obtain ⟨length, placed⟩ := grouped.placed
    exact ⟨Nat.succ.inj length, placed⟩

/-- The texts of that shape are those that are read. -/
theorem shaped_iff_read {cs : List Char} : Shaped cs ↔ ∃ id, ofChars? cs = some id := by
  rw [shaped_iff]
  constructor
  · rintro ⟨digits, grouped⟩
    exact ⟨_, by rw [ofChars?, grouped.ungroup?_eq]; rfl⟩
  · rintro ⟨id, read⟩
    obtain ⟨digits, found, -⟩ := Option.map_eq_some_iff.1 read
    exact ⟨digits, grouped_of_ungroup? found⟩

theorem Shaped.utf8ByteSize {cs : List Char} (h : Shaped cs) : (String.ofList cs).utf8ByteSize = 36 := by
  rw [utf8ByteSize_of_narrow, h.length]
  intro c member
  obtain ⟨i, at_⟩ := List.mem_iff_getElem?.1 member
  have stands := h.placed i c at_
  split at stands
  · rw [stands]
    rfl
  · exact utf8Size_hexDigit stands

/-! ## Spellings -/

/-- The spellings of an identifier: its canonical text, the same in braces or as a URN, and its digits alone, with letters
of digits in either case. -/
inductive Spelled : List Char → Uuid → Prop where
  | canonical {cs : List Char} {id : Uuid} (text : cs.map Char.toLower = id.chars) : Spelled cs id
  | braced {cs : List Char} {id : Uuid} (text : cs.map Char.toLower = id.chars) : Spelled ('{' :: (cs ++ ['}'])) id
  | urn {cs : List Char} {id : Uuid} (text : cs.map Char.toLower = id.chars) : Spelled ("urn:uuid:".toList ++ cs) id
  | plain {cs : List Char} {id : Uuid} (digits : cs.map Char.toLower = hexDigits 32 id.bits.val) : Spelled cs id

theorem shaped_of_toLower {cs : List Char} {id : Uuid} (text : cs.map Char.toLower = id.chars) : Shaped cs :=
  shaped_iff_read.2 ⟨id, ofChars?_eq_some.2 text⟩

/-- Digits of an identifier, in whatever case, are thirty-two digits. -/
theorem digits_of_toLower {cs : List Char} {id : Uuid} (digits : cs.map Char.toLower = hexDigits 32 id.bits.val) :
    cs.length = 32 ∧ cs.all isHexDigit = true := by
  constructor
  · rw [← List.length_map, digits, length_hexDigits]
  · rw [← all_isHexDigit_toLower, digits, List.all_eq_true]
    exact fun c member => (id.numeral_bits.digits c member).1

/-- Among the spellings, it is the canonical one that takes thirty-six bytes. -/
theorem Spelled.chars_of_size {cs : List Char} {id : Uuid} (h : Spelled cs id)
    (size : (String.ofList cs).utf8ByteSize = 36) : cs.map Char.toLower = id.chars := by
  cases h with
  | canonical text => exact text
  | braced text =>
      rw [String.ofList_cons, String.ofList_append, String.utf8ByteSize_append, String.utf8ByteSize_append,
        (shaped_of_toLower text).utf8ByteSize] at size
      cases size
  | urn text =>
      rw [String.ofList_append, String.utf8ByteSize_append, (shaped_of_toLower text).utf8ByteSize] at size
      cases size
  | plain digits =>
      obtain ⟨length, all⟩ := digits_of_toLower digits
      rw [utf8ByteSize_hexDigits all, length] at size
      cases size

/-! ## Reading -/

/-- A text in groups starts with a digit. -/
theorem Grouped.head_isHexDigit {n : Nat} {rest : List Nat} {cs digits : List Char}
    (grouped : Grouped (n :: rest) cs digits) (positive : 0 < n) : ∃ c, cs.head? = some c ∧ isHexDigit c = true := by
  -- The first group is not empty, whether another follows or not.
  have first {part : List Char} (length : part.length = n) (all : part.all isHexDigit = true) (tail : List Char) :
      ∃ c, (part ++ tail).head? = some c ∧ isHexDigit c = true := by
    obtain ⟨c, others, rfl⟩ := List.exists_cons_of_length_pos (l := part) (by omega)
    rw [List.all_cons, Bool.and_eq_true] at all
    exact ⟨c, rfl, all.1⟩
  cases grouped with
  | last length all => simpa using first length all []
  | more length all others => exact first length all _

theorem braced?_eq_some {cs inner : List Char} (found : braced? cs = some inner) : cs = '{' :: (inner ++ ['}']) := by
  unfold braced? at found
  split at found
  · rename_i rest
    obtain ⟨last, same⟩ := (Option.ite_none_right_eq_some ..).1 found
    obtain ⟨front, rfl⟩ := List.getLast?_eq_some_iff.1 last
    rw [List.dropLast_concat] at same
    cases same
    rfl
  · cases found

theorem urn?_eq_some {cs tail : List Char} (found : urn? cs = some tail) : cs = "urn:uuid:".toList ++ tail := by
  obtain ⟨start, same⟩ := (Option.ite_none_right_eq_some ..).1 found
  cases same
  rw [← start, List.take_append_drop]

/-- What stands in braces or after the namespace, if there is any, and otherwise the text as it stands. -/
theorem body_cases (cs : List Char) :
    let body := ((braced? cs).orElse fun _ => urn? cs).getD cs
    body = cs ∨ cs = '{' :: (body ++ ['}']) ∨ cs = "urn:uuid:".toList ++ body := by
  cases braced : braced? cs with
  | some inner => exact .inr (.inl (braced?_eq_some braced))
  | none =>
      cases named : urn? cs with
      | some tail => exact .inr (.inr (urn?_eq_some named))
      | none => exact .inl rfl

/-- A text that starts with a digit stands for itself: it has no braces and is no URN. -/
theorem body_of_head {cs : List Char} {c : Char} (head : cs.head? = some c) (digit : isHexDigit c = true) :
    ((braced? cs).orElse fun _ => urn? cs).getD cs = cs := by
  rcases body_cases cs with same | braced | named
  · exact same
  · rw [braced] at head
    cases head
    cases digit
  · rw [named] at head
    cases head
    cases digit

/-- What is read is a spelling of what it is read as. -/
theorem spelled_of_readAny {cs : List Char} {id : Uuid} (read : readAny cs = .ok id) : Spelled cs id := by
  rw [readAny] at read
  split at read
  · rename_i u found
    cases read
    have text := ofChars?_eq_some.1 found
    rcases body_cases cs with same | braced | named
    · exact .canonical (same ▸ text)
    · rw [braced]
      exact .braced text
    · rw [named]
      exact .urn text
  · split at read
    · rename_i digits
      cases read
      exact .plain (hexDigits_ofNat digits.2 digits.1).symm
    · cases read

theorem Spelled.readAny_eq {cs : List Char} {id : Uuid} (h : Spelled cs id) : readAny cs = .ok id := by
  cases h with
  | canonical text =>
      obtain ⟨digits, grouped⟩ := shaped_iff.1 (shaped_of_toLower text)
      obtain ⟨c, head, digit⟩ := grouped.head_isHexDigit (by decide)
      simp only [readAny, body_of_head head digit, ofChars?_eq_some.2 text]
  | @braced inner id text =>
      have found : braced? ('{' :: (inner ++ ['}'])) = some inner := by simp [braced?]
      simp only [readAny, found, Option.orElse_some, Option.getD_some, ofChars?_eq_some.2 text]
  | @urn tail id text =>
      have unbraced : braced? ("urn:uuid:".toList ++ tail) = none := rfl
      have found : urn? ("urn:uuid:".toList ++ tail) = some tail := rfl
      simp only [readAny, unbraced, found, Option.orElse_none, Option.getD_some, ofChars?_eq_some.2 text]
  | plain digits =>
      obtain ⟨length, all⟩ := digits_of_toLower digits
      have single : Grouped [32] cs cs := .last length all
      obtain ⟨c, head, digit⟩ := single.head_isHexDigit (by decide)
      -- Without its hyphens the text is too short to be canonical.
      have unread : ofChars? cs = none := by
        rw [Option.eq_none_iff_forall_ne_some]
        intro other read
        have shape := shaped_iff_read.2 ⟨other, read⟩
        cases length.symm.trans shape.length
      simp only [readAny, body_of_head head digit, unread]
      rw [if_pos ⟨length, all⟩, eq_of_hexDigits ((hexDigits_ofNat all length).trans digits)]

/-- A text is read as an identifier exactly if it is one of its spellings. -/
theorem readAny_eq_ok {cs : List Char} {id : Uuid} : readAny cs = .ok id ↔ Spelled cs id :=
  ⟨spelled_of_readAny, Spelled.readAny_eq⟩

/-- The canonical text is read as it stands. -/
theorem readAny_chars (id : Uuid) : readAny id.chars = .ok id := readAny_eq_ok.2 (.canonical id.chars_toLower)

/-- What requests name ids by are the spellings of thirty-six bytes. -/
theorem read?_eq (text : String) :
    read? text = if text.utf8ByteSize = 36 then (readAny text.toList).toOption else none := by
  ext id
  rw [read?_eq_some]
  constructor
  · intro canonical
    have size := (shaped_of_toLower canonical).utf8ByteSize
    rw [String.ofList_toList] at size
    rw [if_pos size, readAny_eq_ok.2 (.canonical canonical)]
    rfl
  · intro read
    obtain ⟨size, read⟩ := (Option.ite_none_right_eq_some ..).1 read
    rw [← String.ofList_toList (s := text)] at size
    cases spelled : readAny text.toList with
    | error fault =>
        rw [spelled] at read
        cases read
    | ok other =>
        rw [spelled] at read
        cases read
        exact (readAny_eq_ok.1 spelled).chars_of_size size

/-! ## Display -/

theorem render_injective : Function.Injective render := by
  intro id other same
  have chars : id.chars = other.chars := String.ofList_injective same
  have read := id.ofChars?_chars
  rw [chars, other.ofChars?_chars] at read
  exact (Option.some.inj read).symm

/-- What is displayed is read back. -/
theorem read?_render (id : Uuid) : read? id.render = some id := by
  rw [read?, render, String.toList_ofList]
  exact id.ofChars?_chars

/-- The id that is read from a text is displayed as the text in lower case. -/
theorem read?_iff_render {text : String} {id : Uuid} : read? text = some id ↔ id.render = text.toLower := by
  have lower : text.toLower.toList = text.toList.map Char.toLower := String.toList_map
  rw [read?_eq_some, render, ← String.toList_inj, String.toList_ofList, lower]
  exact eq_comm

end Uuid

end WorkflowEngine
