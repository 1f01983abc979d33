/-
Module: WorkflowEngine.Proofs.AddressText
Layer: Proofs
Purpose: The spellings of addresses.  An IPv4 address is spelled by one to four numbers, an IPv6 address by its groups,
  with a gap or an IPv4 address at the end if one likes; whatever spells an address is read as that address.
Imports: Mathlib.Data.List.Forall2, WorkflowEngine.Proofs.Numerals
Trusted boundary: none
Main exports: Ipv4.Spelled, Ipv4.ofHost?_eq, Ipv4.readDotted?_render, Ipv6.Spelled, Ipv6.read?_eq
-/
import Mathlib.Data.List.Forall2
import WorkflowEngine.Proofs.Numerals

namespace WorkflowEngine

/-! ## Texts between separators -/

section Intercalate

variable {α β : Type} {x : α} {parts : List (List α)}

theorem mem_intercalate {c : α} (member : c ∈ [x].intercalate parts) : (∃ part ∈ parts, c ∈ part) ∨ c = x := by
  induction parts with
  | nil => cases member
  | cons part rest ih =>
      cases rest with
      | nil => exact .inl ⟨part, List.mem_cons_self, by simpa using member⟩
      | cons next rest =>
          rw [List.intercalate_cons_cons, List.mem_append, List.mem_append, List.mem_singleton] at member
          rcases member with (inside | separator) | later
          · exact .inl ⟨part, List.mem_cons_self, inside⟩
          · exact .inr separator
          · rcases ih later with ⟨other, among, inside⟩ | separator
            · exact .inl ⟨other, List.mem_cons_of_mem _ among, inside⟩
            · exact .inr separator

theorem mem_intercalate_of_part {c : α} {part : List α} (among : part ∈ parts) (inside : c ∈ part) :
    c ∈ [x].intercalate parts := by
  induction parts with
  | nil => cases among
  | cons first rest ih =>
      cases rest with
      | nil =>
          rw [List.intercalate_singleton, ← List.mem_singleton.1 among]
          exact inside
      | cons next rest =>
          rw [List.intercalate_cons_cons, List.mem_append, List.mem_append]
          rcases List.mem_cons.1 among with rfl | later
          · exact .inl (.inl inside)
          · exact .inr (ih later)

theorem mem_of_splitOn [BEq α] [LawfulBEq α] {c : α} {cs part : List α} (among : part ∈ cs.splitOn x)
    (inside : c ∈ part) : c ∈ cs := by
  rw [← @List.intercalate_splitOn _ cs _ _ x]
  exact mem_intercalate_of_part among inside

/-- No part of a text that is split at a separator contains the separator. -/
theorem not_mem_of_splitOn [BEq α] [LawfulBEq α] {cs part : List α} (among : part ∈ cs.splitOn x) : x ∉ part := by
  induction cs generalizing part with
  | nil =>
      rw [List.splitOn_nil, List.mem_singleton] at among
      rw [among]
      exact List.not_mem_nil
  | cons c cs ih =>
      rw [List.splitOn, List.splitOnP_cons_eq_if_modifyHead] at among
      split at among
      · rcases List.mem_cons.1 among with rfl | later
        · exact List.not_mem_nil
        · exact ih later
      · rename_i other
        obtain ⟨first, rest, eq⟩ := List.exists_cons_of_ne_nil (List.splitOn_ne_nil x cs)
        rw [List.splitOn] at eq
        rw [eq, List.modifyHead_cons] at among
        have parts : ∀ part ∈ first :: rest, x ∉ part := by
          intro part member
          exact ih (by rwa [List.splitOn, eq])
        rcases List.mem_cons.1 among with rfl | later
        · rw [List.mem_cons, not_or]
          refine ⟨?_, parts first List.mem_cons_self⟩
          rintro rfl
          exact other BEq.rfl
        · exact parts part (List.mem_cons_of_mem _ later)

theorem map_intercalate (f : α → β) :
    ([x].intercalate parts).map f = [f x].intercalate (parts.map (·.map f)) := by
  induction parts with
  | nil => rfl
  | cons part rest ih =>
      cases rest with
      | nil => simp
      | cons next rest =>
          rw [List.intercalate_cons_cons, List.map_append, List.map_append, ih]
          simp

end Intercalate

namespace Ipv4

/-! ## Parts -/

/-- The spellings of a number in a host: decimal, octal after `0`, hexadecimal after `0x`. -/
inductive PartSpelled : List Char → Nat → Prop where
  | zero : PartSpelled ['0'] 0
  | decimal {d : Char} {cs : List Char} {n : Nat} (front : d ≠ '0') (digits : Numeral 10 (d :: cs) n) :
      PartSpelled (d :: cs) n
  | octal {d : Char} {cs : List Char} {n : Nat} (digits : Numeral 8 (d :: cs) n) : PartSpelled ('0' :: d :: cs) n
  | hexadecimal {x : Char} {cs : List Char} {n : Nat} (mark : x = 'x' ∨ x = 'X') (digits : Numeral 16 cs n) :
      PartSpelled ('0' :: x :: cs) n

/-- The characters that numbers in hosts are written with. -/
def isPartChar (c : Char) : Bool := isHexDigit c || c = 'x' || c = 'X'

namespace PartSpelled

variable {cs : List Char} {n : Nat}

theorem ne_nil (h : PartSpelled cs n) : cs ≠ [] := by
  cases h <;> exact List.cons_ne_nil _ _

theorem chars (h : PartSpelled cs n) : ∀ c ∈ cs, isPartChar c = true := by
  have zero : isPartChar '0' = true := by decide
  have inside {base : Nat} {cs : List Char} {n : Nat} (digits : Numeral base cs n) : ∀ c ∈ cs, isPartChar c = true := by
    intro c member
    simp [isPartChar, digits.digits c member]
  cases h with
  | zero => exact List.forall_mem_singleton.2 zero
  | decimal front digits => exact inside digits
  | octal digits => exact List.forall_mem_cons.2 ⟨zero, inside digits⟩
  | hexadecimal mark digits =>
      refine List.forall_mem_cons.2 ⟨zero, List.forall_mem_cons.2 ⟨?_, inside digits⟩⟩
      rcases mark with rfl | rfl <;> decide

theorem toLower (h : PartSpelled cs n) : PartSpelled (cs.map Char.toLower) n := by
  cases h with
  | zero => exact .zero
  | @decimal d cs n front digits =>
      have kept : d ≠ '0' → d.toLower ≠ '0' :=
        hexDigit_cases (P := fun c => c ≠ '0' → c.toLower ≠ '0') (by decide)
          (digits.digits d List.mem_cons_self).1
      exact .decimal (kept front) digits.toLower
  | octal digits => exact .octal digits.toLower
  | hexadecimal mark digits =>
      refine .hexadecimal (.inl ?_) digits.toLower
      rcases mark with rfl | rfl <;> decide

/-- A number is read as it is spelled. -/
theorem readPart?_eq (h : PartSpelled cs n) : readPart? cs = some n := by
  cases h with
  | zero => decide
  | decimal front digits =>
      unfold readPart?
      split
      · contradiction
      · next eq => exact absurd (List.cons.inj eq).1 front
      · next eq => exact absurd (List.cons.inj eq).1 front
      · next eq => exact absurd (List.cons.inj eq).1 front
      · exact digits.readDigits?_eq
  | @octal d cs n digits =>
      have digit := (digits.digits d List.mem_cons_self).1
      unfold readPart?
      split
      · contradiction
      · next eq =>
          cases eq
          exact absurd digit (by decide)
      · next eq =>
          cases eq
          exact absurd digit (by decide)
      · next eq =>
          cases eq
          exact digits.readDigits?_eq
      · next other => exact absurd rfl (other d cs)
  | hexadecimal mark digits =>
      rcases mark with rfl | rfl
      · exact digits.readDigits?_eq
      · exact digits.readDigits?_eq

end PartSpelled

/-! ## IPv4 addresses -/

/-- The spellings of an address: one to four numbers with dots between, and perhaps a dot at the end.  All numbers but
the last are bytes from the left; the last fills the bytes that are left. -/
inductive Spelled : List Char → Ipv4 → Prop where
  | intro {texts : List (List Char)} {bytes : List Nat} {last : Nat} {dot : List Char} {a : Ipv4}
      (parts : List.Forall₂ PartSpelled texts (bytes ++ [last])) (count : bytes.length ≤ 3)
      (byte : ∀ b ∈ bytes, b < 256) (rest : last < Nat.pow 256 (4 - bytes.length))
      (value : a.bits.val = bytes.foldl (fun n b => 256 * n + b) 0 * Nat.pow 256 (4 - bytes.length) + last)
      (ending : dot = [] ∨ dot = ['.']) : Spelled (['.'].intercalate texts ++ dot) a

section Parts

variable {texts : List (List Char)} {numbers : List Nat}

theorem parts_ne_nil (h : List.Forall₂ PartSpelled texts numbers) : ∀ text ∈ texts, text ≠ [] := by
  induction h with
  | nil => exact nofun
  | cons part _ ih => exact List.forall_mem_cons.2 ⟨part.ne_nil, ih⟩

theorem parts_chars (h : List.Forall₂ PartSpelled texts numbers) : ∀ text ∈ texts, ∀ c ∈ text, isPartChar c = true := by
  induction h with
  | nil => exact nofun
  | cons part _ ih => exact List.forall_mem_cons.2 ⟨part.chars, ih⟩

theorem mapM_readPart? (h : List.Forall₂ PartSpelled texts numbers) : texts.mapM readPart? = some numbers := by
  induction h with
  | nil => rfl
  | cons part _ ih => simp [part.readPart?_eq, ih]

theorem parts_toLower (h : List.Forall₂ PartSpelled texts numbers) :
    List.Forall₂ PartSpelled (texts.map (·.map Char.toLower)) numbers := by
  induction h with
  | nil => exact .nil
  | cons part _ ih => exact .cons part.toLower ih

/-- A text of parts is split into them; a dot at the end leaves an empty part. -/
theorem splitOn_parts (h : List.Forall₂ PartSpelled texts numbers) (some : texts ≠ []) :
    (['.'].intercalate texts).splitOn '.' = texts := by
  apply List.splitOn_intercalate _ _ some
  intro text member dot
  exact absurd (parts_chars h text member '.' dot) (by decide)

end Parts

theorem bits_lt (a : Ipv4) : a.bits.val < 0x100000000 := Nat.lt_of_lt_of_eq a.bits.isLt (by decide)

theorem ofNat_eq {n : Nat} {a : Ipv4} (same : n % Nat.pow 2 32 = a.bits.val) : ofNat n = a := by
  cases a
  exact congrArg mk (Fin.ext same)

theorem ofNat_bits (a : Ipv4) : ofNat a.bits.val = a := ofNat_eq (Nat.mod_eq_of_lt a.bits.isLt)

/-- Bytes from a place on are summed up by their places; what comes before them is worth as much as they leave it. -/
theorem sum_places {bytes : List Nat} {place : Nat} (count : place + bytes.length ≤ 4) (sum front : Nat) :
    ((bytes.zipIdx place).map fun x => x.1 * Nat.pow 256 (3 - x.2)).foldl (· + ·) sum +
        front * Nat.pow 256 (4 - place) =
      sum + bytes.foldl (fun n b => 256 * n + b) front * Nat.pow 256 (4 - place - bytes.length) := by
  induction bytes generalizing place sum front with
  | nil => rfl
  | cons b rest ih =>
      rw [List.length_cons] at count
      obtain ⟨left, before⟩ : ∃ left, 4 - place = left + 1 := ⟨3 - place, by omega⟩
      have here : 3 - place = left := by omega
      have after : 4 - (place + 1) = left := by omega
      have same : left + 1 - (rest.length + 1) = left - rest.length := by omega
      have worth : front * Nat.pow 256 (left + 1) = 256 * front * Nat.pow 256 left := by
        rw [Nat.mul_comm 256 front, Nat.mul_assoc, Nat.mul_comm 256]
        rfl
      have next := @ih (place + 1) (by omega) (sum + b * Nat.pow 256 left) (256 * front + b)
      rw [after, Nat.add_mul] at next
      simp only [List.zipIdx_cons, List.map_cons, List.foldl_cons, List.length_cons, here, before, same, worth]
      omega

/-- The address that numbers give is the one that they spell. -/
theorem ofNumbers?_eq {bytes : List Nat} {last : Nat} {a : Ipv4} (count : bytes.length ≤ 3) (byte : ∀ b ∈ bytes, b < 256)
    (rest : last < Nat.pow 256 (4 - bytes.length))
    (value : a.bits.val = bytes.foldl (fun n b => 256 * n + b) 0 * Nat.pow 256 (4 - bytes.length) + last) :
    ofNumbers? (bytes ++ [last]) = some a := by
  have fits : ¬ (3 < bytes.reverse.length ∨ Nat.pow 256 (4 - bytes.reverse.length) ≤ last ∨
      bytes.reverse.any (255 < ·) = true) := by
    rintro (many | large | wide)
    · rw [List.length_reverse] at many
      omega
    · rw [List.length_reverse] at large
      exact absurd rest (Nat.not_lt.2 large)
    · obtain ⟨b, member, beyond⟩ := List.any_eq_true.1 wide
      have small := byte b (List.mem_reverse.1 member)
      have beyond := of_decide_eq_true beyond
      omega
  rw [ofNumbers?, List.reverse_append, List.reverse_singleton, List.singleton_append]
  simp only [if_neg fits, List.dropLast_concat]
  have sum := @sum_places bytes 0 (by omega) last 0
  rw [Nat.zero_mul, Nat.add_zero, Nat.add_comm last, Nat.sub_zero, ← value] at sum
  rw [sum, ofNat_bits]

/-- A text of parts has these parts, whether or not a dot follows. -/
theorem parts_eq {texts : List (List Char)} {numbers : List Nat} (h : List.Forall₂ PartSpelled texts numbers)
    (some : texts ≠ []) {dot : List Char} (ending : dot = [] ∨ dot = ['.']) :
    parts (['.'].intercalate texts ++ dot) = texts := by
  rcases ending with rfl | rfl
  · have last : texts.getLast? ≠ Option.some [] := by
      intro empty
      exact parts_ne_nil h [] (List.mem_of_getLast? empty) rfl
    rw [List.append_nil, parts, splitOn_parts h some]
    simp only [if_neg last]
  · rw [parts, List.splitOn_append_cons_self, splitOn_parts h some]
    simp

/-- The last of the numbers is spelled by the last part. -/
theorem getLast?_parts {texts : List (List Char)} {bytes : List Nat} {last : Nat}
    (h : List.Forall₂ PartSpelled texts (bytes ++ [last])) : ∃ text, texts.getLast? = some text ∧ PartSpelled text last := by
  induction bytes generalizing texts with
  | nil =>
      cases h with
      | cons part none =>
          cases none
          exact ⟨_, rfl, part⟩
  | cons b bytes ih =>
      cases h with
      | cons _ rest =>
          obtain ⟨text, found, part⟩ := ih rest
          exact ⟨text, by simp [List.getLast?_cons, found], part⟩

theorem some_parts {texts : List (List Char)} {bytes : List Nat} {last : Nat}
    (h : List.Forall₂ PartSpelled texts (bytes ++ [last])) : texts ≠ [] := by
  obtain ⟨text, found, -⟩ := getLast?_parts h
  exact List.ne_nil_of_mem (List.mem_of_getLast? found)

namespace Spelled

variable {cs : List Char} {a : Ipv4}

theorem chars (h : Spelled cs a) : ∀ c ∈ cs, isPartChar c = true ∨ c = '.' := by
  cases h with
  | intro parts count byte rest value ending =>
      intro c member
      rcases List.mem_append.1 member with within | dot
      · rcases mem_intercalate within with ⟨text, part, inside⟩ | dot
        · exact .inl (parts_chars parts text part c inside)
        · exact .inr dot
      · rcases ending with rfl | rfl
        · cases dot
        · exact .inr (List.mem_singleton.1 dot)

theorem toLower (h : Spelled cs a) : Spelled (cs.map Char.toLower) a := by
  cases h with
  | intro parts count byte rest value ending =>
      rw [List.map_append, map_intercalate]
      refine .intro (parts_toLower parts) count byte rest value ?_
      rcases ending with rfl | rfl
      · exact .inl rfl
      · exact .inr rfl

theorem endsInNumber_eq (h : Spelled cs a) : endsInNumber cs = true := by
  cases h with
  | intro parts count byte rest value ending =>
      obtain ⟨text, found, part⟩ := getLast?_parts parts
      rw [endsInNumber, parts_eq parts (some_parts parts) ending, found]
      simp [part.readPart?_eq]

/-- An address is read as it is spelled. -/
theorem ofHost?_eq (h : Spelled cs a) : ofHost? cs = some a := by
  cases h with
  | intro parts count byte rest value ending =>
      rw [ofHost?, parts_eq parts (some_parts parts) ending, mapM_readPart? parts, Option.bind_some]
      exact ofNumbers?_eq count byte rest value

end Spelled

/-! ## The plain form -/

/-- The bytes make up the address. -/
theorem octets_sum (a : Ipv4) :
    a.octet 0 * Nat.pow 256 3 + a.octet 1 * Nat.pow 256 2 + a.octet 2 * 256 + a.octet 3 = a.bits.val := by
  have small := a.bits_lt
  have place₀ : Nat.pow 256 3 = 16777216 := by decide
  have place₁ : Nat.pow 256 2 = 65536 := by decide
  have first : a.octet 0 = a.bits.val / Nat.pow 256 3 % 256 := rfl
  have second : a.octet 1 = a.bits.val / Nat.pow 256 2 % 256 := rfl
  have third : a.octet 2 = a.bits.val / 256 % 256 := rfl
  have fourth : a.octet 3 = a.bits.val / 1 % 256 := rfl
  rw [first, second, third, fourth]
  rw [place₀, place₁]
  omega

theorem octet_lt (a : Ipv4) (position : Nat) : a.octet position < 256 := Nat.mod_lt _ (by decide)

theorem toString_toList (n : Nat) : (toString n).toList = Nat.toDigits 10 n := Nat.toList_repr

theorem readOctet?_toString {n : Nat} (small : n < 256) : readOctet? (toString n).toList = some n := by
  have table : ∀ n < 256, readOctet? (Nat.toDigits 10 n) = some n := by decide +kernel
  rw [toString_toList]
  exact table n small

theorem render_toList (a : Ipv4) : a.render.toList = ['.'].intercalate (a.octets.map fun n => (toString n).toList) := by
  rw [render, String.toList_intercalate, List.map_map]
  rfl

/-- The text of an address is read as the address. -/
theorem readDotted?_render (a : Ipv4) : readDotted? a.render.toList = some a := by
  have plain : ∀ text ∈ a.octets.map fun n => (toString n).toList, '.' ∉ text := by
    intro text member dot
    obtain ⟨n, -, rfl⟩ := List.mem_map.1 member
    rw [toString_toList] at dot
    exact absurd (Nat.isDigit_of_mem_toDigits (by decide) (by decide) dot) (by decide)
  have numbers : (a.octets.map fun n => (toString n).toList).mapM readOctet? = some a.octets := by
    simp only [octets, List.map_cons, List.map_nil, List.mapM_cons, List.mapM_nil, readOctet?_toString (a.octet_lt _)]
    rfl
  rw [readDotted?, render_toList, List.splitOn_intercalate _ plain (by simp [octets]), numbers]
  change some (ofNat (a.octet 0 * Nat.pow 256 3 + a.octet 1 * Nat.pow 256 2 + a.octet 2 * 256 + a.octet 3)) = some a
  rw [octets_sum, ofNat_bits]

theorem render_chars (a : Ipv4) : ∀ c ∈ a.render.toList, c.isDigit = true ∨ c = '.' := by
  intro c member
  rw [render_toList] at member
  rcases mem_intercalate member with ⟨text, part, inside⟩ | dot
  · obtain ⟨n, -, rfl⟩ := List.mem_map.1 part
    rw [toString_toList] at inside
    exact .inl (Nat.isDigit_of_mem_toDigits (by decide) (by decide) inside)
  · exact .inr dot

end Ipv4

namespace Ipv6

/-! ## IPv6 addresses -/

/-- The spellings of a group: one to four hexadecimal digits. -/
structure GroupSpelled (cs : List Char) (n : Nat) : Prop where
  digits : Numeral 16 cs n
  filled : cs ≠ []
  short : cs.length ≤ 4

/-- Groups with colons between; an IPv4 address may stand for the last two if `dotted` allows it. -/
inductive RunSpelled (dotted : Bool) : List Char → List Nat → Prop where
  | single {cs : List Char} {n : Nat} (group : GroupSpelled cs n) : RunSpelled dotted cs [n]
  | address (v4 : Ipv4) (allowed : dotted = true) :
      RunSpelled dotted v4.render.toList [v4.bits.val / 65536, v4.bits.val % 65536]
  | more {cs ds : List Char} {n : Nat} {ns : List Nat} (group : GroupSpelled cs n) (rest : RunSpelled dotted ds ns) :
      RunSpelled dotted (cs ++ ':' :: ds) (n :: ns)

/-- Groups on one side of a gap; there may be none. -/
inductive SideSpelled (dotted : Bool) : List Char → List Nat → Prop where
  | empty : SideSpelled dotted [] []
  | filled {cs : List Char} {ns : List Nat} (run : RunSpelled dotted cs ns) : SideSpelled dotted cs ns

/-- The spellings of an address: all its groups, or the groups on both sides of a gap that stands for zeros. -/
inductive Spelled : List Char → Ipv6 → Prop where
  | full {cs : List Char} {a : Ipv6} (run : RunSpelled true cs a.groups) : Spelled cs a
  | gap {left right : List Char} {high low : List Nat} {zeros : Nat} {a : Ipv6} (before : SideSpelled false left high)
      (after : SideSpelled true right low) (some : 0 < zeros)
      (groups : a.groups = high ++ List.replicate zeros 0 ++ low) : Spelled (left ++ ':' :: ':' :: right) a

section Runs

variable {dotted : Bool} {cs : List Char} {n : Nat} {ns : List Nat}

theorem GroupSpelled.no_mark (h : GroupSpelled cs n) {mark : Char} (foreign : isHexDigit mark = false) : mark ∉ cs := by
  intro member
  rw [(h.digits.digits mark member).1] at foreign
  cases foreign

theorem GroupSpelled.readGroup?_eq (h : GroupSpelled cs n) : readGroup? cs = some n := by
  have digits : cs.all isHexDigit = true := List.all_eq_true.2 fun c member => (h.digits.digits c member).1
  rw [readGroup?, if_pos ⟨List.length_pos_iff.2 h.filled, h.short, digits⟩, h.digits.ofHexDigits_eq]

theorem RunSpelled.chars (h : RunSpelled dotted cs ns) : ∀ c ∈ cs, isHexDigit c = true ∨ c = '.' ∨ c = ':' := by
  induction h with
  | single group => exact fun c member => .inl (group.digits.digits c member).1
  | address v4 allowed =>
      intro c member
      rcases v4.render_chars c member with digit | dot
      · exact .inl (by simp [isHexDigit, digit])
      · exact .inr (.inl dot)
  | more group rest ih =>
      intro c member
      rcases List.mem_append.1 member with front | later
      · exact .inl (group.digits.digits c front).1
      · rcases List.mem_cons.1 later with colon | later
        · exact .inr (.inr colon)
        · exact ih c later

/-- A run starts with no colon. -/
theorem RunSpelled.front (h : RunSpelled dotted cs ns) : ∃ c rest, cs = c :: rest ∧ c ≠ ':' := by
  have digits {cs : List Char} {n : Nat} (group : GroupSpelled cs n) : ∃ c rest, cs = c :: rest ∧ c ≠ ':' := by
    obtain ⟨c, rest, rfl⟩ := List.exists_cons_of_ne_nil group.filled
    refine ⟨c, rest, rfl, ?_⟩
    rintro rfl
    exact group.no_mark (by decide) List.mem_cons_self
  cases h with
  | single group => exact digits group
  | address v4 allowed =>
      have read := v4.readDotted?_render
      cases text : v4.render.toList with
      | nil =>
          rw [text] at read
          cases read
      | cons c rest =>
          refine ⟨c, rest, rfl, ?_⟩
          rintro rfl
          exact absurd (v4.render_chars ':' (by rw [text]; exact List.mem_cons_self)) (by decide)
  | more group rest =>
      obtain ⟨c, cs, rfl, apart⟩ := digits group
      exact ⟨c, _, rfl, apart⟩

/-- A run is read as it is spelled. -/
theorem RunSpelled.readParts?_eq (h : RunSpelled dotted cs ns) : readParts? dotted (cs.splitOn ':') = some ns := by
  induction h with
  | single group =>
      have plain : ('.' ∈ _) = False := eq_false (group.no_mark (by decide))
      rw [List.splitOn_eq_singleton (group.no_mark (by decide)), readParts?]
      simp [plain, group.readGroup?_eq]
  | address v4 allowed =>
      have plain : ':' ∉ v4.render.toList := fun colon => absurd (v4.render_chars ':' colon) (by decide)
      have dot : v4.render.toList.contains '.' = true := by
        rw [v4.render_toList]
        simp [Ipv4.octets]
      rw [List.splitOn_eq_singleton plain, readParts?, allowed, dot, v4.readDotted?_render]
      rfl
  | more group rest ih =>
      rw [List.splitOn_append_cons_self_of_not_mem (group.no_mark (by decide))]
      obtain ⟨next, others, eq⟩ := List.exists_cons_of_ne_nil (List.splitOn_ne_nil ':' _)
      rw [eq] at ih ⊢
      rw [readParts?, group.readGroup?_eq, ih]
      · rfl
      · exact List.cons_ne_nil _ _

/-- A character is before the gap unless it is the first of two colons. -/
theorem splitGap?_cons {c : Char} {rest : List Char} (apart : ¬ (c = ':' ∧ rest.head? = some ':')) :
    splitGap? (c :: rest) = (splitGap? rest).map fun sides => (c :: sides.1, sides.2) := by
  rw [splitGap?.eq_def]
  split
  · next eq =>
      cases eq
      exact absurd ⟨rfl, rfl⟩ apart
  · next eq =>
      cases eq
      rfl
  · next eq => cases eq

theorem splitGap?_append {rest : List Char} (plain : ':' ∉ cs) :
    splitGap? (cs ++ rest) = (splitGap? rest).map fun sides => (cs ++ sides.1, sides.2) := by
  induction cs with
  | nil => simp
  | cons c cs ih =>
      rw [List.mem_cons, not_or] at plain
      rw [List.cons_append, splitGap?_cons fun both => plain.1 both.1.symm, ih plain.2, Option.map_map]
      rfl

/-- No gap is inside a run. -/
theorem RunSpelled.splitGap?_append (h : RunSpelled dotted cs ns) (rest : List Char) :
    splitGap? (cs ++ rest) = (splitGap? rest).map fun sides => (cs ++ sides.1, sides.2) := by
  induction h with
  | single group => exact Ipv6.splitGap?_append (group.no_mark (by decide))
  | address v4 allowed =>
      exact Ipv6.splitGap?_append fun colon => absurd (v4.render_chars ':' colon) (by decide)
  | @more cs ds n ns group later ih =>
      have single : ¬ (':' = ':' ∧ (ds ++ rest).head? = some ':') := by
        obtain ⟨c, ds, rfl, apart⟩ := later.front
        simpa using apart
      rw [List.append_assoc, Ipv6.splitGap?_append (group.no_mark (by decide)), List.cons_append,
        splitGap?_cons single, ih, Option.map_map, Option.map_map]
      simp only [List.append_assoc, List.cons_append]
      rfl

theorem SideSpelled.readSide?_eq (h : SideSpelled dotted cs ns) : readSide? dotted cs = some ns := by
  cases h with
  | empty => rfl
  | filled run =>
      obtain ⟨c, rest, rfl, -⟩ := run.front
      exact run.readParts?_eq

theorem SideSpelled.chars (h : SideSpelled dotted cs ns) : ∀ c ∈ cs, isHexDigit c = true ∨ c = '.' ∨ c = ':' := by
  cases h with
  | empty => exact nofun
  | filled run => exact run.chars

theorem Spelled.chars {a : Ipv6} (h : Spelled cs a) : ∀ c ∈ cs, isHexDigit c = true ∨ c = '.' ∨ c = ':' := by
  cases h with
  | full run => exact run.chars
  | gap before after filled groups =>
      intro c member
      rcases List.mem_append.1 member with left | right
      · exact before.chars c left
      · rcases List.mem_cons.1 right with colon | right
        · exact .inr (.inr colon)
        · rcases List.mem_cons.1 right with colon | right
          · exact .inr (.inr colon)
          · exact after.chars c right

end Runs

theorem bits_lt (a : Ipv6) : a.bits.val < 0x100000000000000000000000000000000 :=
  Nat.lt_of_lt_of_eq a.bits.isLt (by decide)

theorem eq_of_val {a b : Ipv6} (same : a.bits.val = b.bits.val) : a = b := by
  cases a
  cases b
  exact congrArg mk (Fin.ext same)

/-- A number is put together again from its quotient and its remainder. -/
theorem quotient_step (n k : Nat) :
    n / Nat.pow 65536 (k + 1) * 65536 + n / Nat.pow 65536 k % 65536 = n / Nat.pow 65536 k := by
  have quotient : n / Nat.pow 65536 (k + 1) = n / Nat.pow 65536 k / 65536 := (Nat.div_div_eq_div_mul ..).symm
  rw [quotient]
  exact Nat.div_add_mod' _ _

/-- The groups make up the address. -/
theorem ofGroups_groups (a : Ipv6) : ofGroups a.groups = a := by
  have step (k : Nat) : a.bits.val / Nat.pow 65536 (k + 1) * 65536 + a.bits.val / Nat.pow 65536 k % 65536 =
      a.bits.val / Nat.pow 65536 k := quotient_step a.bits.val k
  have none : a.bits.val / Nat.pow 65536 8 = 0 := Nat.div_eq_of_lt a.bits.isLt
  have last : a.bits.val / Nat.pow 65536 1 * 65536 + a.bits.val / 1 % 65536 = a.bits.val / 1 := step 0
  have groups : a.groups = [a.bits.val / Nat.pow 65536 7 % 65536, a.bits.val / Nat.pow 65536 6 % 65536,
      a.bits.val / Nat.pow 65536 5 % 65536, a.bits.val / Nat.pow 65536 4 % 65536, a.bits.val / Nat.pow 65536 3 % 65536,
      a.bits.val / Nat.pow 65536 2 % 65536, a.bits.val / Nat.pow 65536 1 % 65536, a.bits.val / 1 % 65536] := rfl
  have sum : a.groups.foldl (fun n g => n * 65536 + g) 0 = a.bits.val := by
    rw [groups]
    simp only [List.foldl_cons, List.foldl_nil]
    rw [← none, step 7, step 6, step 5, step 4, step 3, step 2, step 1, last, Nat.div_one]
  rw [ofGroups, sum]
  exact eq_of_val (Nat.mod_eq_of_lt a.bits.isLt)

theorem groups_length (a : Ipv6) : a.groups.length = 8 := by simp [groups]

/-- An address is read as it is spelled. -/
theorem Spelled.read?_eq {cs : List Char} {a : Ipv6} (h : Spelled cs a) : read? cs = some a := by
  cases h with
  | full run =>
      have whole : splitGap? cs = none := by simpa [splitGap?] using run.splitGap?_append []
      have side : readSide? true cs = some a.groups := (SideSpelled.filled run).readSide?_eq
      rw [read?, whole]
      simp [side, groups_length, ofGroups_groups]
  | @gap left right high low zeros _ before after filled groups =>
      have split : splitGap? (left ++ ':' :: ':' :: right) = some (left, right) := by
        cases before with
        | empty => rfl
        | filled run => simp [run.splitGap?_append, splitGap?]
      have count := congrArg List.length groups
      rw [groups_length, List.length_append, List.length_append, List.length_replicate] at count
      have fits : high.length + low.length < 8 := by omega
      have rest : 8 - high.length - low.length = zeros := by omega
      rw [read?, split]
      simp only [before.readSide?_eq, after.readSide?_eq, Option.bind_eq_bind, Option.bind_some, if_pos fits, rest,
        ← groups, ofGroups_groups]

end Ipv6

end WorkflowEngine
