/-
Module: WorkflowEngine.Proofs.WildcardNames
Layer: Proofs
Purpose: Names that start with an address, as services hand them out that resolve every such name to the address in
  it.  Such a name is screened by its text, and the verdict is that of the address, unless the last label names a local
  network (`isBlockedName_wildcard`).
Imports: WorkflowEngine.Network.Screening, WorkflowEngine.Proofs.AddressText
Trusted boundary: none
Main exports: prefix_dot_iff, suffix_dot_iff, WildcardName, WildcardName.screened_eq, isBlockedName_wildcard,
  isBlockedName_wildcard_private
-/
import WorkflowEngine.Network.Screening
import WorkflowEngine.Proofs.AddressText

namespace WorkflowEngine

/-! ## Labels -/

section Labels

variable {s t rest rest' : List Char}

/-- Names that start alike have the same first label. -/
theorem prefix_dot_iff (plain : '.' ∉ s) (plain' : '.' ∉ t) :
    s ++ '.' :: rest <+: t ++ '.' :: rest' ↔ s = t ∧ rest <+: rest' := by
  induction s generalizing t with
  | nil =>
      cases t with
      | nil => simp
      | cons d t =>
          rw [List.mem_cons, not_or] at plain'
          simp [plain'.1]
  | cons c s ih =>
      rw [List.mem_cons, not_or] at plain
      cases t with
      | nil => simp [Ne.symm plain.1]
      | cons d t =>
          rw [List.mem_cons, not_or] at plain'
          rw [List.cons_append, List.cons_append, List.cons_prefix_cons, ih plain.2 plain'.2, List.cons.injEq,
            and_assoc]

/-- Names that end alike have the same last label. -/
theorem suffix_dot_iff (plain : '.' ∉ s) (plain' : '.' ∉ t) : '.' :: s <:+ rest ++ '.' :: t ↔ s = t := by
  have reversed : s.reverse ++ '.' :: [] <+: t.reverse ++ '.' :: rest.reverse ↔
      s.reverse = t.reverse ∧ [] <+: rest.reverse :=
    prefix_dot_iff (List.mem_reverse.not.2 plain) (List.mem_reverse.not.2 plain')
  rw [← List.reverse_prefix, List.reverse_cons, List.reverse_append, List.reverse_cons, List.append_assoc,
    List.singleton_append, reversed]
  simp

theorem dot_not_mem_toLower (plain : '.' ∉ s) : '.' ∉ s.map Char.toLower := by
  intro dot
  obtain ⟨c, inside, lower⟩ := List.mem_map.1 dot
  rw [(toLower_eq_iff (by decide)).1 lower] at inside
  exact plain inside

theorem intercalate_append {parts more : List (List Char)} (filled : parts ≠ []) (filled' : more ≠ []) :
    ['.'].intercalate (parts ++ more) = ['.'].intercalate parts ++ '.' :: ['.'].intercalate more := by
  induction parts with
  | nil => exact absurd rfl filled
  | cons part parts ih =>
      cases parts with
      | nil => simp [List.intercalate_cons_of_ne_nil filled']
      | cons next parts =>
          have later := ih (List.cons_ne_nil _ _)
          rw [List.cons_append] at later
          rw [List.cons_append, List.cons_append, List.intercalate_cons_cons, List.intercalate_cons_cons, later]
          simp

end Labels

namespace Ipv4

/-! ## Numbers in a name -/

/-- The text of a number in an address. -/
def octetText (n : Nat) : List Char := Nat.toDigits 10 n

theorem octetText_inj {m n : Nat} : octetText m = octetText n ↔ m = n := toDigits_inj

theorem octetText_digits (n : Nat) : ∀ c ∈ octetText n, c.isDigit = true := by
  intro c member
  exact Nat.isDigit_of_mem_toDigits (by decide) (by decide) member

theorem octetText_plain (n : Nat) {mark : Char} (foreign : mark.isDigit = false) : mark ∉ octetText n := by
  intro member
  rw [octetText_digits n mark member] at foreign
  cases foreign

theorem octetText_toLower (n : Nat) : (octetText n).map Char.toLower = octetText n := by
  have same : ∀ c ∈ octetText n, c.toLower = id c := by
    intro c member
    rcases toLower_cases c with ⟨code, low, high, rfl⟩ | same
    · have table : ∀ n < 91, 65 ≤ n → (Char.ofNat n).isDigit = false := by decide
      exact absurd member (octetText_plain n (table code (by omega) low))
    · exact same
  rw [List.map_congr_left same, List.map_id]

/-- A number in an address is read as it is written. -/
theorem readNatural?_octetText {n : Nat} (small : n < 256) : readNatural? 256 (octetText n) = some n := by
  have table : ∀ n < 256, readNatural? 256 (Nat.toDigits 10 n) = some n := by decide +kernel
  exact table n small

theorem render_eq (a : Ipv4) : a.render.toList = ['.'].intercalate (a.octets.map octetText) := by
  rw [render_toList]
  simp only [toString_toList]
  rfl

theorem length_of_mapM {f : List Char → Option Nat} {parts : List (List Char)} {numbers : List Nat}
    (read : parts.mapM f = some numbers) : numbers.length = parts.length := by
  induction parts generalizing numbers with
  | nil =>
      cases read
      rfl
  | cons part parts ih =>
      simp only [List.mapM_cons, Option.bind_eq_bind, Option.bind_eq_some_iff, Option.pure_def,
        Option.some.injEq] at read
      obtain ⟨number, -, more, later, rfl⟩ := read
      rw [List.length_cons, List.length_cons, ih later]

/-- What is read as an address has four parts. -/
theorem readDotted?_eq_none {parts : List (List Char)} (plain : ∀ part ∈ parts, '.' ∉ part) (many : 4 < parts.length) :
    readDotted? (['.'].intercalate parts) = none := by
  have filled : parts ≠ [] := List.ne_nil_of_length_pos (by omega)
  rw [readDotted?, List.splitOn_intercalate _ plain filled]
  split
  · rename_i read
    have count := length_of_mapM read
    simp only [List.length_cons, List.length_nil] at count
    omega
  · rfl

end Ipv4

namespace Ipv6

/-- Where the first part between colons has a dot in it, no groups are read, unless that part is all there is. -/
theorem readParts?_eq_none {dotted : Bool} {front rest : List Char} (plain : ':' ∉ front) (dot : '.' ∈ front)
    (whole : dotted = true → ':' ∉ rest → Ipv4.readDotted? (front ++ rest) = none) :
    readParts? dotted ((front ++ rest).splitOn ':') = none := by
  have noGroup (more : List Char) : readGroup? (front ++ more) = none := by
    rw [readGroup?, if_neg]
    rintro ⟨-, -, digits⟩
    have digit := List.all_eq_true.1 digits '.' (List.mem_append_left _ dot)
    cases digit
  by_cases colon : ':' ∈ rest
  · obtain ⟨before, after, rfl, first⟩ := List.eq_append_cons_of_mem colon
    obtain ⟨next, others, eq⟩ := List.exists_cons_of_ne_nil (List.splitOn_ne_nil ':' after)
    rw [← List.append_assoc, List.splitOn_append_cons_self_of_not_mem (by simp [plain, first]), eq, readParts?,
      noGroup before]
    · rfl
    · exact List.cons_ne_nil _ _
  · rw [List.splitOn_eq_singleton (by simp [plain, colon]), readParts?]
    split
    · rename_i both
      rw [whole (by simpa using (Bool.and_eq_true_iff.1 both).1) colon]
      rfl
    · rw [noGroup rest]
      rfl

/-- A text that starts like an IPv4 address is no IPv6 address, unless it is that address in full. -/
theorem read?_eq_none {front rest : List Char} (plain : ':' ∉ front) (dot : '.' ∈ front)
    (whole : Ipv4.readDotted? (front ++ rest) = none) : read? (front ++ rest) = none := by
  have filled (more : List Char) : (front ++ more).isEmpty = false := by
    rw [List.isEmpty_eq_false_iff]
    exact List.ne_nil_of_mem (List.mem_append_left _ dot)
  rw [read?, splitGap?_append plain]
  cases splitGap? rest with
  | none =>
      have side : readSide? true (front ++ rest) = none := by
        rw [readSide?, filled rest, if_neg (by decide)]
        exact readParts?_eq_none plain dot fun _ _ => whole
      simp [side]
  | some sides =>
      have side : readSide? false (front ++ sides.1) = none := by
        rw [readSide?, filled sides.1, if_neg (by decide)]
        exact readParts?_eq_none plain dot (by simp)
      simp [side]

end Ipv6

/-! ## Names that start with an address -/

/-- A name that starts with the text of an address.  At least one more label follows, and dots may stand at the end. -/
structure WildcardName where
  address : Ipv4
  labels : List (List Char)
  dots : Nat
  labels_ne_nil : labels ≠ []
  label_ne_nil : ∀ label ∈ labels, label ≠ []
  label_plain : ∀ label ∈ labels, '.' ∉ label

namespace WildcardName

variable (n : WildcardName)

/-- The name without the dots at its end. -/
def chars : List Char := n.address.render.toList ++ '.' :: ['.'].intercalate n.labels

/-- The name. -/
def text : String := String.ofList (n.chars ++ List.replicate n.dots '.')

/-- The last label. -/
def last : List Char := n.labels.getLast n.labels_ne_nil

/-- What the name is screened as: no dots at its end, and no capital letters. -/
def screened : List Char := n.chars.map Char.toLower

theorem last_mem : n.last ∈ n.labels := List.getLast_mem _

/-- The name ends in its last label. -/
theorem chars_eq_last : ∃ front, n.chars = front ++ '.' :: n.last := by
  have labels : n.labels = n.labels.dropLast ++ [n.last] := (List.dropLast_append_getLast n.labels_ne_nil).symm
  rw [chars, labels]
  cases n.labels.dropLast with
  | nil => exact ⟨_, by rw [List.nil_append, List.intercalate_singleton]⟩
  | cons first more =>
      rw [intercalate_append (List.cons_ne_nil _ _) (List.cons_ne_nil _ _), List.intercalate_singleton]
      exact ⟨n.address.render.toList ++ '.' :: ['.'].intercalate (first :: more), by simp⟩

/-- Dots at the end and the case of letters make no difference. -/
theorem screened_eq :
    ((n.text.toList.reverse.dropWhile (· = '.')).reverse).map Char.toLower = n.screened := by
  have ends : ∀ c ∈ List.replicate n.dots '.', decide (c = '.') = true := by
    intro c member
    rw [List.eq_of_mem_replicate member]
    rfl
  obtain ⟨front, eq⟩ := n.chars_eq_last
  obtain ⟨before, c, label⟩ := List.eq_nil_or_concat n.last |>.resolve_left (n.label_ne_nil _ n.last_mem)
  have other : c ≠ '.' := by
    rintro rfl
    apply n.label_plain _ n.last_mem
    rw [label]
    simp
  have reversed : n.chars.reverse = c :: (front ++ '.' :: before).reverse := by
    rw [eq, label]
    simp
  rw [text, String.toList_ofList, List.reverse_append, List.reverse_replicate,
    List.dropWhile_append_of_pos ends, reversed, List.dropWhile_cons_of_neg (by simpa using other), ← reversed,
    List.reverse_reverse, screened]

/-- The numbers of the address and the labels, in lower case. -/
def parts : List (List Char) := n.address.octets.map Ipv4.octetText ++ n.labels.map (·.map Char.toLower)

theorem screened_eq_parts : n.screened = ['.'].intercalate n.parts := by
  have numbers : (n.address.octets.map Ipv4.octetText).map (·.map Char.toLower) =
      n.address.octets.map Ipv4.octetText := by
    rw [List.map_map]
    exact List.map_congr_left fun k _ => Ipv4.octetText_toLower k
  rw [screened, chars, Ipv4.render_eq, ← intercalate_append (by simp [Ipv4.octets]) n.labels_ne_nil, map_intercalate,
    List.map_append, numbers]
  rfl

theorem parts_plain : ∀ part ∈ n.parts, '.' ∉ part := by
  intro part member
  rcases List.mem_append.1 member with number | label
  · obtain ⟨k, -, rfl⟩ := List.mem_map.1 number
    exact Ipv4.octetText_plain k (by decide)
  · obtain ⟨own, among, rfl⟩ := List.mem_map.1 label
    exact dot_not_mem_toLower (n.label_plain own among)

/-- The name starts with the first two numbers of its address. -/
theorem screened_eq_numbers : ∃ rest, n.screened =
    Ipv4.octetText (n.address.octet 0) ++ '.' :: (Ipv4.octetText (n.address.octet 1) ++ '.' :: rest) := by
  have parts : n.parts = Ipv4.octetText (n.address.octet 0) :: Ipv4.octetText (n.address.octet 1) ::
      Ipv4.octetText (n.address.octet 2) :: Ipv4.octetText (n.address.octet 3) ::
        n.labels.map (·.map Char.toLower) := rfl
  rw [screened_eq_parts, parts, List.intercalate_cons_cons, List.intercalate_cons_cons, List.append_assoc,
    List.append_assoc]
  exact ⟨_, rfl⟩

/-- The name is no address. -/
theorem not_address : Ipv4.readDotted? n.screened = none ∧ Ipv6.read? n.screened = none := by
  have dotted : Ipv4.readDotted? n.screened = none := by
    rw [screened_eq_parts]
    apply Ipv4.readDotted?_eq_none n.parts_plain
    have more : 0 < n.labels.length := List.length_pos_iff.2 n.labels_ne_nil
    simp [parts, Ipv4.octets]
    omega
  refine ⟨dotted, ?_⟩
  obtain ⟨rest, eq⟩ := n.screened_eq_numbers
  rw [List.append_cons] at eq
  rw [eq] at dotted ⊢
  apply Ipv6.read?_eq_none _ _ dotted
  · simp [Ipv4.octetText_plain]
  · simp

/-! ## The text screens -/

theorem endsWith_iff {ending : String} {label : List Char} (dotted : ending.toList = '.' :: label)
    (plain : '.' ∉ label) :
    endsWith n.screened ending = true ↔ n.last.map Char.toLower = label := by
  obtain ⟨front, eq⟩ := n.chars_eq_last
  have own := dot_not_mem_toLower (n.label_plain n.last n.last_mem)
  rw [endsWith, List.isSuffixOf_iff_suffix, dotted, screened, eq, List.map_append, List.map_cons]
  exact (suffix_dot_iff plain own).trans eq_comm

/-- No name that starts with an address starts with a letter. -/
theorem not_prefix_letter {c : Char} {cs : List Char} (letter : c.isDigit = false) : ¬ c :: cs <+: n.screened := by
  obtain ⟨rest, eq⟩ := n.screened_eq_numbers
  obtain ⟨d, digits, number⟩ := List.exists_cons_of_ne_nil (Nat.toDigits_ne_nil (n := n.address.octet 0) (b := 10))
  have digit := Ipv4.octetText_digits (n.address.octet 0) d (by rw [Ipv4.octetText, number]; exact List.mem_cons_self)
  rw [eq, Ipv4.octetText, number, List.cons_append, List.cons_prefix_cons]
  rintro ⟨rfl, -⟩
  rw [letter] at digit
  cases digit

theorem prefix_iff (k : Nat) : Ipv4.octetText k ++ ['.'] <+: n.screened ↔ n.address.octet 0 = k := by
  obtain ⟨rest, eq⟩ := n.screened_eq_numbers
  rw [eq, prefix_dot_iff (Ipv4.octetText_plain _ (by decide)) (Ipv4.octetText_plain _ (by decide)), Ipv4.octetText_inj]
  simp [eq_comm]

theorem prefix_two_iff (k j : Nat) : Ipv4.octetText k ++ '.' :: (Ipv4.octetText j ++ ['.']) <+: n.screened ↔
    n.address.octet 0 = k ∧ n.address.octet 1 = j := by
  obtain ⟨rest, eq⟩ := n.screened_eq_numbers
  rw [eq, prefix_dot_iff (Ipv4.octetText_plain _ (by decide)) (Ipv4.octetText_plain _ (by decide)), Ipv4.octetText_inj,
    prefix_dot_iff (Ipv4.octetText_plain _ (by decide)) (Ipv4.octetText_plain _ (by decide)), Ipv4.octetText_inj]
  simp [eq_comm]

theorem blockedStarts_iff :
    blockedStarts.any (·.toList.isPrefixOf n.screened) = true ↔
      n.address.octet 0 = 127 ∨ n.address.octet 0 = 10 ∨ (n.address.octet 0 = 192 ∧ n.address.octet 1 = 168) ∨
        (n.address.octet 0 = 169 ∧ n.address.octet 1 = 254) ∨ n.address.octet 0 = 0 := by
  have loopback : "127.".toList <+: n.screened ↔ n.address.octet 0 = 127 := n.prefix_iff 127
  have ten : "10.".toList <+: n.screened ↔ n.address.octet 0 = 10 := n.prefix_iff 10
  have zero : "0.".toList <+: n.screened ↔ n.address.octet 0 = 0 := n.prefix_iff 0
  have home : "192.168.".toList <+: n.screened ↔ _ := n.prefix_two_iff 192 168
  have link : "169.254.".toList <+: n.screened ↔ _ := n.prefix_two_iff 169 254
  have linkLocal : ¬ "fe80:".toList <+: n.screened := n.not_prefix_letter (by decide)
  have uniqueLocal : ¬ "fc00:".toList <+: n.screened := n.not_prefix_letter (by decide)
  simp only [blockedStarts, List.any_cons, List.any_nil, Bool.or_eq_true, List.isPrefixOf_iff_prefix, loopback, ten,
    zero, home, link, linkLocal, uniqueLocal, Bool.false_eq_true, or_false]

theorem startsPrivate_iff :
    startsPrivate n.screened = true ↔
      n.address.octet 0 = 172 ∧ 16 ≤ n.address.octet 1 ∧ n.address.octet 1 ≤ 31 := by
  have front : n.screened.take 4 = "172.".toList ↔ n.address.octet 0 = 172 := by
    rw [← n.prefix_iff 172, List.prefix_iff_eq_take]
    exact eq_comm
  rw [startsPrivate, Bool.and_eq_true, decide_eq_true_iff, front]
  apply and_congr_right
  intro first
  obtain ⟨rest, eq⟩ := n.screened_eq_numbers
  have others : ∀ c ∈ Ipv4.octetText (n.address.octet 1), decide (c ≠ '.') = true := by
    intro c member
    have plain : c ≠ '.' := by
      rintro rfl
      exact Ipv4.octetText_plain _ (by decide) member
    simpa using plain
  have second : (n.screened.drop 4).takeWhile (· ≠ '.') = Ipv4.octetText (n.address.octet 1) := by
    rw [eq, first]
    change (Ipv4.octetText (n.address.octet 1) ++ '.' :: rest).takeWhile (· ≠ '.') = _
    rw [List.takeWhile_append_of_pos others]
    simp
  rw [second, Ipv4.readNatural?_octetText (n.address.octet_lt 1)]
  simp

/-- The starts of names are those of the addresses that are blocked. -/
theorem address_isBlocked_iff :
    n.address.isBlocked = true ↔
      blockedStarts.any (·.toList.isPrefixOf n.screened) = true ∨ startsPrivate n.screened = true := by
  rw [blockedStarts_iff, startsPrivate_iff]
  simp only [Ipv4.isBlocked, Bool.or_eq_true, Bool.and_eq_true, decide_eq_true_iff]
  generalize n.address.octet 0 = first
  generalize n.address.octet 1 = second
  omega

end WildcardName

/-- A name that starts with an address is blocked exactly if the address is, or its last label names a local
network. -/
theorem isBlockedName_wildcard (n : WildcardName) :
    isBlockedName n.text = true ↔
      n.address.isBlocked = true ∨
        n.last.map Char.toLower ∈ ["localhost", "local", "internal"].map String.toList := by
  obtain ⟨notDotted, notGroups⟩ := n.not_address
  have notHost : n.screened ≠ "localhost".toList := by
    have noLetter : ¬ "localhost".toList <+: n.screened := n.not_prefix_letter (by decide)
    intro same
    rw [same] at noLetter
    exact noLetter (List.prefix_refl _)
  have localhost : endsWith n.screened ".localhost" = true ↔ n.last.map Char.toLower = "localhost".toList :=
    n.endsWith_iff (by decide) (by decide)
  have home : endsWith n.screened ".local" = true ↔ n.last.map Char.toLower = "local".toList :=
    n.endsWith_iff (by decide) (by decide)
  have internal : endsWith n.screened ".internal" = true ↔ n.last.map Char.toLower = "internal".toList :=
    n.endsWith_iff (by decide) (by decide)
  rw [n.address_isBlocked_iff]
  refine Iff.trans ?_ or_comm
  simp only [isBlockedName, n.screened_eq, notDotted, notGroups, notHost, decide_false, Bool.false_or, Bool.or_eq_true,
    localhost, home, internal, or_assoc, List.map_cons, List.map_nil, List.mem_cons, List.not_mem_nil, or_false]

/-- The name under `Nip.io` that starts with an address `172.n.0.1`. -/
def nipName (n : Nat) : WildcardName where
  address := .ofNat (172 * Nat.pow 2 24 + n * Nat.pow 2 16 + 1)
  labels := ["Nip".toList, "io".toList]
  dots := 1
  labels_ne_nil := nofun
  label_ne_nil := by decide
  label_plain := by decide

/-- Of two such names the one that starts with a private address is blocked. -/
theorem isBlockedName_wildcard_private :
    (nipName 31).text = "172.31.0.1.Nip.io." ∧ isBlockedName (nipName 31).text = true ∧
      (nipName 160).text = "172.160.0.1.Nip.io." ∧ isBlockedName (nipName 160).text = false := by
  refine ⟨by decide +kernel, ?_, by decide +kernel, ?_⟩
  · exact (isBlockedName_wildcard (nipName 31)).2 (.inl (by decide))
  · rw [Bool.eq_false_iff, ne_eq, isBlockedName_wildcard (nipName 160)]
    decide

end WorkflowEngine
