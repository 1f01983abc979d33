/-
Module: WorkflowEngine.Proofs.WebAddresses
Layer: Proofs
Purpose: Web addresses whose host spells an IP address.  Scheme, slashes, user, host, port and path stand one after
  another in the text, and reading takes them apart again; the host is read as the address that it spells.
Imports: WorkflowEngine.Network.Screening, WorkflowEngine.Proofs.AddressText
Trusted boundary: none
Main exports: Address.Spelled, Host.read_spelled, Url.WebText, Url.readChars_web
-/
import WorkflowEngine.Network.Screening
import WorkflowEngine.Proofs.AddressText

namespace WorkflowEngine

/-! ## Hosts -/

/-- The characters that end the part with user, host and port. -/
def authorityMarks : List Char := ['/', '\\', '?', '#']

/-- The characters that end a host, or stand before one or in brackets only. -/
def hostMarks : List Char := authorityMarks ++ [':', '@', '[', ']']

/-- What holds of the digits, the mark of a base and the dot holds of all characters of a host of numbers. -/
theorem part_cases {P : Char → Prop} [DecidablePred P]
    (all : ((hexDigits ++ ['x', 'X', '.']).all fun c => decide (P c)) = true) {c : Char}
    (part : Ipv4.isPartChar c = true ∨ c = '.') : P c := by
  apply of_decide_eq_true (List.all_eq_true.1 all c _)
  rw [List.mem_append]
  rcases part with part | rfl
  · simp only [Ipv4.isPartChar, Bool.or_eq_true, decide_eq_true_eq] at part
    rcases part with (digit | rfl) | rfl
    · exact .inl (mem_hexDigits digit)
    · exact .inr (by decide)
    · exact .inr (by decide)
  · exact .inr (by decide)

namespace Name

/-- A host of numbers stands for itself, in lower case. -/
theorem ascii?_spelled {cs : List Char} {a : Ipv4} (h : Ipv4.Spelled cs a) : ascii? cs = some (cs.map Char.toLower) := by
  have ascii : cs.all isAscii = true :=
    List.all_eq_true.2 fun c member => part_cases (P := fun c => isAscii c = true) (by decide) (h.chars c member)
  have unmarked : (((cs.map Char.toLower).splitOn '.').all fun l => !encodedMark.isPrefixOf l) = true := by
    rw [List.all_eq_true]
    intro label among
    rw [Bool.not_eq_true', Bool.eq_false_iff]
    intro marked
    obtain ⟨rest, rfl⟩ := List.isPrefixOf_iff_prefix.1 marked
    have foreign : 'n' ∈ cs.map Char.toLower :=
      mem_of_splitOn among (List.mem_append_left rest (by decide))
    exact absurd (h.toLower.chars 'n' foreign) (by decide)
  have permitted : (cs.map Char.toLower).any isForbidden = false := by
    rw [List.any_eq_false]
    intro c member
    have fine := part_cases (P := fun c => isForbidden c = false) (by decide) (h.toLower.chars c member)
    rw [fine]
    exact Bool.false_ne_true
  simp only [ascii?, ascii, unmarked, Bool.and_self, if_true, permitted, Bool.false_eq_true, if_false]

end Name

/-- The host that an address is. -/
def Address.host : Address → Host
  | .ipv4 a => .ipv4 a
  | .ipv6 a => .ipv6 a

/-- The spellings of an address as a host.  An IPv4 address may be spelled through percent escapes and characters of
other scripts, as far as these stand for a spelling; an IPv6 address stands in brackets. -/
inductive Address.Spelled : Address → List Char → Prop where
  | ipv4 {cs : List Char} {a : Ipv4} (spelled : Ipv4.Spelled cs a) : Spelled (.ipv4 a) cs
  | mapped {cs ds : List Char} {a : Ipv4} (plain : ∀ c ∈ cs, c ∉ hostMarks)
      (stands : (Percent.decode? cs).bind Name.ascii? = some ds) (spelled : Ipv4.Spelled ds a) : Spelled (.ipv4 a) cs
  | ipv6 {cs : List Char} {a : Ipv6} (spelled : Ipv6.Spelled cs a) : Spelled (.ipv6 a) ('[' :: (cs ++ [']']))

namespace Host

/-- A host that stands for numbers is read as the address that they spell. -/
theorem read_numbers {cs ds : List Char} {a : Ipv4} (plain : '[' ∉ cs)
    (stands : (Percent.decode? cs).bind Name.ascii? = some ds) (spelled : Ipv4.Spelled ds a) :
    read cs = .ok (.ipv4 a) := by
  unfold read
  split
  · exact absurd List.mem_cons_self plain
  · rw [stands]
    cases ds with
    | nil =>
        have ends := spelled.endsInNumber_eq
        exact absurd ends (by decide)
    | cons d ds =>
        simp only [spelled.endsInNumber_eq, if_true, spelled.ofHost?_eq]

/-- Numbers stand for themselves, but for their letter case. -/
theorem stands_spelled {cs : List Char} {a : Ipv4} (h : Ipv4.Spelled cs a) :
    (∀ c ∈ cs, c ∉ hostMarks) ∧ (Percent.decode? cs).bind Name.ascii? = some (cs.map Char.toLower) := by
  have plain (c : Char) (member : c ∈ cs) : c ∉ '%' :: hostMarks :=
    part_cases (P := fun c => c ∉ '%' :: hostMarks) (by decide) (h.chars c member)
  have undecoded : Percent.decode? cs = some cs := by
    have none : cs.contains '%' = false := by
      rw [Bool.eq_false_iff, Ne, List.contains_iff_mem]
      intro percent
      exact plain '%' percent List.mem_cons_self
    rw [Percent.decode?, none]
    rfl
  constructor
  · intro c member mark
    exact plain c member (List.mem_cons_of_mem _ mark)
  · rw [undecoded, Option.bind_some, Name.ascii?_spelled h]

/-- A host is read as the address that it spells. -/
theorem read_spelled {cs : List Char} {a : Address} (h : a.Spelled cs) : read cs = .ok a.host := by
  cases h with
  | ipv4 spelled =>
      obtain ⟨plain, stands⟩ := stands_spelled spelled
      exact read_numbers (fun bracket => plain '[' bracket (by decide)) stands spelled.toLower
  | mapped plain stands spelled => exact read_numbers (fun bracket => plain '[' bracket (by decide)) stands spelled
  | @ipv6 cs a spelled =>
      have last : ('[' :: (cs ++ [']'])).getLast? = some ']' := by
        rw [← List.cons_append, List.getLast?_concat]
      have inside : (('[' :: (cs ++ [']'])).drop 1).dropLast = cs := List.dropLast_concat
      rw [read, readBracketed, last]
      simp only [inside, spelled.read?_eq]
      rfl

end Host

namespace Url

/-! ## The text of a web address -/

/-- The spellings of a port: none or a colon alone for the one that the scheme implies, or a number. -/
inductive PortSpelled (scheme : String) : List Char → Nat → Prop where
  | absent {port : Nat} (implied : defaultPort? scheme = some port) : PortSpelled scheme [] port
  | blank {port : Nat} (implied : defaultPort? scheme = some port) : PortSpelled scheme [':'] port
  | number {d : Char} {digits : List Char} {port : Nat} (numeral : Numeral 10 (d :: digits) port)
      (small : port < 65536) : PortSpelled scheme (':' :: d :: digits) port

/-- The texts of web addresses whose host spells an address: the scheme, a colon, slashes, perhaps a user and an at
sign, the host, the port, and what follows from a slash, a question mark or a hash on. -/
inductive WebText (scheme : String) (a : Address) (port : Nat) : List Char → Prop where
  | intro {schemeText slashes user host portText tail : List Char}
      (web : scheme = "http" ∨ scheme = "https") (spelled : schemeText.map Char.toLower = scheme.toList)
      (slash : ∀ c ∈ slashes, c = '/' ∨ c = '\\')
      (named : user = [] ∨ ∃ name, user = name ++ ['@'] ∧ ∀ c ∈ name, c ∉ authorityMarks)
      (hosted : a.Spelled host) (ported : PortSpelled scheme portText port)
      (ends : ∀ c ∈ tail.head?, c ∈ authorityMarks) :
      WebText scheme a port (schemeText ++ ':' :: (slashes ++ (user ++ (host ++ (portText ++ tail)))))

/-! ### The scheme -/

theorem WebText.web {scheme : String} {a : Address} {port : Nat} {cs : List Char} (h : WebText scheme a port cs) :
    scheme = "http" ∨ scheme = "https" := by
  cases h with
  | intro web => exact web

theorem isLetter_of_toLower {c : Char} (letter : isLetter c.toLower = true) : isLetter c = true := by
  unfold Char.toLower at letter
  split at letter
  · next upper =>
      simp only [isLetter, Bool.or_eq_true, Bool.and_eq_true, decide_eq_true_eq]
      exact .inr upper
  · exact letter

/-- The scheme is what stands before the colon, in lower case. -/
theorem splitScheme?_web {scheme : String} {text rest : List Char} (web : scheme = "http" ∨ scheme = "https")
    (spelled : text.map Char.toLower = scheme.toList) : splitScheme? (text ++ ':' :: rest) = some (scheme, rest) := by
  have letters : ∀ c ∈ text, isLetter c = true := by
    intro c member
    apply isLetter_of_toLower
    have lower : c.toLower ∈ scheme.toList := spelled ▸ List.mem_map_of_mem member
    rcases web with rfl | rfl
    · exact List.all_eq_true.1 (by decide : "http".toList.all isLetter = true) _ lower
    · exact List.all_eq_true.1 (by decide : "https".toList.all isLetter = true) _ lower
  have run : (text ++ ':' :: rest).takeWhile
      (fun c => isLetter c || c.isDigit || c = '+' || c = '-' || c = '.') = text := by
    apply takeWhile_until
    · intro c member
      simp [letters c member]
    · intro c colon
      cases colon
      decide
  obtain ⟨first, others, rfl⟩ : ∃ first others, text = first :: others := by
    cases text with
    | nil => rcases web with rfl | rfl <;> cases spelled
    | cons first others => exact ⟨first, others, rfl⟩
  have front : isLetter first = true := letters first List.mem_cons_self
  simp only [splitScheme?, run, List.drop_left, List.head?_cons, Option.map_some, front, Option.getD_some, if_true,
    spelled, String.ofList_toList]

/-! ### User and host -/

theorem endsAuthority_iff {c : Char} : endsAuthority true c = true ↔ c ∈ authorityMarks := by
  simp [endsAuthority, isSlash, authorityMarks, or_assoc]

/-- What ends the part with user, host and port, or nothing. -/
def EndsAuthority (tail : List Char) : Prop := ∀ c ∈ tail.head?, endsAuthority true c = true

/-- What a host ends before: a colon, what ends the part with user, host and port, or nothing. -/
def EndsHost (rest : List Char) : Prop := ∀ c ∈ rest.head?, c = ':' ∨ endsAuthority true c = true

/-- A text of host and port. -/
def InAuthority (region : List Char) : Prop := ∀ c ∈ region, endsAuthority true c = false ∧ c ≠ '@'

theorem takeWhile_authority {region tail : List Char} (inside : ∀ c ∈ region, endsAuthority true c = false)
    (ends : EndsAuthority tail) : (region ++ tail).takeWhile (fun c => !endsAuthority true c) = region := by
  apply takeWhile_until
  · simpa using inside
  · intro c first
    simp [ends c first]

/-- No character of the user ends the part with user, host and port. -/
theorem user_unended {user : List Char}
    (named : user = [] ∨ ∃ name, user = name ++ ['@'] ∧ ∀ c ∈ name, c ∉ authorityMarks) :
    ∀ c ∈ user, endsAuthority true c = false := by
  rcases named with rfl | ⟨name, rfl, plain⟩
  · exact nofun
  · intro c member
    rcases List.mem_append.1 member with inName | mark
    · rw [← Bool.not_eq_true, endsAuthority_iff]
      exact plain c inName
    · rw [List.mem_singleton.1 mark]
      rfl

/-- Slashes are dropped up to the user and the host. -/
theorem dropWhile_slashes {slashes region rest : List Char} (slash : ∀ c ∈ slashes, c = '/' ∨ c = '\\')
    (some : region ≠ []) (unended : ∀ c ∈ region, endsAuthority true c = false) :
    (slashes ++ (region ++ rest)).dropWhile (isSlash true) = region ++ rest := by
  apply dropWhile_until
  · intro c member
    rcases slash c member with rfl | rfl <;> rfl
  · intro c first
    obtain ⟨d, region, rfl⟩ := List.exists_cons_of_ne_nil some
    cases first
    have unended := unended c List.mem_cons_self
    rw [endsAuthority, Bool.or_eq_false_iff, Bool.or_eq_false_iff] at unended
    exact unended.1.1

/-- The last at sign parts the user from host and port. -/
theorem splitUser_named {user region tail : List Char} (inside : InAuthority region) (ends : EndsAuthority tail)
    (named : user = [] ∨ ∃ name, user = name ++ ['@'] ∧ ∀ c ∈ name, c ∉ authorityMarks) :
    ∃ name?, splitUser true (user ++ (region ++ tail)) = (name?, region ++ tail) := by
  rcases named with rfl | ⟨name, rfl, plain⟩
  · refine ⟨none, ?_⟩
    have whole := takeWhile_authority (fun c member => (inside c member).1) ends
    have nobody : region.contains '@' = false := by
      rw [Bool.eq_false_iff, Ne, List.contains_iff_mem]
      exact fun at' => (inside '@' at').2 rfl
    simp only [splitUser, List.nil_append, whole, nobody, Bool.false_eq_true, if_false]
  · refine ⟨some name, ?_⟩
    have unended : ∀ c ∈ name ++ '@' :: region, endsAuthority true c = false := by
      rw [← List.singleton_append, ← List.append_assoc]
      intro c member
      rcases List.mem_append.1 member with inUser | inRegion
      · exact user_unended (.inr ⟨name, rfl, plain⟩) c inUser
      · exact (inside c inRegion).1
    have whole := takeWhile_authority unended ends
    have someone : (name ++ '@' :: region).contains '@' = true := by simp
    have host : ((name ++ '@' :: region).reverse.takeWhile (· ≠ '@')).reverse = region := by
      rw [List.reverse_append, List.reverse_cons, List.append_assoc, List.takeWhile_append_of_pos]
      · simp
      · intro c member
        simpa using (inside c (List.mem_reverse.1 member)).2
    have count : (name ++ '@' :: region).length - region.length - 1 = name.length := by
      simp only [List.length_append, List.length_cons]
      omega
    have text : name ++ ['@'] ++ (region ++ tail) = name ++ '@' :: region ++ tail := by simp
    have rest : (name ++ '@' :: region ++ tail).drop (name.length + 1) = region ++ tail := by
      rw [← text]
      exact List.drop_left' (by simp)
    rw [text]
    simp only [splitUser, whole, someone, if_true, host, count, List.take_left, rest]

section Hosts

variable {a : Address} {host rest : List Char}

theorem plain_mark {c : Char} (plain : c ∉ hostMarks) :
    endsAuthority true c = false ∧ c ≠ '@' ∧ c ≠ '[' ∧ c ≠ ']' ∧ c ≠ ':' := by
  have unended : c ∉ authorityMarks := fun mark => plain (List.mem_append_left _ mark)
  rw [← endsAuthority_iff, Bool.not_eq_true] at unended
  simp only [hostMarks, List.mem_append, List.mem_cons, not_or] at plain
  obtain ⟨-, colon, at', opened, closed, -⟩ := plain
  exact ⟨unended, at', opened, closed, colon⟩

theorem bracketed_mark {c : Char} (inside : isHexDigit c = true ∨ c = '.' ∨ c = ':') :
    endsAuthority true c = false ∧ c ≠ '@' ∧ c ≠ '[' ∧ c ≠ ']' := by
  rcases inside with digit | rfl | rfl
  · exact hexDigit_cases (P := fun c => endsAuthority true c = false ∧ c ≠ '@' ∧ c ≠ '[' ∧ c ≠ ']')
      (by decide) digit
  · decide
  · decide

theorem spelled_inside (h : a.Spelled host) : InAuthority host := by
  have numbers {cs : List Char} (plain : ∀ c ∈ cs, c ∉ hostMarks) : InAuthority cs := by
    intro c member
    obtain ⟨unended, at', -⟩ := plain_mark (plain c member)
    exact ⟨unended, at'⟩
  cases h with
  | ipv4 spelled => exact numbers (Host.stands_spelled spelled).1
  | mapped plain stands spelled => exact numbers plain
  | @ipv6 cs a spelled =>
      intro c member
      rcases List.mem_cons.1 member with rfl | member
      · decide
      · rcases List.mem_append.1 member with inner | closed
        · obtain ⟨unended, at', -⟩ := bracketed_mark (spelled.chars c inner)
          exact ⟨unended, at'⟩
        · rw [List.mem_singleton.1 closed]
          decide

theorem spelled_ne_nil (h : a.Spelled host) : host ≠ [] := by
  rintro rfl
  have read := Host.read_spelled h
  have empty : Host.read [] = .error .emptyHost := by decide
  rw [empty] at read
  cases read

/-- Characters that neither end the host nor open or close brackets belong to it; a colon does in brackets. -/
theorem splitHost_run {bracketed : Bool} {cs : List Char}
    (inside : ∀ c ∈ cs, endsAuthority true c = false ∧ c ≠ '[' ∧ c ≠ ']' ∧ (c = ':' → bracketed = true)) :
    splitHost true bracketed (cs ++ rest) =
      (cs ++ (splitHost true bracketed rest).1, (splitHost true bracketed rest).2) := by
  induction cs with
  | nil => rfl
  | cons c cs ih =>
      obtain ⟨⟨unended, unopened, unclosed, colon⟩, later⟩ := List.forall_mem_cons.1 inside
      have kept : ¬ ((endsAuthority true c || (decide (c = ':') && !bracketed)) = true) := by
        by_cases mark : c = ':'
        · simp [unended, colon mark]
        · simp [unended, mark]
      rw [List.cons_append, splitHost, if_neg kept]
      simp only [if_neg unopened, if_neg unclosed, ih later, List.cons_append]

theorem splitHost_end (ends : EndsHost rest) : splitHost true false rest = ([], rest) := by
  cases rest with
  | nil => rfl
  | cons c rest =>
      have ended : (endsAuthority true c || (decide (c = ':') && !false)) = true := by
        rcases ends c rfl with rfl | stop
        · rfl
        · simp [stop]
      rw [splitHost, if_pos ended]

theorem splitHost_spelled (h : a.Spelled host) (ends : EndsHost rest) :
    splitHost true false (host ++ rest) = (host, rest) := by
  have numbers {cs : List Char} (plain : ∀ c ∈ cs, c ∉ hostMarks) : splitHost true false (cs ++ rest) = (cs, rest) := by
    rw [splitHost_run, splitHost_end ends, List.append_nil]
    intro c member
    obtain ⟨unended, -, opened, closed, colon⟩ := plain_mark (plain c member)
    exact ⟨unended, opened, closed, fun mark => absurd mark colon⟩
  cases h with
  | ipv4 spelled => exact numbers (Host.stands_spelled spelled).1
  | mapped plain stands spelled => exact numbers plain
  | @ipv6 cs a spelled =>
      have inner : splitHost true true (cs ++ ']' :: rest) = (cs ++ [']'], rest) := by
        rw [splitHost_run]
        · have closes : splitHost true true (']' :: rest) = (']' :: (splitHost true false rest).1,
              (splitHost true false rest).2) := rfl
          rw [closes, splitHost_end ends]
        · intro c member
          obtain ⟨unended, -, opened, closed⟩ := bracketed_mark (spelled.chars c member)
          exact ⟨unended, opened, closed, fun _ => rfl⟩
      have opens : splitHost true false ('[' :: (cs ++ [']']) ++ rest) =
          ('[' :: (splitHost true true (cs ++ ']' :: rest)).1, (splitHost true true (cs ++ ']' :: rest)).2) := by
        rw [List.cons_append, List.append_assoc]
        rfl
      rw [opens, inner]

end Hosts

/-! ### The port -/

section Ports

variable {scheme : String} {text tail : List Char} {port : Nat}

theorem PortSpelled.inside (h : PortSpelled scheme text port) : InAuthority text := by
  have digits {ds : List Char} {n : Nat} (numeral : Numeral 10 ds n) : InAuthority ds := by
    intro c member
    obtain ⟨unended, at', -⟩ := bracketed_mark (.inl (numeral.digits c member).1)
    exact ⟨unended, at'⟩
  have colon : endsAuthority true ':' = false ∧ ':' ≠ '@' := by decide
  cases h with
  | absent => exact nofun
  | blank => exact List.forall_mem_singleton.2 colon
  | number numeral small => exact List.forall_mem_cons.2 ⟨colon, digits numeral⟩

theorem PortSpelled.endsHost (h : PortSpelled scheme text port) (ends : EndsAuthority tail) : EndsHost (text ++ tail) := by
  cases h with
  | absent => exact fun c first => .inr (ends c first)
  | blank => exact fun c first => .inl (Option.some.inj first).symm
  | number => exact fun c first => .inl (Option.some.inj first).symm

/-- The digits of a port are those before what ends the part with host and port. -/
theorem spanDigits_port {digits : List Char} (all : ∀ c ∈ digits, c.isDigit = true) (ends : EndsAuthority tail) :
    spanDigits (digits ++ tail) = (digits, tail) := by
  have stop : ∀ c ∈ tail.head?, c.isDigit = false := by
    intro c first
    have none : (authorityMarks.all fun c => !c.isDigit) = true := by decide
    simpa using List.all_eq_true.1 none c (endsAuthority_iff.1 (ends c first))
  exact spanDigits_until all stop

theorem readPort_digits {digits : List Char} (numeral : Numeral 10 digits port) (small : port < 65536)
    (ends : EndsAuthority tail) :
    readPort scheme (digits ++ tail) =
      .ok (if digits.isEmpty || some port = defaultPort? scheme then none else some port, tail) := by
  rw [readPort, spanDigits_port numeral.isDigit ends]
  simp only [numeral.naturalOfDigits_eq, if_neg (Nat.not_le.2 small)]
  cases tail with
  | nil => rfl
  | cons c tail => simp only [ends c rfl, if_true]

/-- A port that is named is kept unless the scheme implies it; either way it is the one to connect to. -/
theorem port_kept {empty : Bool} (number : empty = false) :
    (if empty || some port = defaultPort? scheme then none else some port).or (defaultPort? scheme) = some port := by
  by_cases implied : some port = defaultPort? scheme
  · simp [implied]
  · simp [implied, number]

end Ports

/-! ### The whole text -/

/-- A web address is read, with the host that it spells and the port that it names or implies. -/
theorem readAuthority_spelled {scheme : String} {a : Address} {port : Nat} {user host text tail : List Char}
    (web : scheme = "http" ∨ scheme = "https")
    (named : user = [] ∨ ∃ name, user = name ++ ['@'] ∧ ∀ c ∈ name, c ∉ authorityMarks)
    (hosted : a.Spelled host) (ported : PortSpelled scheme text port) (ends : EndsAuthority tail) :
    ∃ u, readAuthority scheme (user ++ (host ++ (text ++ tail))) = .ok u ∧ u.scheme = scheme ∧ u.host = some a.host ∧
      u.port? = some port := by
  have special : isSpecial scheme = true := by rcases web with rfl | rfl <;> decide
  have inside : InAuthority (host ++ text) := by
    intro c member
    rcases List.mem_append.1 member with inHost | inPort
    · exact spelled_inside hosted c inHost
    · exact ported.inside c inPort
  obtain ⟨name?, users⟩ := splitUser_named inside ends named
  rw [List.append_assoc] at users
  have hosts := splitHost_spelled hosted (ported.endsHost ends)
  have some : host.isEmpty = false := by simpa using spelled_ne_nil hosted
  have unnamed : a.host ≠ .name "" := by cases a <;> exact nofun
  unfold readAuthority
  simp only [special, users, hosts, some, Host.read_spelled hosted, Bool.false_eq_true, and_false, false_and, if_false,
    if_true]
  change ∃ u, (if a.host = .name "" ∧ _ then _ else _) = _ ∧ _
  rw [if_neg fun hostless => unnamed hostless.1]
  simp only [unnamed, if_false]
  cases ported with
  | absent implied =>
      cases tail with
      | nil => exact ⟨_, rfl, rfl, rfl, implied⟩
      | cons c tail =>
          -- what follows the host is no colon, so there is no port to read
          have mark := endsAuthority_iff.1 (ends c rfl)
          simp only [authorityMarks, List.mem_cons, List.not_mem_nil, or_false] at mark
          rcases mark with rfl | rfl | rfl | rfl
          · exact ⟨_, rfl, rfl, rfl, implied⟩
          · exact ⟨_, rfl, rfl, rfl, implied⟩
          · exact ⟨_, rfl, rfl, rfl, implied⟩
          · exact ⟨_, rfl, rfl, rfl, implied⟩
  | blank implied =>
      have port : readPort scheme tail = .ok (none, tail) := readPort_digits .nil (by decide) ends
      change ∃ u, (readPort scheme tail >>= _) = _ ∧ _
      rw [port]
      exact ⟨_, rfl, rfl, rfl, implied⟩
  | @number d digits _ numeral small =>
      change ∃ u, (readPort scheme (d :: digits ++ tail) >>= _) = _ ∧ _
      rw [readPort_digits numeral small ends]
      exact ⟨_, rfl, rfl, rfl, port_kept rfl⟩

/-- A web address is read, with the host that it spells and the port that it names or implies. -/
theorem readChars_web {scheme : String} {a : Address} {port : Nat} {cs : List Char}
    (written : WebText scheme a port (prepared cs)) :
    ∃ u, readChars cs = .ok u ∧ u.scheme = scheme ∧ u.host = some a.host ∧ u.port? = some port := by
  unfold readChars
  generalize prepared cs = text at written
  cases written with
  | @intro schemeText slashes user host portText tail web spelled slash named hosted ported ends =>
      have special : isSpecial scheme = true := by rcases web with rfl | rfl <;> decide
      have notFile : scheme ≠ "file" := by rcases web with rfl | rfl <;> decide
      have ends : EndsAuthority tail := fun c first => endsAuthority_iff.2 (ends c first)
      have region : (slashes ++ (user ++ (host ++ (portText ++ tail)))).dropWhile (isSlash true) =
          user ++ (host ++ (portText ++ tail)) := by
        rw [← List.append_assoc user]
        apply dropWhile_slashes slash
        · exact List.append_ne_nil_of_right_ne_nil _ (spelled_ne_nil hosted)
        · intro c member
          rcases List.mem_append.1 member with inUser | inHost
          · exact user_unended named c inUser
          · exact (spelled_inside hosted c inHost).1
      rw [splitScheme?_web web spelled]
      simp only [if_neg notFile, special, if_true, region]
      exact readAuthority_spelled web named hosted ported ends

end Url

end WorkflowEngine
