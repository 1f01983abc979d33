/-
Module: WorkflowEngine.Proofs.AddressScreening
Layer: Proofs
Purpose: Which addresses the screening of URLs refuses.  The networks that are refused are listed with the bits that
  their addresses share.  An address that a URL names is screened by its value, however it is spelled, and both screens
  come to one verdict (`literal_screened`).
Imports: WorkflowEngine.Proofs.WebAddresses
Trusted boundary: none
Main exports: Ipv4.Blocked, Ipv4.isBlocked_iff, Ipv6.Blocked, Ipv6.isBlocked_iff, literal_screened
-/
import WorkflowEngine.Proofs.WebAddresses

namespace WorkflowEngine

/-! ## Networks -/

namespace Ipv4

/-- The address with given bytes. -/
def ofOctets (a b c d : Nat) : Ipv4 := ofNat (((a * 256 + b) * 256 + c) * 256 + d)

/-- Whether the first bits of an address are those of a base. -/
def InNetwork (a base : Ipv4) (length : Nat) : Prop :=
  a.bits.val / Nat.pow 2 (32 - length) = base.bits.val / Nat.pow 2 (32 - length)

/-- The networks that are blocked: each base with the number of bits that count. -/
def blockedNetworks : List (Ipv4 × Nat) :=
  [(ofOctets 0 0 0 0, 8), (ofOctets 10 0 0 0, 8), (ofOctets 127 0 0 0, 8), (ofOctets 169 254 0 0, 16),
    (ofOctets 172 16 0 0, 12), (ofOctets 192 168 0 0, 16)]

/-- Whether an address belongs to a network that is blocked. -/
def Blocked (a : Ipv4) : Prop := ∃ network ∈ blockedNetworks, a.InNetwork network.1 network.2

/-- The first bits of an address, by its first two bytes. -/
theorem front_bits (a : Ipv4) :
    a.bits.val / Nat.pow 2 (32 - 8) = a.octet 0 ∧ a.bits.val / Nat.pow 2 (32 - 12) = a.octet 0 * 16 + a.octet 1 / 16 ∧
      a.bits.val / Nat.pow 2 (32 - 16) = a.octet 0 * 256 + a.octet 1 := by
  have small := a.bits_lt
  have bits₈ : Nat.pow 2 (32 - 8) = 16777216 := by decide
  have bits₁₂ : Nat.pow 2 (32 - 12) = 1048576 := by decide
  have bits₁₆ : Nat.pow 2 (32 - 16) = 65536 := by decide
  have first : a.octet 0 = a.bits.val / Nat.pow 2 (32 - 8) % 256 := rfl
  have second : a.octet 1 = a.bits.val / Nat.pow 2 (32 - 16) % 256 := rfl
  rw [first, second, bits₈, bits₁₂, bits₁₆]
  omega

/-- An address is blocked if it belongs to one of the networks. -/
theorem isBlocked_iff (a : Ipv4) : a.isBlocked = true ↔ a.Blocked := by
  obtain ⟨eight, twelve, sixteen⟩ := a.front_bits
  have second := a.octet_lt 1
  have nothing : (ofOctets 0 0 0 0).bits.val / Nat.pow 2 (32 - 8) = 0 := by decide
  have ten : (ofOctets 10 0 0 0).bits.val / Nat.pow 2 (32 - 8) = 10 := by decide
  have loopback : (ofOctets 127 0 0 0).bits.val / Nat.pow 2 (32 - 8) = 127 := by decide
  have linkLocal : (ofOctets 169 254 0 0).bits.val / Nat.pow 2 (32 - 16) = 169 * 256 + 254 := by decide
  have fromSixteen : (ofOctets 172 16 0 0).bits.val / Nat.pow 2 (32 - 12) = 172 * 16 + 1 := by decide
  have home : (ofOctets 192 168 0 0).bits.val / Nat.pow 2 (32 - 16) = 192 * 256 + 168 := by decide
  simp only [Blocked, blockedNetworks, InNetwork, List.exists_mem_cons_iff, List.not_mem_nil, false_and, exists_false,
    or_false, isBlocked, eight, twelve, sixteen, nothing, ten, loopback, linkLocal, fromSixteen, home,
    Bool.or_eq_true, Bool.and_eq_true, decide_eq_true_eq]
  omega

end Ipv4

namespace Ipv6

/-- Whether the first bits of an address are those of a base. -/
def InNetwork (a base : Ipv6) (length : Nat) : Prop :=
  a.bits.val / Nat.pow 2 (128 - length) = base.bits.val / Nat.pow 2 (128 - length)

/-- The networks that are blocked: the address of nothing, that of the host itself, unique-local and link-local ones. -/
def blockedNetworks : List (Ipv6 × Nat) :=
  [(ofGroups [0, 0, 0, 0, 0, 0, 0, 0], 128), (ofGroups [0, 0, 0, 0, 0, 0, 0, 1], 128),
    (ofGroups [0xFC00, 0, 0, 0, 0, 0, 0, 0], 7), (ofGroups [0xFE80, 0, 0, 0, 0, 0, 0, 0], 10)]

/-- The address that stands for an IPv4 address. -/
def ofIpv4 (a : Ipv4) : Ipv6 := ofGroups [0, 0, 0, 0, 0, 0xFFFF, a.bits.val / 65536, a.bits.val % 65536]

/-- Whether an address belongs to a network that is blocked, or stands for an IPv4 address that is. -/
def Blocked (a : Ipv6) : Prop :=
  (∃ network ∈ blockedNetworks, a.InNetwork network.1 network.2) ∨ ∃ v4 : Ipv4, v4.Blocked ∧ a = ofIpv4 v4

/-- The networks as ranges of numbers. -/
theorem inNetwork_iff {a : Ipv6} : (∃ network ∈ blockedNetworks, a.InNetwork network.1 network.2) ↔
    a.bits.val ≤ 1 ∨ a.bits.val / 0x2000000000000000000000000000000 = 0x7E ∨
      a.bits.val / 0x400000000000000000000000000000 = 0x3FA := by
  have bits₇ : Nat.pow 2 (128 - 7) = 0x2000000000000000000000000000000 := by decide
  have bits₁₀ : Nat.pow 2 (128 - 10) = 0x400000000000000000000000000000 := by decide
  have bits₁₂₈ : Nat.pow 2 (128 - 128) = 1 := by decide
  have unspecified : (ofGroups [0, 0, 0, 0, 0, 0, 0, 0]).bits.val = 0 := by decide
  have loopback : (ofGroups [0, 0, 0, 0, 0, 0, 0, 1]).bits.val = 1 := by decide
  have uniqueLocal : (ofGroups [0xFC00, 0, 0, 0, 0, 0, 0, 0]).bits.val = 0xFC000000000000000000000000000000 := by decide
  have linkLocal : (ofGroups [0xFE80, 0, 0, 0, 0, 0, 0, 0]).bits.val = 0xFE800000000000000000000000000000 := by decide
  simp only [blockedNetworks, InNetwork, List.exists_mem_cons_iff, List.not_mem_nil, false_and, exists_false, or_false,
    bits₇, bits₁₀, bits₁₂₈, unspecified, loopback, uniqueLocal, linkLocal]
  omega

/-- An address that stands for no IPv4 address is blocked if it belongs to one of the networks. -/
theorem isBlocked_native {a : Ipv6} (native : a.mapped? = none) :
    a.isBlocked = true ↔ ∃ network ∈ blockedNetworks, a.InNetwork network.1 network.2 := by
  have small := a.bits_lt
  have place : Nat.pow 65536 7 = 0x10000000000000000000000000000 := by decide
  have front : a.group 0 = a.bits.val / Nat.pow 65536 7 % 65536 := rfl
  simp only [inNetwork_iff, isBlocked, native, front, place, Bool.or_eq_true, decide_eq_true_eq]
  omega

theorem ofIpv4_val (a : Ipv4) : (ofIpv4 a).bits.val = 0xFFFF * Nat.pow 2 32 + a.bits.val := by
  have small := a.bits_lt
  have narrow : Nat.pow 2 32 = 0x100000000 := by decide
  have wide : Nat.pow 2 128 = 0x100000000000000000000000000000000 := by decide
  have value : (ofIpv4 a).bits.val = ((0xFFFF * 65536 + a.bits.val / 65536) * 65536 + a.bits.val % 65536) %
      Nat.pow 2 128 := rfl
  rw [value, wide]
  generalize a.bits.val = bits at small ⊢
  rw [narrow]
  omega

/-- An address stands for an IPv4 address if it is made of that. -/
theorem mapped?_iff {a : Ipv6} {v4 : Ipv4} : a.mapped? = some v4 ↔ a = ofIpv4 v4 := by
  constructor
  · intro form
    rw [mapped?] at form
    split at form
    · next front =>
        cases form
        have rest : (Ipv4.ofNat a.bits.val).bits.val = a.bits.val % Nat.pow 2 32 := rfl
        apply eq_of_val
        rw [ofIpv4_val, rest, ← front]
        exact (Nat.div_add_mod' _ _).symm
    · cases form
  · rintro rfl
    have front : (0xFFFF * Nat.pow 2 32 + v4.bits.val) / Nat.pow 2 32 = 0xFFFF := by
      rw [Nat.mul_comm, Nat.mul_add_div (by decide), Nat.div_eq_of_lt v4.bits.isLt]
    have rest : Ipv4.ofNat (0xFFFF * Nat.pow 2 32 + v4.bits.val) = v4 := by
      apply Ipv4.ofNat_eq
      rw [Nat.mul_add_mod_self_right, Nat.mod_eq_of_lt v4.bits.isLt]
    rw [mapped?, ofIpv4_val, if_pos front, rest]

/-- An address that stands for an IPv4 address belongs to none of the networks. -/
theorem not_inNetwork_ofIpv4 (v4 : Ipv4) : ¬ ∃ network ∈ blockedNetworks, (ofIpv4 v4).InNetwork network.1 network.2 := by
  have small := v4.bits_lt
  have narrow : Nat.pow 2 32 = 0x100000000 := by decide
  have value := ofIpv4_val v4
  rw [inNetwork_iff, value]
  generalize v4.bits.val = bits at small ⊢
  rw [narrow]
  omega

/-- An address is blocked if it belongs to one of the networks, or stands for an IPv4 address that does. -/
theorem isBlocked_iff (a : Ipv6) : a.isBlocked = true ↔ a.Blocked := by
  cases form : a.mapped? with
  | some v4 =>
      obtain rfl := mapped?_iff.1 form
      have same : (ofIpv4 v4).isBlocked = v4.isBlocked := by rw [isBlocked, form]
      rw [same, v4.isBlocked_iff]
      constructor
      · exact fun blocked => .inr ⟨v4, blocked, rfl⟩
      · intro blocked
        rcases blocked with network | ⟨other, blocked, eq⟩
        · exact absurd network (not_inNetwork_ofIpv4 v4)
        · rw [mapped?_iff.2 eq] at form
          cases form
          exact blocked
  | none =>
      rw [isBlocked_native form]
      constructor
      · exact .inl
      · intro blocked
        rcases blocked with network | ⟨other, -, eq⟩
        · exact network
        · rw [mapped?_iff.2 eq] at form
          cases form

end Ipv6

/-- Whether an address is one that may not be called. -/
def Address.Blocked : Address → Prop
  | .ipv4 a => a.Blocked
  | .ipv6 a => a.Blocked

theorem Address.isBlocked_iff (a : Address) : a.isBlocked = true ↔ a.Blocked := by
  cases a with
  | ipv4 a => exact a.isBlocked_iff
  | ipv6 a => exact a.isBlocked_iff

/-! ## Both screens -/

/-- The host that is an address is blocked with it. -/
theorem Address.host_isBlocked (a : Address) : a.host.isBlocked = a.isBlocked := by
  cases a <;> rfl

/-- The first screen goes by the address. -/
theorem checkUrl_address {raw : String} {u : Url} {a : Address} (read : Url.read (trimmed raw) = .ok u)
    (web : u.scheme = "http" ∨ u.scheme = "https") (host : u.host = some a.host) :
    checkUrl raw = if a.isBlocked then .error (.blockedHost a.host.render) else .ok u := by
  have allowed : ¬ (u.scheme ≠ "http" ∧ u.scheme ≠ "https") := by
    intro ⟨notHttp, notHttps⟩
    exact web.elim notHttp notHttps
  rw [checkUrl, read]
  simp only [if_neg allowed, host, a.host_isBlocked]

/-- The second screen goes by the address as well, and looks nothing up. -/
theorem resolveChecked_address {u : Url} {a : Address} {port : Nat} (host : u.host = some a.host)
    (connects : u.port? = some port) (lookup : String → List Address) :
    resolveChecked lookup u = if a.isBlocked then .error (.blockedHost a.host.render) else .ok [⟨a, port⟩] := by
  rw [resolveChecked, host]
  cases a with
  | ipv4 a => simp [Address.host, connects]
  | ipv6 a => simp [Address.host, connects]

/-- Whatever spells an address as the host of a web address, the URL is read, and both screens judge it by the value of
the address: if that is blocked, both refuse the URL for the same host; if not, both let it pass, and the connection
goes to that address alone, at the port that is named or that the scheme implies. -/
theorem literal_screened {raw scheme : String} {a : Address} {port : Nat}
    (written : Url.WebText scheme a port (Url.prepared (trimmed raw).toList)) :
    ∃ u, Url.read (trimmed raw) = .ok u ∧
      (a.Blocked → checkUrl raw = .error (.blockedHost a.host.render) ∧
        ∀ lookup, resolveChecked lookup u = .error (.blockedHost a.host.render)) ∧
      (¬ a.Blocked → checkUrl raw = .ok u ∧ ∀ lookup, resolveChecked lookup u = .ok [⟨a, port⟩]) := by
  obtain ⟨u, read, rfl, host, connects⟩ := Url.readChars_web written
  have first := checkUrl_address read written.web host
  have second := resolveChecked_address host connects
  refine ⟨u, read, ?_, ?_⟩
  · intro blocked
    rw [← a.isBlocked_iff] at blocked
    constructor
    · rw [first, if_pos blocked]
    · intro lookup
      rw [second, if_pos blocked]
  · intro free
    rw [← a.isBlocked_iff] at free
    constructor
    · rw [first, if_neg free]
    · intro lookup
      rw [second, if_neg free]

/-- A private address is refused although an octal number, a hexadecimal one and one that fills two bytes spell it, and
a public one is called although it stands in the form of the other kind of address. -/
theorem literal_screened_forms :
    checkUrl "HTTP://me@0300.0xA8.257:8080/x" = .error (.blockedHost "192.168.1.1") ∧
      ∃ u, checkUrl "https:[::ffff:93.184.216.34]" = .ok u ∧
        ∀ lookup, resolveChecked lookup u = .ok [⟨.ipv6 (.ofIpv4 (.ofOctets 93 184 216 34)), 443⟩] := by
  constructor
  · have octal : Ipv4.PartSpelled "0300".toList 192 := .octal (.ofDigits (by decide))
    have hexadecimal : Ipv4.PartSpelled "0xA8".toList 168 := .hexadecimal (.inl rfl) (.ofDigits (by decide))
    have decimal : Ipv4.PartSpelled "257".toList 257 := .decimal (by decide) (.ofDigits (by decide))
    have spelled : Ipv4.Spelled "0300.0xA8.257".toList (.ofOctets 192 168 1 1) :=
      @Ipv4.Spelled.intro _ [192, 168] 257 [] _ (.cons octal (.cons hexadecimal (.cons decimal .nil))) (by decide)
        (by decide) (by decide) (by decide) (.inl rfl)
    have port : Url.PortSpelled "http" ":8080".toList 8080 := .number (.ofDigits (by decide)) (by decide)
    have user : "me@".toList = [] ∨ ∃ name, "me@".toList = name ++ ['@'] ∧ ∀ c ∈ name, c ∉ authorityMarks :=
      .inr ⟨['m', 'e'], by decide, by simp [authorityMarks]⟩
    have written : Url.WebText "http" (.ipv4 (.ofOctets 192 168 1 1)) 8080
        (Url.prepared (trimmed "HTTP://me@0300.0xA8.257:8080/x").toList) :=
      @Url.WebText.intro _ _ _ "HTTP".toList ['/', '/'] _ _ _ ['/', 'x'] (.inl rfl) (by decide) (by simp) user
        (.ipv4 spelled) port (by simp [authorityMarks])
    have blocked : Ipv4.Blocked (.ofOctets 192 168 1 1) := (Ipv4.isBlocked_iff _).1 (by decide)
    obtain ⟨u, -, refused, -⟩ := literal_screened written
    exact (refused blocked).1
  · have group : Ipv6.GroupSpelled "ffff".toList 0xFFFF := ⟨.ofDigits (by decide), by decide, by decide⟩
    have low : Ipv6.SideSpelled true "ffff:93.184.216.34".toList [0xFFFF, 0x5DB8, 0xD822] :=
      .filled (.more group (.address (.ofOctets 93 184 216 34) rfl))
    have spelled : Ipv6.Spelled "::ffff:93.184.216.34".toList (.ofIpv4 (.ofOctets 93 184 216 34)) :=
      @Ipv6.Spelled.gap [] _ [] _ 5 _ .empty low (by decide) (by decide)
    have written : Url.WebText "https" (.ipv6 (.ofIpv4 (.ofOctets 93 184 216 34))) 443
        (Url.prepared (trimmed "https:[::ffff:93.184.216.34]").toList) :=
      @Url.WebText.intro _ _ _ "https".toList [] [] _ [] [] (.inr rfl) (by decide) (by simp) (.inl rfl) (.ipv6 spelled)
        (.absent rfl) (by simp)
    have free : ¬ Ipv6.Blocked (.ofIpv4 (.ofOctets 93 184 216 34)) := by
      rw [← Ipv6.isBlocked_iff]
      decide
    obtain ⟨u, -, -, passed⟩ := literal_screened written
    exact ⟨u, passed free⟩

end WorkflowEngine
