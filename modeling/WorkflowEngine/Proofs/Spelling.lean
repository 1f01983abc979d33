/-
Module: WorkflowEngine.Proofs.Spelling
Layer: Proofs
Purpose: Texts as a reader of bytes sees them.  The bytes of a character spell its code point in one of four lengths
  (`utf8Bytes_encoded`), so that a text can be told from its bytes (`Json.unspell_spell`); characters of one byte are
  seen as themselves, and the bytes of all others are seen as characters that mean nothing to a reader.
Imports: WorkflowEngine.Json.Reader
Trusted boundary: none
Main exports: Encoded, utf8Bytes_encoded, Utf8.ofUtf8?_flatMap, Json.source_octets, Json.spell_narrow, Json.spell_wide,
  Json.unspell_spell
-/
import WorkflowEngine.Json.Reader

namespace WorkflowEngine

/-! ## Bytes of characters -/

/-- How bytes spell a code point: it is a byte, or a first byte holds its highest bits and each other six of them. -/
inductive Encoded (n : Nat) : List Nat → Prop where
  | one (small : n < 0x80) : Encoded n [n]
  | two (large : 0x80 ≤ n) (small : n < 0x800) : Encoded n [n / 64 + 0xC0, n % 64 + 0x80]
  | three (large : 0x800 ≤ n) (small : n < 0x10000) (whole : ¬ (0xD800 ≤ n ∧ n < 0xE000)) :
      Encoded n [n / 4096 + 0xE0, n / 64 % 64 + 0x80, n % 64 + 0x80]
  | four (large : 0x10000 ≤ n) (small : n < 0x110000) :
      Encoded n [n / 262144 + 0xF0, n / 4096 % 64 + 0x80, n / 64 % 64 + 0x80, n % 64 + 0x80]

theorem utf8Bytes_encoded (c : Char) : Encoded c.toNat (utf8Bytes c) := by
  have valid : c.toNat < 0xD800 ∨ 0xDFFF < c.toNat ∧ c.toNat < 0x110000 := c.valid
  have byte {n : Nat} (small : n < 256) : (UInt8.ofNat n).toNat = n := by
    rw [UInt8.toNat_ofNat']
    exact Nat.mod_eq_of_lt small
  have code : c.val.toNat = c.toNat := rfl
  rw [utf8Bytes, String.utf8EncodeChar, code]
  generalize c.toNat = n at valid
  split
  · rename_i one
    rw [List.map_singleton, byte (by omega)]
    exact .one (by omega)
  · split
    · rename_i two
      simp only [List.map_cons, List.map_nil]
      rw [byte (by omega), byte (by omega), show n / 64 % 32 = n / 64 by omega]
      exact .two (by omega) (by omega)
    · split
      · rename_i three
        simp only [List.map_cons, List.map_nil]
        rw [byte (by omega), byte (by omega), byte (by omega), show n / 4096 % 16 = n / 4096 by omega]
        exact .three (by omega) (by omega) (by omega)
      · simp only [List.map_cons, List.map_nil]
        rw [byte (by omega), byte (by omega), byte (by omega), byte (by omega),
          show n / 262144 % 8 = n / 262144 by omega]
        exact .four (by omega) (by omega)

theorem Encoded.byte {n b : Nat} {bytes : List Nat} (h : Encoded n bytes) (member : b ∈ bytes) : b < 256 := by
  cases h <;> simp only [List.mem_cons, List.not_mem_nil, or_false] at member <;> omega

theorem Encoded.wide {n b : Nat} {bytes : List Nat} (h : Encoded n bytes) (large : 0x80 ≤ n) (member : b ∈ bytes) :
    0x80 ≤ b := by
  cases h <;> simp only [List.mem_cons, List.not_mem_nil, or_false] at member <;> omega

namespace Utf8

theorem step_first {byte missing value : Nat} (lead : lead? byte = some (missing, value)) (more : 0 < missing) :
    step none byte = ([], some ⟨1, missing, value⟩) := by
  obtain ⟨missing, rfl⟩ := Nat.exists_eq_add_of_lt more
  simp only [step, start, lead]

/-- A byte with six more bits of a character. -/
theorem step_tail {b : Begun} {low : Nat} (bits : low < 64) (goes : b.goesOn low = true) :
    step (some b) (low + 0x80) =
      if b.missing = 1 then ([.char (Char.ofNat (b.value * 64 + low))], none)
      else ([], some ⟨b.seen + 1, b.missing - 1, b.value * 64 + low⟩) := by
  have tail : (low + 0x80) / 64 = 2 := by omega
  have kept : (low + 0x80) % 64 = low := by omega
  simp only [step, tail, kept, goes, decide_true, Bool.and_self, if_true]

/-- The bytes of a character are read as that character. -/
theorem piecesFrom_utf8Bytes (c : Char) (rest : List Nat) :
    piecesFrom none (utf8Bytes c ++ rest) = .char c :: piecesFrom none rest := by
  have same : Char.ofNat c.toNat = c := Char.ofNat_toNat c
  have encoded := utf8Bytes_encoded c
  generalize c.toNat = n at same encoded
  generalize utf8Bytes c = bytes at encoded
  have bits (m : Nat) : m % 64 < 64 := Nat.mod_lt _ (by decide)
  cases encoded with
  | one small => simp [piecesFrom, step, start, lead?, small, same]
  | two large small =>
      have first : lead? (n / 64 + 0xC0) = some (1, n / 64) := by
        rw [lead?, if_neg (by omega), if_pos (by omega), Nat.add_sub_cancel]
      have value : n / 64 * 64 + n % 64 = n := by omega
      simp only [List.cons_append, List.nil_append, piecesFrom, step_first first (by decide),
        step_tail (b := ⟨1, 1, n / 64⟩) (bits n) rfl, if_true, value, same]
  | three large small whole =>
      have first : lead? (n / 4096 + 0xE0) = some (2, n / 4096) := by
        rw [lead?, if_neg (by omega), if_neg (by omega), if_pos (by omega), Nat.add_sub_cancel]
      have begun : n / 4096 * 64 + n / 64 % 64 = n / 64 := by omega
      have goes : Begun.goesOn ⟨1, 2, n / 4096⟩ (n / 64 % 64) = true := by
        simp only [Begun.goesOn, begun, Bool.and_eq_true, Bool.not_eq_true', Bool.and_eq_false_iff, decide_eq_true_eq,
          decide_eq_false_iff_not]
        omega
      have value : n / 64 * 64 + n % 64 = n := by omega
      simp only [List.cons_append, List.nil_append, piecesFrom, step_first first (by decide), step_tail (bits _) goes,
        begun, step_tail (b := ⟨2, 1, n / 64⟩) (bits n) rfl, value, same, Nat.reduceAdd, Nat.reduceSub, Nat.reduceEqDiff,
        if_true, if_false]
  | four large small =>
      have first : lead? (n / 262144 + 0xF0) = some (3, n / 262144) := by
        rw [lead?, if_neg (by omega), if_neg (by omega), if_neg (by omega), if_pos (by omega), Nat.add_sub_cancel]
      have begun : n / 262144 * 64 + n / 4096 % 64 = n / 4096 := by omega
      have further : n / 4096 * 64 + n / 64 % 64 = n / 64 := by omega
      have goes : Begun.goesOn ⟨1, 3, n / 262144⟩ (n / 4096 % 64) = true := by
        simp only [Begun.goesOn, begun, Bool.and_eq_true, decide_eq_true_eq]
        omega
      have value : n / 64 * 64 + n % 64 = n := by omega
      simp only [List.cons_append, List.nil_append, piecesFrom, step_first first (by decide), step_tail (bits _) goes,
        begun, step_tail (b := ⟨2, 2, n / 4096⟩) (bits (n / 64)) rfl, further,
        step_tail (b := ⟨3, 1, n / 64⟩) (bits n) rfl, value, same, Nat.reduceAdd, Nat.reduceSub, Nat.reduceEqDiff,
        if_true, if_false]

/-- Characters are told from their bytes. -/
theorem ofUtf8?_flatMap (cs : List Char) : ofUtf8? (cs.flatMap utf8Bytes) = some cs := by
  have spelled : pieces (cs.flatMap utf8Bytes) = cs.map Piece.char := by
    induction cs with
    | nil => rfl
    | cons c cs ih =>
        rw [pieces] at ih ⊢
        rw [List.flatMap_cons, piecesFrom_utf8Bytes, ih, List.map_cons]
  rw [ofUtf8?, spelled]
  clear spelled
  induction cs with
  | nil => rfl
  | cons c cs ih =>
      rw [List.map_cons, List.mapM_cons, ih]
      rfl

end Utf8

namespace Json

/-! ## What a reader sees -/

theorem toNat_ofByte (byte : UInt8) : (ofByte byte).toNat = byte.toNat := by
  have valid : byte.toNat.isValidChar := .inl (Nat.lt_trans byte.toNat_lt (by decide))
  rw [ofByte, Char.ofNat, dif_pos valid]
  rfl

theorem map_toNat_spell (c : Char) : (spell c).map Char.toNat = utf8Bytes c := by
  simp [spell, source, utf8Bytes, toNat_ofByte]

/-- The bytes of a text are seen character by character. -/
theorem source_octets (s : String) : source (octets s) = s.toList.flatMap spell := by
  rw [source, octets, List.map_flatMap]
  rfl

/-- A character of one byte is seen as itself. -/
theorem spell_narrow {c : Char} (narrow : c.toNat < 0x80) : spell c = [c] := by
  have encoded := utf8Bytes_encoded c
  have seen := map_toNat_spell c
  generalize utf8Bytes c = bytes at encoded seen
  cases encoded with
  | one =>
      obtain ⟨d, rest, spelled⟩ : ∃ d rest, spell c = d :: rest := by
        cases spelled : spell c with
        | nil => simp [spelled] at seen
        | cons d rest => exact ⟨d, rest, rfl⟩
      rw [spelled] at seen ⊢
      obtain ⟨same, none⟩ := List.cons_eq_cons.1 seen
      rw [List.map_eq_nil_iff.1 none, Char.toNat_inj.1 same]
  | two large | three large | four large => omega

/-- The bytes of any other character are seen as no character of one byte. -/
theorem spell_wide {c d : Char} (wide : 0x80 ≤ c.toNat) (member : d ∈ spell c) : 0x80 ≤ d.toNat := by
  have seen : d.toNat ∈ utf8Bytes c := map_toNat_spell c ▸ List.mem_map_of_mem member
  exact (utf8Bytes_encoded c).wide wide seen

/-- A text is told from what is seen of it. -/
theorem unspell_spell (cs : List Char) : unspell (cs.flatMap spell) = .ok (String.ofList cs) := by
  have seen : (cs.flatMap spell).map Char.toNat = cs.flatMap utf8Bytes := by
    rw [List.map_flatMap]
    simp only [map_toNat_spell]
  rw [unspell, seen, Utf8.ofUtf8?_flatMap]

/-- Characters of one byte each are seen as themselves. -/
theorem flatMap_spell_narrow {cs : List Char} (narrow : ∀ c ∈ cs, c.toNat < 0x80) : cs.flatMap spell = cs := by
  induction cs with
  | nil => rfl
  | cons c cs ih =>
      rw [List.forall_mem_cons] at narrow
      rw [List.flatMap_cons, spell_narrow narrow.1, ih narrow.2, List.singleton_append]

end Json

end WorkflowEngine
