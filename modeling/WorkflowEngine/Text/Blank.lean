/-
Module: WorkflowEngine.Text.Blank
Layer: Text
Purpose: White space and trimming.
Imports: none
Trusted boundary: none
Main exports: isBlank, trim, String.trimmed
-/

/-!
# White space

White space is the property `White_Space` of the Unicode standard.  Trimming removes it from both ends.
-/

namespace WorkflowEngine

/-- The characters with the property `White_Space`. -/
def isBlank (c : Char) : Bool :=
  let n := c.toNat
  (0x9 ≤ n && n ≤ 0xD) || n = 0x20 || n = 0x85 || n = 0xA0 || n = 0x1680
    || (0x2000 ≤ n && n ≤ 0x200A) || n = 0x2028 || n = 0x2029 || n = 0x202F || n = 0x205F || n = 0x3000

/-- Removes white space from the end. -/
def trimEnd (cs : List Char) : List Char := (cs.reverse.dropWhile isBlank).reverse

/-- Removes white space from both ends. -/
def trim (cs : List Char) : List Char := trimEnd (cs.dropWhile isBlank)

/-- The text without white space at either end. -/
def trimmed (s : String) : String := String.ofList (trim s.toList)

/-! ## Small lemmas -/

theorem trimEnd_append_blank {cs ws : List Char} (h : ∀ c ∈ ws, isBlank c = true) :
    trimEnd (cs ++ ws) = trimEnd cs := by
  have drop : ∀ xs : List Char, (∀ c ∈ xs, isBlank c = true) →
      ∀ ys : List Char, (xs ++ ys).dropWhile isBlank = ys.dropWhile isBlank := by
    intro xs hxs ys
    induction xs with
    | nil => rfl
    | cons x xs ih =>
        have hx := hxs x (by simp)
        simp [hx, ih (fun c hc => hxs c (by simp [hc]))]
  simp [trimEnd, drop ws.reverse (by simpa using h)]

theorem trim_eq_self {cs : List Char} (first : ∀ c, cs.head? = some c → isBlank c = false)
    (last : ∀ c, cs.getLast? = some c → isBlank c = false) : trim cs = cs := by
  have keep : ∀ xs : List Char, (∀ c, xs.head? = some c → isBlank c = false) → xs.dropWhile isBlank = xs := by
    intro xs hxs
    cases xs with
    | nil => rfl
    | cons x xs => simp [hxs x rfl]
  rw [trim, keep cs first, trimEnd, keep cs.reverse (by simpa using last), List.reverse_reverse]

theorem mem_trim {c : Char} {cs : List Char} (member : c ∈ cs) (h : isBlank c = false) : c ∈ trim cs := by
  have keep : ∀ xs : List Char, c ∈ xs → c ∈ xs.dropWhile isBlank := by
    intro xs hc
    induction xs with
    | nil => exact hc
    | cons x xs ih =>
        rw [List.dropWhile_cons]
        split
        · rename_i hx
          rcases List.mem_cons.mp hc with rfl | rest
          · simp [h] at hx
          · exact ih rest
        · exact hc
  have inner := keep cs member
  rw [trim, trimEnd, List.mem_reverse]
  exact keep _ (List.mem_reverse.mpr inner)

end WorkflowEngine
