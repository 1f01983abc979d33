/-
Module: WorkflowEngine.Proofs.ConditionText
Layer: Proofs
Purpose: Comparisons as they are written: a path, an operator and what it is compared with, with white space
  between them.  What follows the operator is taken as one literal to the end of the text, whatever it is, unless
  it takes more than a line (`Expression.read?_phrase`).
Imports: WorkflowEngine.Condition.Expression
Trusted boundary: none
Main exports: ComparisonPhrase, Expression.readTail?_operator, Expression.readComparison?_phrase,
  Expression.read?_phrase
-/
import WorkflowEngine.Condition.Expression

namespace WorkflowEngine

/-! ## Comparisons as they are written -/

namespace Operator

/-- Some operator is written as this one and an equals sign. -/
def Grows (op : Operator) : Prop := ∃ longer : Operator, longer.chars = op.chars ++ ['=']

/-- An operator starts with a character that stands in no path and is no white space. -/
theorem chars_head (op : Operator) :
    ∃ c, op.chars.head? = some c ∧ Expression.isPathChar c = false ∧ isBlank c = false := by
  cases op <;> exact ⟨_, rfl, by decide +kernel⟩

/-- An operator has a character that stands in neither of the words, whatever the case of its letters. -/
theorem chars_foreign (op : Operator) : ∃ c ∈ op.chars, ∀ value : Bool, c.toLower ∉ (toString value).toList := by
  cases op <;> exact ⟨_, List.mem_cons_self, by decide +kernel⟩

/-- An operator whose text starts what follows is the one that is written, or that one grew from it. -/
theorem of_prefix {op other : Operator} {c : Char} {rest : List Char} (apart : op.Grows → c ≠ '=')
    (starts : other.chars <+: op.chars ++ c :: rest) : other = op ∨ op.chars = other.chars ++ ['='] := by
  have grows (longer : Operator) (h : longer.chars = op.chars ++ ['=']) : c ≠ '=' := apart ⟨longer, h⟩
  cases op <;> cases other <;> simp [Operator.chars] at starts ⊢
  · exact grows .strictEq rfl starts.symm
  · exact grows .strictNe rfl starts.symm
  · exact grows .ge rfl starts.symm
  · exact grows .le rfl starts.symm

/-- Every operator stands before those that its text starts with. -/
theorem all_split (op : Operator) :
    ∃ before after, all = before ++ op :: after ∧ ∀ o ∈ before, ¬ o.chars <+: op.chars := by
  refine ⟨all.takeWhile (· ≠ op), (all.dropWhile (· ≠ op)).tail, ?_⟩
  cases op <;> decide

end Operator

/-- What a comparison starts with: a path and an operator, each with white space after it. -/
structure ComparisonPhrase where
  segments : List (List Char)
  gap : List Char
  op : Operator
  gapAfter : List Char
  segments_ne_nil : segments ≠ []
  segment_ne_nil : ∀ s ∈ segments, s ≠ []
  segment_chars : ∀ s ∈ segments, ∀ c ∈ s, Expression.isSegmentChar c = true
  gap_blank : ∀ c ∈ gap, isBlank c = true
  gapAfter_blank : ∀ c ∈ gapAfter, isBlank c = true

namespace ComparisonPhrase

variable (p : ComparisonPhrase)

/-- The path. -/
def path : List String := p.segments.map String.ofList

/-- The text of the path. -/
def pathChars : List Char := ['.'].intercalate p.segments

/-- The text. -/
def chars : List Char := p.pathChars ++ (p.gap ++ (p.op.chars ++ p.gapAfter))

/-- A text can follow as the literal: it is there and starts with no white space, and the operator is not
continued by it. -/
structure Takes (right : List Char) : Prop where
  ne_nil : right ≠ []
  starts : ∀ c, right.head? = some c → isBlank c = false
  apart : p.op.Grows → (p.gapAfter ++ right).head? ≠ some '='

theorem pathChars_path : ∀ c ∈ p.pathChars, Expression.isPathChar c = true := by
  have inside : ∀ segments : List (List Char), (∀ s ∈ segments, ∀ c ∈ s, Expression.isSegmentChar c = true) →
      ∀ c ∈ ['.'].intercalate segments, Expression.isPathChar c = true := by
    intro segments
    induction segments with
    | nil => simp
    | cons s rest ih =>
        intro known c member
        have own : ∀ c ∈ s, Expression.isPathChar c = true := by
          intro c hc
          simp [Expression.isPathChar, known s List.mem_cons_self c hc]
        cases rest with
        | nil => exact own c (by simpa using member)
        | cons next rest =>
            rw [List.intercalate_cons_cons, List.append_assoc, List.mem_append] at member
            rcases member with first | later
            · exact own c first
            · rcases List.mem_cons.mp later with rfl | later
              · rfl
              · exact ih (fun s hs => known s (List.mem_cons_of_mem _ hs)) c later
  exact inside p.segments p.segment_chars

/-- The text starts with a character of the first segment. -/
theorem pathChars_head : ∃ c, p.pathChars.head? = some c ∧ Expression.isSegmentChar c = true := by
  obtain ⟨s, rest, eq⟩ := List.exists_cons_of_ne_nil p.segments_ne_nil
  have member : s ∈ p.segments := by simp [eq]
  obtain ⟨c, cs, rfl⟩ := List.exists_cons_of_ne_nil (p.segment_ne_nil s member)
  refine ⟨c, ?_, p.segment_chars _ member c List.mem_cons_self⟩
  rw [pathChars, eq]
  cases rest with
  | nil => rfl
  | cons next rest => rfl

/-- What starts with the path starts with no white space. -/
theorem pathChars_starts {rest : List Char} : ∀ c, (p.pathChars ++ rest).head? = some c → isBlank c = false := by
  intro c first
  obtain ⟨d, head, known⟩ := p.pathChars_head
  rw [List.head?_append, head] at first
  cases first
  cases blank : isBlank c with
  | false => rfl
  | true => simp [Expression.isSegmentChar, blank] at known

theorem splitOn_pathChars : p.pathChars.splitOn '.' = p.segments := by
  apply List.splitOn_intercalate
  · intro s hs dot
    have known := p.segment_chars s hs '.' dot
    cases known
  · exact p.segments_ne_nil

end ComparisonPhrase

namespace Expression

/-! ## Reading them -/

variable {p : ComparisonPhrase} {right : List Char}

theorem isPathChar_of_blank {c : Char} (blank : isBlank c = true) : isPathChar c = false := by
  have notDot : c ≠ '.' := by
    rintro rfl
    cases blank
  simp [isPathChar, isSegmentChar, blank, notDot]

theorem readPath?_pathChars (p : ComparisonPhrase) : readPath? p.pathChars = some p.path := by
  have full : p.segments.any List.isEmpty = false := by
    rw [List.any_eq_false]
    intro s hs
    simpa using p.segment_ne_nil s hs
  simp [readPath?, p.splitOn_pathChars, full, ComparisonPhrase.path]

theorem readRight?_eq_none {op : Operator} {cs : List Char} (other : ¬ op.chars <+: cs) : readRight? op cs = none := by
  unfold readRight?
  rw [if_neg]
  rwa [List.isPrefixOf_iff_prefix]

theorem readRight?_append (op : Operator) (rest : List Char) :
    readRight? op (op.chars ++ rest) =
      if (rest.dropWhile isBlank).isEmpty || (rest.dropWhile isBlank).contains '\n' then none
      else some (rest.dropWhile isBlank) := by
  unfold readRight?
  rw [if_pos (List.isPrefixOf_iff_prefix.mpr (List.prefix_append ..)), List.drop_left]

/-- What is taken from the front, and dropped there, ends before the first character that differs. -/
theorem span_append {f : Char → Bool} {front rest : List Char} (inside : ∀ c ∈ front, f c = true)
    (stops : ∀ c, rest.head? = some c → f c = false) :
    (front ++ rest).takeWhile f = front ∧ (front ++ rest).dropWhile f = rest :=
  ⟨takeWhile_until inside stops, dropWhile_until inside stops⟩

/-- What follows the operator is the literal, as long as it takes no more than a line. -/
theorem readTail?_operator (takes : p.Takes right) :
    readTail? (p.op.chars ++ (p.gapAfter ++ right)) =
      if '\n' ∈ right then none else some (p.op, .ofLiteral right) := by
  have literal : (p.gapAfter ++ right).dropWhile isBlank = right := (span_append p.gapAfter_blank takes.starts).2
  have own := readRight?_append p.op (p.gapAfter ++ right)
  simp only [literal, List.isEmpty_eq_false_iff.mpr takes.ne_nil, Bool.false_or, List.contains_iff_mem] at own
  have apart := takes.apart
  obtain ⟨c, rest, follows⟩ := List.exists_cons_of_ne_nil (l := p.gapAfter ++ right) (by simp [takes.ne_nil])
  have notEq : p.op.Grows → c ≠ '=' := by simpa [follows] using apart
  split
  · rename_i lines
    -- A shorter operator would leave an equals sign before the same lines.
    apply List.findSome?_eq_none_iff.mpr
    intro op _
    rw [Option.map_eq_none_iff]
    by_cases starts : op.chars <+: p.op.chars ++ (p.gapAfter ++ right)
    · rcases Operator.of_prefix notEq (follows ▸ starts) with rfl | grown
      · rw [own, if_pos lines]
      · rw [grown, List.append_assoc, readRight?_append, if_pos]
        simp [isBlank, lines]
    · exact readRight?_eq_none starts
  · rename_i oneLine
    obtain ⟨before, after, split, longer⟩ := Operator.all_split p.op
    apply List.findSome?_eq_some_iff.mpr
    refine ⟨before, p.op, after, split, ?_, ?_⟩
    · rw [own, if_neg oneLine]
      rfl
    · intro op member
      rw [Option.map_eq_none_iff]
      apply readRight?_eq_none
      intro starts
      rcases Operator.of_prefix notEq (follows ▸ starts) with rfl | grown
      · exact longer _ member (List.prefix_refl _)
      · exact longer op member (grown ▸ List.prefix_append ..)

/-- The path ends at the white space, or else at the operator; with that white space gone the operator is next. -/
theorem span_phrase (p : ComparisonPhrase) (rest : List Char) :
    (p.pathChars ++ (p.gap ++ (p.op.chars ++ rest))).takeWhile isPathChar = p.pathChars ∧
      ((p.pathChars ++ (p.gap ++ (p.op.chars ++ rest))).dropWhile isPathChar).dropWhile isBlank =
        p.op.chars ++ rest := by
  obtain ⟨o, first, notPath, notBlank⟩ := p.op.chars_head
  have starts : ∀ c, (p.op.chars ++ rest).head? = some c → isPathChar c = false ∧ isBlank c = false := by
    intro c head
    rw [List.head?_append, first] at head
    cases head
    exact ⟨notPath, notBlank⟩
  have ended : ∀ c, (p.gap ++ (p.op.chars ++ rest)).head? = some c → isPathChar c = false := by
    intro c head
    cases blank : p.gap with
    | nil =>
        rw [blank] at head
        exact (starts c head).1
    | cons d gap =>
        rw [blank] at head
        cases head
        exact isPathChar_of_blank (p.gap_blank c (by simp [blank]))
  obtain ⟨taken, dropped⟩ := span_append p.pathChars_path ended
  refine ⟨taken, ?_⟩
  rw [dropped]
  exact (span_append p.gap_blank fun c head => (starts c head).2).2

theorem readComparison?_phrase (takes : p.Takes right) :
    readComparison? (p.chars ++ right) =
      if '\n' ∈ right then none else some ⟨p.path, p.op, .ofLiteral right⟩ := by
  have split : p.chars ++ right = p.pathChars ++ (p.gap ++ (p.op.chars ++ (p.gapAfter ++ right))) := by
    simp [ComparisonPhrase.chars]
  obtain ⟨path, tail⟩ := span_phrase p (p.gapAfter ++ right)
  simp only [readComparison?, split, path, tail, readPath?_pathChars, readTail?_operator takes]
  split <;> rfl

theorem sameWord_eq_false {word cs : List Char} {c : Char} (member : c ∈ cs) (foreign : c.toLower ∉ word) :
    sameWord word cs = false := by
  rw [sameWord, beq_eq_false_iff_ne]
  intro same
  apply foreign
  rw [← same]
  exact List.mem_map_of_mem member

/-- A text with an operator in it is read as a comparison. -/
theorem read?_of_operator {op : Operator} {cs : List Char} (inside : op.chars ⊆ trim cs) :
    read? cs = (readComparison? (trim cs)).map .compare := by
  obtain ⟨o, member, foreign⟩ := op.chars_foreign
  have noTrue : sameWord "true".toList (trim cs) = false := sameWord_eq_false (inside member) (foreign true)
  have noFalse : sameWord "false".toList (trim cs) = false := sameWord_eq_false (inside member) (foreign false)
  simp only [read?, noTrue, noFalse, Bool.false_eq_true, if_false]

theorem getLast?_append_of_ne_nil {front back : List Char} (full : back ≠ []) :
    (front ++ back).getLast? = back.getLast? := by
  rw [List.getLast?_append, List.getLast?_eq_some_getLast full]
  rfl

/-- What is read of a text that starts with a comparison: the rest is its literal, unless that takes more than a
line. -/
theorem read?_phrase (takes : p.Takes right) (ends : ∀ c, right.getLast? = some c → isBlank c = false) :
    read? (p.chars ++ right) =
      if '\n' ∈ right then none else some (.compare ⟨p.path, p.op, .ofLiteral right⟩) := by
  have trimmed : trim (p.chars ++ right) = p.chars ++ right := by
    apply trim_eq_self
    · rw [ComparisonPhrase.chars, List.append_assoc]
      exact p.pathChars_starts
    · intro c last
      apply ends
      rwa [getLast?_append_of_ne_nil takes.ne_nil] at last
  have inside : p.op.chars ⊆ trim (p.chars ++ right) := by
    intro o member
    rw [trimmed]
    simp [ComparisonPhrase.chars, member]
  rw [read?_of_operator inside, trimmed, readComparison?_phrase takes]
  split <;> rfl

end Expression

end WorkflowEngine
