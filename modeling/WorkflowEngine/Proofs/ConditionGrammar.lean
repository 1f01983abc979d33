/-
Module: WorkflowEngine.Proofs.ConditionGrammar
Layer: Proofs
Purpose: The grammar of conditions.  A text is split into a path, an operator and a literal in at most one way for
  each operator; the longest operator that it can be split at is the one that is read, and a text that can be split
  at none, and is neither of the two words, is no condition (`Expression.read?_grammar`).
Imports: WorkflowEngine.Proofs.AddressText, WorkflowEngine.Proofs.ConditionText
Trusted boundary: none
Main exports: Expression.Segment, Expression.Literal, Expression.Splits, Expression.LongestSplit,
  Expression.splits_iff, Expression.LongestSplit.unique, Expression.read?_grammar
-/
import WorkflowEngine.Proofs.AddressText
import WorkflowEngine.Proofs.ConditionText

namespace WorkflowEngine

namespace Operator

theorem chars_injective {a b : Operator} (same : a.chars = b.chars) : a = b := by
  cases a <;> cases b <;> first | rfl | cases same

/-- No operator stands before one that its text starts. -/
theorem all_pairwise : all.Pairwise fun before after => ¬ before.chars <+: after.chars := by decide

end Operator

namespace Expression

/-! ## The grammar -/

/-- A segment of a path: it is not empty, and free of white space and of the characters that operators, paths and
calls are written with. -/
structure Segment (segment : String) : Prop where
  ne_empty : segment ≠ ""
  chars : ∀ c ∈ segment.toList, isBlank c = false ∧ c ∉ ['=', '!', '<', '>', '.', '(', ')']

/-- What may follow an operator and the white space after it: at least one character, on one line. -/
structure Literal (cs : List Char) : Prop where
  ne_nil : cs ≠ []
  starts : ∀ c, cs.head? = some c → isBlank c = false
  oneLine : '\n' ∉ cs

/-- The text is a path, an operator and a literal, with or without white space around the operator. -/
inductive Splits (path : List String) (op : Operator) (literal : List Char) : List Char → Prop where
  | intro {gap gapAfter : List Char} (path_ne_nil : path ≠ []) (segments : ∀ segment ∈ path, Segment segment)
      (gap_blank : ∀ c ∈ gap, isBlank c = true) (gapAfter_blank : ∀ c ∈ gapAfter, isBlank c = true)
      (ends : Literal literal) :
      Splits path op literal
        (['.'].intercalate (path.map String.toList) ++ (gap ++ (op.chars ++ (gapAfter ++ literal))))

/-- The text can be split at no operator that is longer. -/
structure LongestSplit (path : List String) (op : Operator) (literal cs : List Char) : Prop where
  splits : Splits path op literal cs
  longest : ∀ {path' op' literal'}, Splits path' op' literal' cs → op'.chars.length ≤ op.chars.length

/-! ## Paths -/

theorem isSegmentChar_iff {c : Char} :
    isSegmentChar c = true ↔ isBlank c = false ∧ c ∉ ['=', '!', '<', '>', '.', '(', ')'] := by
  simp [isSegmentChar, and_assoc]

theorem Segment.ne_nil {segment : String} (known : Segment segment) : segment.toList ≠ [] :=
  fun empty => known.ne_empty (String.toList_eq_nil_iff.1 empty)

/-- A path is read as its segments. -/
theorem readPath?_eq_some {cs : List Char} {path : List String} (read : readPath? cs = some path) :
    cs = ['.'].intercalate (path.map String.toList) ∧ path ≠ [] ∧
      ∀ segment ∈ path, segment ≠ "" ∧ '.' ∉ segment.toList := by
  simp only [readPath?, Option.ite_none_left_eq_some, Option.some.injEq] at read
  obtain ⟨full, rfl⟩ := read
  have back : (cs.splitOn '.').map (String.toList ∘ String.ofList) = cs.splitOn '.' := by
    simp [Function.comp_def]
  refine ⟨?_, ?_, ?_⟩
  · rw [List.map_map, back, List.intercalate_splitOn]
  · simp [List.splitOn_ne_nil]
  · intro segment member
    obtain ⟨part, among, rfl⟩ := List.mem_map.1 member
    rw [String.toList_ofList]
    refine ⟨?_, not_mem_of_splitOn among⟩
    intro empty
    apply full
    rw [List.any_eq_true]
    exact ⟨part, among, by simpa [String.ofList_eq_empty_iff] using empty⟩

/-! ## Splits -/

section Splits

variable {path : List String} {op : Operator} {literal cs : List Char}

/-- What a split text starts with. -/
def phrase (path : List String) (op : Operator) (gap gapAfter : List Char) (path_ne_nil : path ≠ [])
    (segments : ∀ segment ∈ path, Segment segment) (gap_blank : ∀ c ∈ gap, isBlank c = true)
    (gapAfter_blank : ∀ c ∈ gapAfter, isBlank c = true) : ComparisonPhrase where
  segments := path.map String.toList
  gap := gap
  op := op
  gapAfter := gapAfter
  segments_ne_nil := by simpa using path_ne_nil
  segment_ne_nil := by
    intro s member
    obtain ⟨segment, among, rfl⟩ := List.mem_map.1 member
    exact (segments segment among).ne_nil
  segment_chars := by
    intro s member c inside
    obtain ⟨segment, among, rfl⟩ := List.mem_map.1 member
    exact isSegmentChar_iff.2 ((segments segment among).chars c inside)
  gap_blank := gap_blank
  gapAfter_blank := gapAfter_blank

/-- What follows an operator is a literal after white space. -/
theorem readRight?_eq_some_iff :
    readRight? op cs = some literal ↔
      Literal literal ∧ ∃ gap, (∀ c ∈ gap, isBlank c = true) ∧ cs = op.chars ++ (gap ++ literal) := by
  constructor
  · intro read
    simp only [readRight?, Option.ite_none_right_eq_some, Option.ite_none_left_eq_some, Option.some.injEq,
      Bool.or_eq_true, not_or, List.isPrefixOf_iff_prefix] at read
    obtain ⟨⟨rest, rfl⟩, ⟨filled, oneLine⟩, rfl⟩ := read
    rw [List.drop_left] at filled oneLine ⊢
    refine ⟨⟨by simpa using filled, ?_, by simpa using oneLine⟩, rest.takeWhile isBlank, ?_, ?_⟩
    · intro c first
      have stopped := List.head?_dropWhile_not isBlank rest
      rw [first] at stopped
      simpa using stopped
    · exact List.all_eq_true.1 List.all_takeWhile
    · rw [List.takeWhile_append_dropWhile]
  · rintro ⟨ends, gap, blank, rfl⟩
    rw [readRight?_append, (span_append blank ends.starts).2, if_neg]
    simp [ends.ne_nil, ends.oneLine]

theorem prefix_of_readRight? (follows : readRight? op cs = some literal) : op.chars <+: cs := by
  obtain ⟨-, gap, -, rfl⟩ := readRight?_eq_some_iff.1 follows
  exact List.prefix_append _ _

/-- A text is split where its path ends, and the operator decides how. -/
theorem splits_iff :
    Splits path op literal cs ↔
      readPath? (cs.takeWhile isPathChar) = some path ∧
        readRight? op ((cs.dropWhile isPathChar).dropWhile isBlank) = some literal := by
  constructor
  · rintro ⟨path_ne_nil, segments, gap_blank, gapAfter_blank, ends⟩
    rename_i gap gapAfter
    let p := phrase path op gap gapAfter path_ne_nil segments gap_blank gapAfter_blank
    have own : p.path = path := by
      simp [p, phrase, ComparisonPhrase.path, Function.comp_def]
    obtain ⟨taken, left⟩ := span_phrase p (gapAfter ++ literal)
    constructor
    · have read := readPath?_pathChars p
      rw [← taken, own] at read
      exact read
    · apply readRight?_eq_some_iff.2
      exact ⟨ends, gapAfter, gapAfter_blank, left⟩
  · rintro ⟨named, follows⟩
    obtain ⟨written, path_ne_nil, plain⟩ := readPath?_eq_some named
    obtain ⟨ends, gapAfter, gapAfter_blank, tail⟩ := readRight?_eq_some_iff.1 follows
    have segments : ∀ segment ∈ path, Segment segment := by
      intro segment member
      obtain ⟨filled, noDot⟩ := plain segment member
      refine ⟨filled, ?_⟩
      intro c inside
      have among : c ∈ cs.takeWhile isPathChar := by
        rw [written]
        exact mem_intercalate_of_part (List.mem_map_of_mem member) inside
      have known : isPathChar c = true := List.all_eq_true.1 List.all_takeWhile c among
      have notDot : c ≠ '.' := by
        rintro rfl
        exact noDot inside
      simp only [isPathChar, notDot, decide_false, Bool.or_false] at known
      exact isSegmentChar_iff.1 known
    have whole : cs = cs.takeWhile isPathChar ++ ((cs.dropWhile isPathChar).takeWhile isBlank ++
        (cs.dropWhile isPathChar).dropWhile isBlank) := by
      rw [List.takeWhile_append_dropWhile, List.takeWhile_append_dropWhile]
    rw [whole, written, tail]
    exact .intro path_ne_nil segments (List.all_eq_true.1 List.all_takeWhile) gapAfter_blank ends

theorem Splits.unique {path' : List String} {literal' : List Char} (split : Splits path op literal cs)
    (split' : Splits path' op literal' cs) : path = path' ∧ literal = literal' := by
  obtain ⟨named, follows⟩ := splits_iff.1 split
  obtain ⟨named', follows'⟩ := splits_iff.1 split'
  exact ⟨Option.some.inj (named.symm.trans named'), Option.some.inj (follows.symm.trans follows')⟩

end Splits

/-! ## The operator that is read -/

section Operators

variable {op : Operator} {right : Operand} {literal cs : List Char}

/-- Where nothing is read, no operator can be taken. -/
theorem readRight?_eq_none_of_readTail? (read : readTail? cs = none) (op : Operator) : readRight? op cs = none := by
  have missing := List.findSome?_eq_none_iff.1 read op op.mem_all
  exact Option.map_eq_none_iff.1 missing

/-- What is read is what follows the operator, and it follows no longer one. -/
theorem readTail?_eq_some (read : readTail? cs = some (op, right)) :
    (∃ literal, right = .ofLiteral literal ∧ readRight? op cs = some literal) ∧
      ∀ other literal, readRight? other cs = some literal → other.chars.length ≤ op.chars.length := by
  obtain ⟨before, first, after, eq, here, none⟩ := List.findSome?_eq_some_iff.1 read
  obtain ⟨literal, follows, same⟩ := Option.map_eq_some_iff.1 here
  cases same
  refine ⟨⟨literal, rfl, follows⟩, ?_⟩
  intro other literal' follows'
  -- Two operators that both start the text start with each other, and the longer one stands first.
  have ordered := Operator.all_pairwise
  rw [eq, List.pairwise_append, List.pairwise_cons] at ordered
  have member : other ∈ before ++ op :: after := eq ▸ other.mem_all
  rcases List.mem_append.1 member with earlier | later
  · have missing := none other earlier
    rw [follows'] at missing
    cases missing
  · rcases List.mem_cons.1 later with rfl | later
    · exact Nat.le_refl _
    · have apart := ordered.2.1.1 other later
      have nested := List.prefix_or_prefix_of_prefix (prefix_of_readRight? follows) (prefix_of_readRight? follows')
      exact (nested.resolve_left apart).length_le

/-- The operator that is read is the longest one that a literal follows. -/
theorem readTail?_eq_some_iff :
    readTail? cs = some (op, right) ↔
      (∃ literal, right = .ofLiteral literal ∧ readRight? op cs = some literal) ∧
        ∀ other literal, readRight? other cs = some literal → other.chars.length ≤ op.chars.length := by
  constructor
  · exact readTail?_eq_some
  · rintro ⟨⟨literal, rfl, follows⟩, longest⟩
    cases read : readTail? cs with
    | none =>
        have missing := readRight?_eq_none_of_readTail? read op
        rw [follows] at missing
        cases missing
    | some found =>
        obtain ⟨other, right⟩ := found
        obtain ⟨⟨literal', rfl, follows'⟩, longest'⟩ := readTail?_eq_some read
        have short : other.chars <+: op.chars :=
          List.prefix_of_prefix_length_le (prefix_of_readRight? follows') (prefix_of_readRight? follows)
            (longest other literal' follows')
        have same : other = op :=
          Operator.chars_injective (short.eq_of_length_le (longest' op literal follows))
        cases same
        cases follows.symm.trans follows'
        rfl

end Operators

/-! ## Reading -/

/-- A comparison is read where the text splits, at the longest operator. -/
theorem readComparison?_eq_some_iff {cs : List Char} {c : Comparison} :
    readComparison? cs = some c ↔
      ∃ literal, LongestSplit c.path c.op literal cs ∧ c.right = .ofLiteral literal := by
  constructor
  · intro read
    rw [readComparison?] at read
    split at read
    · cases read
    · rename_i path named
      obtain ⟨⟨op, right⟩, tail, rfl⟩ := Option.map_eq_some_iff.1 read
      obtain ⟨⟨literal, rfl, follows⟩, longest⟩ := readTail?_eq_some tail
      refine ⟨literal, ⟨splits_iff.2 ⟨named, follows⟩, ?_⟩, rfl⟩
      intro path' op' literal' split
      exact longest op' literal' (splits_iff.1 split).2
  · rintro ⟨literal, ⟨split, longest⟩, right⟩
    obtain ⟨named, follows⟩ := splits_iff.1 split
    have tail : readTail? ((cs.dropWhile isPathChar).dropWhile isBlank) = some (c.op, c.right) := by
      apply readTail?_eq_some_iff.2
      refine ⟨⟨literal, right, follows⟩, ?_⟩
      intro other literal' follows'
      exact longest (splits_iff.2 ⟨named, follows'⟩)
    simp only [readComparison?, named, tail]
    rfl

/-- Where no comparison is read the text splits nowhere. -/
theorem readComparison?_eq_none_iff {cs : List Char} :
    readComparison? cs = none ↔ ∀ path op literal, ¬ Splits path op literal cs := by
  constructor
  · intro read path op literal split
    obtain ⟨named, follows⟩ := splits_iff.1 split
    simp only [readComparison?, named, Option.map_eq_none_iff] at read
    have missing := readRight?_eq_none_of_readTail? read op
    rw [follows] at missing
    cases missing
  · intro never
    cases read : readComparison? cs with
    | none => rfl
    | some c =>
        obtain ⟨literal, longest, -⟩ := readComparison?_eq_some_iff.1 read
        exact absurd longest.splits (never _ _ _)

/-- The grammar is unambiguous. -/
theorem LongestSplit.unique {path path' : List String} {op op' : Operator} {literal literal' cs : List Char}
    (split : LongestSplit path op literal cs) (split' : LongestSplit path' op' literal' cs) :
    path = path' ∧ op = op' ∧ literal = literal' := by
  have read : readComparison? cs = some ⟨path, op, .ofLiteral literal⟩ :=
    readComparison?_eq_some_iff.2 ⟨literal, split, rfl⟩
  have read' : readComparison? cs = some ⟨path', op', .ofLiteral literal'⟩ :=
    readComparison?_eq_some_iff.2 ⟨literal', split', rfl⟩
  have same := Option.some.inj (read.symm.trans read')
  obtain rfl : op = op' := congrArg Comparison.op same
  obtain ⟨path, literal⟩ := split.splits.unique split'.splits
  exact ⟨path, rfl, literal⟩

/-- The text is the word for a truth value, in letters of either case. -/
def SaysWord (value : Bool) (cs : List Char) : Prop := cs.map Char.toLower = (toString value).toList

theorem sameWord_iff (value : Bool) (cs : List Char) :
    sameWord (toString value).toList cs = true ↔ SaysWord value cs := beq_iff_eq

variable {cs : List Char}

theorem read?_word {value : Bool} (spoken : SaysWord value (trim cs)) : read? cs = some (.literal value) := by
  cases value with
  | true =>
      have same : sameWord "true".toList (trim cs) = true := (sameWord_iff true _).2 spoken
      simp only [read?, same, if_true]
  | false =>
      have other : sameWord "true".toList (trim cs) = false := by
        rw [sameWord, spoken]
        decide
      have same : sameWord "false".toList (trim cs) = true := (sameWord_iff false _).2 spoken
      simp only [read?, other, same, if_true, Bool.false_eq_true, if_false]

/-- A text is read as the word that it is, or else as a comparison. -/
theorem read?_cases (cs : List Char) :
    (∃ value, SaysWord value (trim cs) ∧ read? cs = some (.literal value)) ∨
      (∀ value, ¬ SaysWord value (trim cs)) ∧ read? cs = (readComparison? (trim cs)).map .compare := by
  by_cases spoken : ∃ value, SaysWord value (trim cs)
  · obtain ⟨value, spoken⟩ := spoken
    exact .inl ⟨value, spoken, read?_word spoken⟩
  · have silent : ∀ value, ¬ SaysWord value (trim cs) := fun value word => spoken ⟨value, word⟩
    have noTrue : sameWord "true".toList (trim cs) = false :=
      Bool.eq_false_iff.2 fun same => silent true ((sameWord_iff true _).1 same)
    have noFalse : sameWord "false".toList (trim cs) = false :=
      Bool.eq_false_iff.2 fun same => silent false ((sameWord_iff false _).1 same)
    refine .inr ⟨silent, ?_⟩
    simp only [read?, noTrue, noFalse, Bool.false_eq_true, if_false]

/-- A word has no operator in it. -/
theorem Splits.no_word {path : List String} {op : Operator} {literal : List Char} (split : Splits path op literal cs) :
    ∀ value, ¬ SaysWord value cs := by
  intro value spoken
  obtain ⟨o, first, foreign⟩ := op.chars_foreign
  have member : o ∈ cs := by
    cases split
    simp [first]
  apply foreign value
  rw [← spoken]
  exact List.mem_map_of_mem member

theorem read?_eq_literal_iff {value : Bool} : read? cs = some (.literal value) ↔ SaysWord value (trim cs) := by
  refine ⟨?_, read?_word⟩
  intro read
  rcases read?_cases cs with ⟨other, spoken, word⟩ | ⟨-, comparison⟩
  · cases word.symm.trans read
    exact spoken
  · obtain ⟨c, -, other⟩ := Option.map_eq_some_iff.1 (comparison.symm.trans read)
    cases other

theorem read?_eq_compare_iff {c : Comparison} :
    read? cs = some (.compare c) ↔
      ∃ literal, LongestSplit c.path c.op literal (trim cs) ∧ c.right = .ofLiteral literal := by
  rw [← readComparison?_eq_some_iff]
  rcases read?_cases cs with ⟨value, spoken, word⟩ | ⟨-, comparison⟩
  · constructor
    · intro read
      cases word.symm.trans read
    · intro read
      obtain ⟨literal, longest, -⟩ := readComparison?_eq_some_iff.1 read
      exact absurd spoken (longest.splits.no_word value)
  · rw [comparison, Option.map_eq_some_iff]
    constructor
    · rintro ⟨other, read, same⟩
      cases same
      exact read
    · intro read
      exact ⟨c, read, rfl⟩

theorem read?_eq_none_iff :
    read? cs = none ↔
      (∀ value, ¬ SaysWord value (trim cs)) ∧ ∀ path op literal, ¬ Splits path op literal (trim cs) := by
  rcases read?_cases cs with ⟨value, spoken, word⟩ | ⟨silent, comparison⟩
  · constructor
    · intro missing
      cases word.symm.trans missing
    · rintro ⟨silent, -⟩
      exact absurd spoken (silent value)
  · rw [comparison, Option.map_eq_none_iff, readComparison?_eq_none_iff]
    exact ⟨fun never => ⟨silent, never⟩, fun both => both.2⟩

/-- An expression is the word that its text says, or the comparison that its text is split into at the longest
operator; every other text is no expression. -/
theorem read?_grammar (cs : List Char) :
    (∀ value, read? cs = some (.literal value) ↔ SaysWord value (trim cs)) ∧
      (∀ c, read? cs = some (.compare c) ↔
        ∃ literal, LongestSplit c.path c.op literal (trim cs) ∧ c.right = .ofLiteral literal) ∧
      (read? cs = none ↔
        (∀ value, ¬ SaysWord value (trim cs)) ∧ ∀ path op literal, ¬ Splits path op literal (trim cs)) :=
  ⟨fun _ => read?_eq_literal_iff, fun _ => read?_eq_compare_iff, read?_eq_none_iff⟩

end Expression

end WorkflowEngine
