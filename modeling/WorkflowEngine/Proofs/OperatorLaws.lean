/-
Module: WorkflowEngine.Proofs.OperatorLaws
Layer: Proofs
Purpose: The laws of the eight operators.  Both equalities are symmetric, the strict one implies the loose one, and
  each keeps undefined, null and composite operands apart from all others (`Operand.EqualityLaws`).  Of one comparison
  with different operators, equalities and their negations are complements, and the orderings are those of a line on
  which everything but NaN has a place (`Comparison.Lawful`).
Imports: WorkflowEngine.Condition.Comparison
Trusted boundary: none
Main exports: Binary64.compared, Operand.EqualityLaws, Operand.looseEq_of_strictEq, Comparison.target?,
  Comparison.Lawful, operators_lawful
-/
import WorkflowEngine.Condition.Comparison

namespace WorkflowEngine

/-! ## Places of numbers -/

namespace Binary64

variable {x y : Binary64}

/-- How two numbers compare: by their places, or not at all. -/
inductive Compared (x y : Binary64) : Prop where
  | placed (m n : Int) (forth : ∀ relation, related relation x y = relation m n)
      (back : ∀ relation, related relation y x = relation n m)
  | unordered (nan : x = .nan ∨ y = .nan) (forth : ∀ relation, related relation x y = false)
      (back : ∀ relation, related relation y x = false)

theorem compared (x y : Binary64) : Compared x y := by
  cases left : x.place with
  | none =>
      obtain rfl := place_eq_none_iff.mp left
      exact .unordered (.inl rfl) (related_nan_left · y) (related_nan_right · y)
  | some m =>
      cases right : y.place with
      | none =>
          obtain rfl := place_eq_none_iff.mp right
          exact .unordered (.inr rfl) (related_nan_right · x) (related_nan_left · x)
      | some n => exact .placed m n (by simp [related, left, right]) (by simp [related, left, right])

theorem eq_self (number : x ≠ .nan) : x.eq x = true := by
  cases place : x.place with
  | none => exact absurd (place_eq_none_iff.mp place) number
  | some n => simp [eq, related, place]

theorem le_of_lt (less : x.lt y = true) : x.le y = true := by
  cases compared x y with
  | placed m n forth =>
      simp only [lt, le, forth, decide_eq_true_eq] at less ⊢
      exact Int.le_of_lt less
  | unordered nan forth =>
      rw [lt, forth] at less
      cases less

theorem not_lt_of_lt (less : x.lt y = true) : y.lt x = false := by
  cases compared x y with
  | placed m n forth back =>
      simp only [lt, forth, back, decide_eq_true_eq, decide_eq_false_iff_not] at less ⊢
      omega
  | unordered nan forth back => exact back _

/-- Exactly one of three conditions holds. -/
def ExactlyOne (a b c : Bool) : Prop := a.toNat + b.toNat + c.toNat = 1

/-- Of two numbers, one is the lesser one, or neither is and they are at one place. -/
theorem trichotomy (left : x ≠ .nan) (right : y ≠ .nan) : ExactlyOne (x.lt y) (y.lt x) (y.le x && x.le y) := by
  cases compared x y with
  | unordered nan => exact absurd nan (not_or_intro left right)
  | placed m n forth back =>
      simp only [ExactlyOne, lt, le, forth, back]
      rcases Int.lt_trichotomy m n with less | rfl | greater
      · simp [less, Int.not_lt.mpr (Int.le_of_lt less), Int.not_le.mpr less]
      · simp
      · simp [greater, Int.not_lt.mpr (Int.le_of_lt greater), Int.not_le.mpr greater]

end Binary64

/-! ## Equalities -/

namespace Operand

variable {a b : Operand}

/-- The laws that both equalities obey. -/
structure EqualityLaws (equal : Operand → Operand → Bool) : Prop where
  symmetric : ∀ a b, equal a b = equal b a
  undefined : ∀ a, equal .undefined a = true ↔ a = .undefined
  null : ∀ a, equal .null a = true ↔ a = .null
  composite : ∀ v a, equal (.composite v) a = false

theorem strictEq_laws : EqualityLaws strictEq where
  symmetric := strictEq_comm
  undefined a := by cases a <;> simp [strictEq]
  null a := by cases a <;> simp [strictEq]
  composite v a := rfl

theorem looseEq_comm (a b : Operand) : a.looseEq b = b.looseEq a := by
  unfold looseEq
  generalize a.boolAsNumber = x
  generalize b.boolAsNumber = y
  cases x <;> cases y
  case number.text => exact Binary64.eq_symm ..
  case text.number => exact Binary64.eq_symm ..
  all_goals exact strictEq_comm ..

theorem looseEq_laws : EqualityLaws looseEq where
  symmetric := looseEq_comm
  undefined a := by cases a <;> simp [looseEq, boolAsNumber, strictEq]
  null a := by cases a <;> simp [looseEq, boolAsNumber, strictEq]
  composite v a := by cases a <;> rfl

/-- What is equal without conversion is equal after it. -/
theorem looseEq_of_strictEq (equal : a.strictEq b = true) : a.looseEq b = true := by
  cases a <;> cases b
  case undefined.undefined => rfl
  case null.null => rfl
  case number.number => exact equal
  case text.text => exact equal
  case bool.bool x y =>
    obtain rfl : x = y := eq_of_beq equal
    have number : numberOfBool x ≠ .nan := Binary64.ofNat_ne_nan x.toNat
    change (numberOfBool x).eq (numberOfBool x) = true
    exact Binary64.eq_self number
  -- Operands of different kinds are not strictly equal.
  all_goals cases equal

end Operand

/-! ## Operators -/

namespace Comparison

/-- The value that a path leads to in a context. -/
def target? : List String → Json.Object → Option Json
  | [], _ => none
  | head :: rest, context => (context.find? head).bind (Json.descend? rest)

theorem resolve_eq (path : List String) (context : Json.Object) :
    resolve path context = (target? path context).elim .undefined .ofJson := by
  cases path with
  | nil => rfl
  | cons head rest =>
      rw [resolve, target?]
      cases (context.find? head).bind (Json.descend? rest) <;> rfl

/-- There is no value, or it is a list or an object. -/
def NoScalar : Option Json → Prop
  | none | some (.list _) | some (.object _) => True
  | _ => False

/-- What a path finds counts as no number if it leads nowhere, or to a list or an object. -/
theorem toNumber_resolve {path : List String} {context : Json.Object} (noScalar : NoScalar (target? path context)) :
    (resolve path context).toNumber = .nan := by
  rw [resolve_eq]
  cases found : target? path context with
  | none => rfl
  | some v =>
      rw [found] at noScalar
      cases v with
      | list | object => rfl
      | _ => exact noScalar.elim

/-- Whether a path and an operand are related by an operator in a context. -/
def relates (path : List String) (right : Operand) (context : Json.Object) (op : Operator) : Bool :=
  evaluate ⟨path, op, right⟩ context

/-- The laws of the operators between what a path finds and an operand. -/
structure Lawful (path : List String) (right : Operand) (context : Json.Object) : Prop where
  strictNe : relates path right context .strictNe = !relates path right context .strictEq
  looseNe : relates path right context .looseNe = !relates path right context .looseEq
  notBoth : ¬ (relates path right context .gt = true ∧ relates path right context .lt = true)
  ge_of_gt : relates path right context .gt = true → relates path right context .ge = true
  le_of_lt : relates path right context .lt = true → relates path right context .le = true
  unordered : (resolve path context).toNumber = .nan ∨ right.toNumber = .nan →
    ∀ op ∈ [Operator.gt, .lt, .ge, .le], relates path right context op = false
  unresolved : NoScalar (target? path context) →
    ∀ op ∈ [Operator.gt, .lt, .ge, .le], relates path right context op = false
  ordered : (resolve path context).toNumber ≠ .nan → right.toNumber ≠ .nan →
    Binary64.ExactlyOne (relates path right context .lt) (relates path right context .gt)
      (relates path right context .ge && relates path right context .le)

variable {path : List String} {right : Operand} {context : Json.Object}

theorem relates_unordered (nan : (resolve path context).toNumber = .nan ∨ right.toNumber = .nan) :
    ∀ op ∈ [Operator.gt, .lt, .ge, .le], relates path right context op = false := by
  simp only [List.forall_mem_cons, relates, evaluate, Operator.holds, Binary64.lt, Binary64.le]
  rcases nan with left | right
  · simp [left, Binary64.related_nan_left, Binary64.related_nan_right]
  · simp [right, Binary64.related_nan_left, Binary64.related_nan_right]

theorem lawful (path : List String) (right : Operand) (context : Json.Object) : Lawful path right context where
  strictNe := rfl
  looseNe := rfl
  notBoth both := by
    have reverse : relates path right context .lt = false := Binary64.not_lt_of_lt both.1
    rw [reverse] at both
    cases both.2
  ge_of_gt := Binary64.le_of_lt
  le_of_lt := Binary64.le_of_lt
  unordered := relates_unordered
  unresolved noScalar := relates_unordered (.inl (toNumber_resolve noScalar))
  ordered := Binary64.trichotomy

end Comparison

/-- The operators obey their laws, whatever operands they are given: so do both equalities, of which the strict one
implies the loose one, and so do all eight operators between whatever a path finds and whatever it is compared
with. -/
theorem operators_lawful :
    Operand.EqualityLaws Operand.strictEq ∧ Operand.EqualityLaws Operand.looseEq ∧
      (∀ a b : Operand, a.strictEq b = true → a.looseEq b = true) ∧
        ∀ path right context, Comparison.Lawful path right context :=
  ⟨Operand.strictEq_laws, Operand.looseEq_laws, fun _ _ => Operand.looseEq_of_strictEq, Comparison.lawful⟩

end WorkflowEngine
