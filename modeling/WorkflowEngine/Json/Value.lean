/-
Module: WorkflowEngine.Json.Value
Layer: Json
Purpose: JSON values with exact integers, doubles, and objects kept in key order.
Imports: WorkflowEngine.Number.Binary64
Trusted boundary: none
Main exports: Json, Json.Number, Json.Object, Json.Object.find?, Json.Object.insert
-/
import WorkflowEngine.Number.Binary64

/-!
# JSON values

A number is an integer, kept exactly, or a double.  An object lists its members in strictly increasing key
order, so that two objects with the same members are equal and every walk over one has a fixed order.  The
order of keys is that of their code points.
-/

namespace WorkflowEngine

namespace Json

/-- A JSON number. -/
inductive Number where
  | integer (value : Int)
  | float (value : Binary64)
  deriving DecidableEq, Repr, Inhabited

/-- The nearest double. -/
def Number.toBinary64 : Number → Binary64
  | .integer i => .ofInt i
  | .float x => x

end Json

/-- A JSON value. -/
inductive Json where
  | null
  | bool (value : Bool)
  | number (value : Json.Number)
  | text (value : String)
  | list (items : List Json)
  | object (members : List (String × Json))
  deriving Repr, Inhabited

namespace Json

/-- The members of an object, in key order. -/
abbrev Object := List (String × Json)

namespace Object

/-- The value under a key. -/
def find? (members : Object) (key : String) : Option Json := members.lookup key

/-- The members with `key` holding `value`, whatever it held before. -/
def insert : Object → String → Json → Object
  | [], key, value => [(key, value)]
  | (k, v) :: rest, key, value =>
      if key < k then (key, value) :: (k, v) :: rest
      else if key = k then (key, value) :: rest
      else (k, v) :: insert rest key value

/-- The object with the given members; of two under one key the later counts. -/
def ofList (members : List (String × Json)) : Object :=
  members.foldl (fun o m => insert o m.1 m.2) []

/-- The keys in order. -/
def keys (members : Object) : List String := members.map (·.1)

end Object

/-- An object value from its members in any order. -/
def ofMembers (members : List (String × Json)) : Json := .object (Object.ofList members)

/-- An integer. -/
def ofInt (i : Int) : Json := .number (.integer i)

/-- A natural number. -/
def ofNat (n : Nat) : Json := .number (.integer n)

/-- A text or nothing. -/
def ofOption (s : Option String) : Json := s.elim .null .text

def text? : Json → Option String
  | .text s => some s
  | _ => none

def bool? : Json → Option Bool
  | .bool b => some b
  | _ => none

def members? : Json → Option Object
  | .object o => some o
  | _ => none

/-! ## Equality -/

mutual

/-- Decides equality of values. -/
def decEq : (a b : Json) → Decidable (a = b)
  | .null, .null => isTrue rfl
  | .bool a, .bool b => if h : a = b then isTrue (h ▸ rfl) else isFalse (by simp [h])
  | .number a, .number b => if h : a = b then isTrue (h ▸ rfl) else isFalse (by simp [h])
  | .text a, .text b => if h : a = b then isTrue (h ▸ rfl) else isFalse (by simp [h])
  | .list a, .list b =>
      match decEqList a b with
      | isTrue h => isTrue (h ▸ rfl)
      | isFalse h => isFalse (by simp [h])
  | .object a, .object b =>
      match decEqMembers a b with
      | isTrue h => isTrue (h ▸ rfl)
      | isFalse h => isFalse (by simp [h])
  | .null, .bool _ | .null, .number _ | .null, .text _ | .null, .list _ | .null, .object _
  | .bool _, .null | .bool _, .number _ | .bool _, .text _ | .bool _, .list _ | .bool _, .object _
  | .number _, .null | .number _, .bool _ | .number _, .text _ | .number _, .list _
  | .number _, .object _
  | .text _, .null | .text _, .bool _ | .text _, .number _ | .text _, .list _ | .text _, .object _
  | .list _, .null | .list _, .bool _ | .list _, .number _ | .list _, .text _ | .list _, .object _
  | .object _, .null | .object _, .bool _ | .object _, .number _ | .object _, .text _
  | .object _, .list _ => isFalse (by simp)

/-- Decides equality of lists of values. -/
def decEqList : (a b : List Json) → Decidable (a = b)
  | [], [] => isTrue rfl
  | [], _ :: _ | _ :: _, [] => isFalse (by simp)
  | x :: xs, y :: ys =>
      match decEq x y, decEqList xs ys with
      | isTrue h, isTrue t => isTrue (h ▸ t ▸ rfl)
      | isFalse h, _ => isFalse (by simp [h])
      | _, isFalse t => isFalse (by simp [t])

/-- Decides equality of members. -/
def decEqMembers : (a b : List (String × Json)) → Decidable (a = b)
  | [], [] => isTrue rfl
  | [], _ :: _ | _ :: _, [] => isFalse (by simp)
  | (k, x) :: xs, (l, y) :: ys =>
      if hk : k = l then
        match decEq x y, decEqMembers xs ys with
        | isTrue h, isTrue t => isTrue (hk ▸ h ▸ t ▸ rfl)
        | isFalse h, _ => isFalse (by simp [h])
        | _, isFalse t => isFalse (by simp [t])
      else isFalse (by simp [hk])

end

instance : DecidableEq Json := decEq

/-! ## Small lemmas -/

namespace Object

@[simp] theorem find?_nil (key : String) : find? [] key = none := rfl

/-- Insertion changes what is found under its own key and under no other. -/
theorem find?_insert (o : Object) (key : String) (value : Json) (other : String) :
    (o.insert key value).find? other = if other = key then some value else o.find? other := by
  have differ : ∀ {a b : String}, a ≠ b → (a == b) = false := fun h => by simp [h]
  induction o with
  | nil => by_cases h : other = key <;> simp [insert, find?, List.lookup_cons, List.lookup_nil, h, differ]
  | cons m rest ih =>
      obtain ⟨k, v⟩ := m
      simp only [find?] at ih ⊢
      unfold insert
      split
      · by_cases h : other = key <;> simp [List.lookup_cons, h, differ]
      · split
        · rename_i hk
          subst hk
          by_cases h : other = key <;> simp [List.lookup_cons, h, differ]
        · rename_i hlt hne
          by_cases h : other = k
          · subst h
            have : other ≠ key := fun h => hne h.symm
            simp [this]
          · simp only [List.lookup_cons, differ h, ih]

end Object

end Json

end WorkflowEngine
