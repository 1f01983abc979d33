/-
Module: WorkflowEngine.Proofs.EmbeddedJson
Layer: Proofs
Purpose: Which values are taken as they are.  An object that begins with the key of embedded text stands for another
  value, and never for itself, since no text is read as such an object alone (`Json.readValueFrom_ne_embedded`); all
  other values stand for themselves (`Json.takeAny_eq_self_iff`).
Imports: WorkflowEngine.Json.Decoder, WorkflowEngine.Proofs.SkippedJson
Trusted boundary: none
Main exports: Json.Unembedded, Json.readValueFrom_ne_embedded, Json.takeAny_eq_self_iff
-/
import WorkflowEngine.Json.Decoder
import WorkflowEngine.Proofs.SkippedJson

namespace WorkflowEngine.Json

/-- No object in a value begins with the key of embedded text.  Objects are kept in order, so it would be the smallest
key of the object. -/
inductive Unembedded : Json → Prop where
  | null : Unembedded .null
  | bool (b : Bool) : Unembedded (.bool b)
  | number (n : Number) : Unembedded (.number n)
  | text (s : String) : Unembedded (.text s)
  | list {items : List Json} (inside : ∀ v ∈ items, Unembedded v) : Unembedded (.list items)
  | object {members : Object} (first : members.head?.map Prod.fst ≠ some embeddedKey)
      (inside : ∀ m ∈ members, Unembedded m.2) : Unembedded (.object members)

/-! ## What is read -/

variable {fuel depth : Nat} {cs rest : List Char}

theorem readScalar_ne_object {c : Char} {members : Object} :
    readScalar c cs ≠ .ok (.object members, rest) := by
  intro read
  unfold readScalar at read
  repeat' split at read
  all_goals first
    | cases read
    | obtain ⟨_, -, same⟩ := ok_of_map read
      cases same

/-- A key that was read is still there when all members are. -/
theorem find?_of_readMembersFrom {first : Bool} {done members : Object} {key : String}
    (there : (Object.find? done key).isSome) (read : readMembersFrom fuel depth first done cs = .ok (members, rest)) :
    (Object.find? members key).isSome := by
  induction fuel generalizing first done cs with
  | zero => simp [readMembersFrom] at read
  | succ fuel ih =>
      cases membersRead_of_read read with
      | none => exact there
      | more _ _ _ _ others =>
          refine ih ?_ others
          rw [Object.find?_insert]
          split
          · rfl
          · exact there

/-- What comes first under the key of embedded text is embedded. -/
theorem embedded?_of_first {text colon : List Char} (next : nextKey true cs = .ok (true, text))
    (named : readText text = .ok (embeddedKey, colon)) : embedded? cs = some colon := by
  simp only [embedded?, next, named, if_true]

/-- No text is read as an object whose only key is that of embedded text. -/
theorem readValueFrom_ne_embedded {v w : Json} (read : readValueFrom fuel depth cs = .ok (v, rest)) :
    v ≠ .object [(embeddedKey, w)] := by
  induction fuel generalizing depth cs rest v with
  | zero => simp [readValueFrom] at read
  | succ fuel ih =>
      cases valueRead_of_read read with
      | list => rintro ⟨⟩
      | embedded _ _ _ _ _ inner => exact ih inner
      | scalar _ _ _ reads =>
          rintro rfl
          exact readScalar_ne_object reads
      | object _ plain inside =>
          rintro ⟨⟩
          cases fuel with
          | zero => simp [readMembersFrom] at inside
          | succ fuel =>
              cases membersRead_of_read inside with
              | @more _ _ _ _ _ key value _ next named _ _ others =>
                  have inserted : (Object.find? (Object.insert [] key value) key).isSome := by
                    rw [Object.find?_insert, if_pos rfl]
                    rfl
                  have there := find?_of_readMembersFrom inserted others
                  have same : key = embeddedKey := by
                    by_contra other
                    have differs : (key == embeddedKey) = false := beq_false_of_ne other
                    simp [Object.find?, List.lookup_cons, differs] at there
                  rw [same] at named
                  cases plain.symm.trans (embedded?_of_first next named)

/-! ## What is taken -/

open Decoder

mutual

theorem takeAny_of_unembedded : ∀ v : Json, Unembedded v → takeAny v = .ok v
  | .null, _ | .bool _, _ | .number _, _ | .text _, _ => by rw [takeAny] <;> simp
  | .list items, .list inside => by
      rw [takeAny, takeAnyItems_of_unembedded items inside]
      rfl
  | .object [], _ => by rw [takeAny]
  | .object ((key, value) :: members), .object first inside => by
      have other : key ≠ embeddedKey := fun same => first (congrArg some same)
      rw [takeAny, if_neg other, takeAnyMembers_of_unembedded ((key, value) :: members) inside]
      rfl

theorem takeAnyItems_of_unembedded : ∀ items : List Json, (∀ v ∈ items, Unembedded v) → takeAnyItems items = .ok items
  | [], _ => by rw [takeAnyItems]
  | item :: items, inside => by
      obtain ⟨first, others⟩ := List.forall_mem_cons.1 inside
      rw [takeAnyItems, takeAny_of_unembedded item first, takeAnyItems_of_unembedded items others]
      rfl

theorem takeAnyMembers_of_unembedded :
    ∀ members : List (String × Json), (∀ m ∈ members, Unembedded m.2) → takeAnyMembers members = .ok members
  | [], _ => by rw [takeAnyMembers]
  | (key, value) :: members, inside => by
      obtain ⟨first, others⟩ := List.forall_mem_cons.1 inside
      rw [takeAnyMembers, takeAny_of_unembedded value first, takeAnyMembers_of_unembedded members others]
      rfl

end

/-- An object that begins with the key of embedded text is never taken as it is. -/
theorem takeAny_embedded {value : Json} {members : Object} :
    takeAny (.object ((embeddedKey, value) :: members)) ≠ .ok (.object ((embeddedKey, value) :: members)) := by
  intro taken
  rw [takeAny, if_pos rfl, takeEmbedded.eq_def] at taken
  split at taken
  · obtain ⟨inner, read, taken⟩ := Except.of_bind taken
    obtain ⟨left, read⟩ := ok_of_readEnd (ok_of_mapError read)
    split at taken
    · rename_i alone
      cases List.length_eq_zero_iff.1 alone
      cases taken
      exact readValueFrom_ne_embedded read rfl
    · cases taken
  · cases taken

mutual

theorem unembedded_of_takeAny : ∀ v : Json, takeAny v = .ok v → Unembedded v
  | .null, _ => .null
  | .bool b, _ => .bool b
  | .number n, _ => .number n
  | .text s, _ => .text s
  | .list items, taken => by
      rw [takeAny] at taken
      obtain ⟨_, taken, same⟩ := ok_of_map taken
      cases same
      exact .list (unembedded_of_takeAnyItems items taken)
  | .object [], _ => .object nofun nofun
  | .object ((key, value) :: members), taken => by
      by_cases same : key = embeddedKey
      · subst same
        exact absurd taken takeAny_embedded
      · rw [takeAny, if_neg same] at taken
        obtain ⟨_, taken, whole⟩ := ok_of_map taken
        cases whole
        refine .object ?_ (unembedded_of_takeAnyMembers ((key, value) :: members) taken)
        rintro ⟨⟩
        exact same rfl

theorem unembedded_of_takeAnyItems : ∀ items : List Json, takeAnyItems items = .ok items → ∀ v ∈ items, Unembedded v
  | [], _ => nofun
  | item :: items, taken => by
      rw [takeAnyItems] at taken
      obtain ⟨_, first, taken⟩ := Except.of_bind taken
      obtain ⟨_, others, same⟩ := Except.of_bind taken
      cases same
      exact List.forall_mem_cons.2 ⟨unembedded_of_takeAny item first, unembedded_of_takeAnyItems items others⟩

theorem unembedded_of_takeAnyMembers :
    ∀ members : List (String × Json), takeAnyMembers members = .ok members → ∀ m ∈ members, Unembedded m.2
  | [], _ => nofun
  | (key, value) :: members, taken => by
      rw [takeAnyMembers] at taken
      obtain ⟨_, first, taken⟩ := Except.of_bind taken
      obtain ⟨_, others, same⟩ := Except.of_bind taken
      cases same
      exact List.forall_mem_cons.2 ⟨unembedded_of_takeAny value first, unembedded_of_takeAnyMembers members others⟩

end

/-- Values without embedded text are taken as they are, and no others. -/
theorem takeAny_eq_self_iff {v : Json} : takeAny v = .ok v ↔ Unembedded v :=
  ⟨unembedded_of_takeAny v, takeAny_of_unembedded v⟩

end WorkflowEngine.Json
