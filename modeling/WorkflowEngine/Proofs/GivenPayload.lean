/-
Module: WorkflowEngine.Proofs.GivenPayload
Layer: Proofs
Purpose: The payload of a new execution is the one that the body gives.  The service decodes a body in one pass and
  skips what it does not ask for; where the body is a JSON value (`Service.readBody`), the payload is what stands in
  that value under its key, and an empty object if nothing does (`Service.readPayload_given`).
Imports: WorkflowEngine.Http.Service, WorkflowEngine.Proofs.SkippedJson
Trusted boundary: none
Main exports: Service.readBody, Service.givenPayload, Service.readPayload_read, Service.readPayload_given
-/
import WorkflowEngine.Http.Service
import WorkflowEngine.Proofs.SkippedJson

namespace WorkflowEngine.Service

open Json

/-- Reads a value whose own keys are names, if it is an object: text is embedded only further in. -/
def readOutermost (cs : List Char) : Except Located (Json × List Char) :=
  match skipBlanks cs with
  | '{' :: rest => do
      let (members, rest) ← readMembersFrom (2 * cs.length + 1) (depthLimit - 1) true [] rest
      let rest ← located (endObject rest)
      .ok (.object members, rest)
  | _ => readValue depthLimit cs

/-- Reads a whole body as one value. -/
def readBody (body : List UInt8) : Except Located Json := readEnd (readOutermost (source body))

/-- A body that embeds no text is read like any other value. -/
theorem readOutermost_eq_readValue {cs : List Char}
    (plain : ∀ rest, skipBlanks cs = '{' :: rest → embedded? rest = none) :
    readOutermost cs = readValue depthLimit cs := by
  unfold readOutermost
  split
  · rename_i rest opens
    have shallow : ¬ depthLimit ≤ 1 := by decide
    rw [readValue, readValueFrom, opens]
    simp only [if_neg shallow, plain rest opens]
  · rfl

/-- The payload that a body gives: what stands under its key, or first in a list of fields; else an empty object. -/
def givenPayload : Json → Json
  | .object members => (Object.find? members "trigger_data").getD (.object [])
  | .list items => items.head?.getD (.object [])
  | _ => .object []

variable {fuel more : Nat} {cs rest left : List Char}

/-- How a member of the body is taken in: it is skipped, unless it holds the payload, which must not be there yet. -/
inductive PayloadMember (draft : Option Json) (inside : List Char) : String → Option Json → List Char → Prop where
  | other {key : String} {rest : List Char} (other : key ≠ "trigger_data") (skipped : skipValue inside = .ok rest) :
      PayloadMember draft inside key draft rest
  | payload {value : Json} {rest : List Char} (missing : draft = none)
      (read : readValue 127 inside = .ok (value, rest)) :
      PayloadMember draft inside "trigger_data" (some value) rest

/-- How the members of a body are read: none is left, or one comes before others. -/
inductive PayloadMembers (fuel : Nat) (first : Bool) (draft : Option Json) (cs : List Char) :
    Option Json → List Char → Prop where
  | none {rest : List Char} (next : nextKey first cs = .ok (false, rest)) :
      PayloadMembers fuel first draft cs draft rest
  | more {text colon inside left rest : List Char} {key : String} {put payload : Option Json}
      (next : nextKey first cs = .ok (true, text)) (named : readText text = .ok (key, colon))
      (comes : readColon colon = .ok inside) (taken : PayloadMember draft inside key put left)
      (others : payloadRecord.readMembers 127 fuel false put left = .ok (payload, rest)) :
      PayloadMembers fuel first draft cs payload rest

/-- The one field that is asked for. -/
def payloadField : Json.Field (Option Json) := ⟨"trigger_data", Option.isSome, Decoder.any.map fun v _ => some v⟩

theorem payloadField_of_find? {key : String} {field : Json.Field (Option Json)}
    (found : payloadRecord.fields.find? (·.key == key) = some field) :
    key = "trigger_data" ∧ field = payloadField := by
  have one : payloadRecord.fields = [payloadField] := rfl
  rw [one, List.find?_singleton] at found
  split at found
  · rename_i same
    cases found
    exact ⟨(eq_of_beq same).symm, rfl⟩
  · cases found

theorem payloadMembers_of_read {first : Bool} {draft payload : Option Json}
    (read : payloadRecord.readMembers 127 (fuel + 1) first draft cs = .ok (payload, rest)) :
    PayloadMembers fuel first draft cs payload rest := by
  rw [Record.readMembers] at read
  obtain ⟨⟨more, text⟩, next, read⟩ := Except.of_bind read
  cases more with
  | false =>
      cases read
      exact .none (ok_of_located next)
  | true =>
      obtain ⟨⟨key, colon⟩, named, read⟩ := Except.of_bind read
      simp only at read
      split at read
      · rename_i unknown
        obtain ⟨after, passed, read⟩ := Except.of_bind read
        obtain ⟨inside, comes, skipped⟩ := Except.of_bind (ok_of_located (ok_of_within passed))
        have other : key ≠ "trigger_data" := by
          rintro rfl
          cases unknown
        exact .more (ok_of_located next) (ok_of_located named) comes (.other other skipped) read
      · rename_i field known
        obtain ⟨same, rfl⟩ := payloadField_of_find? known
        cases same
        split at read
        · cases read
        · rename_i missing
          obtain ⟨⟨put, after⟩, passed, read⟩ := Except.of_bind read
          obtain ⟨inside, comes, decoded⟩ := Except.of_bind (ok_of_within passed)
          obtain ⟨⟨value, left⟩, value_read, same⟩ := ok_of_map decoded
          cases same
          have unset : draft = none := by simpa [payloadField] using missing
          exact .more (ok_of_located next) (ok_of_located named) (ok_of_located comes) (.payload unset value_read) read

/-- The payload that was found in the members read so far is the one under its key. -/
theorem readMembers_given {first : Bool} {draft payload : Option Json} {done members : Object}
    (same : Object.find? done "trigger_data" = draft)
    (taken : payloadRecord.readMembers 127 fuel first draft cs = .ok (payload, rest))
    (read : readMembersFrom more 127 first done cs = .ok (members, left)) :
    Object.find? members "trigger_data" = payload := by
  induction fuel generalizing first draft done cs more with
  | zero => simp [Record.readMembers] at taken
  | succ fuel ih =>
      cases more with
      | zero => simp [readMembersFrom] at read
      | succ more =>
          cases payloadMembers_of_read taken with
          | none next =>
              cases membersRead_of_read read with
              | none next' => exact same
              | more next' => cases next.symm.trans next'
          | more next named comes put others =>
              cases membersRead_of_read read with
              | none next' => cases next.symm.trans next'
              | more next' named' comes' value others' =>
                  cases next.symm.trans next'
                  cases named.symm.trans named'
                  cases comes.symm.trans comes'
                  cases put with
                  | other other skipped =>
                      cases skipValue_agrees value skipped
                      refine ih ?_ others others'
                      rw [Object.find?_insert, if_neg (Ne.symm other), same]
                  | payload missing read =>
                      obtain ⟨rfl, rfl⟩ := readValueFrom_unique value read
                      refine ih ?_ others others'
                      rw [Object.find?_insert, if_pos rfl]

/-- After the first of several items no list of one field ends. -/
theorem nextItem_of_endList (ends : endList cs = .ok rest) : nextItem false cs = .ok (false, skipBlanks cs) := by
  rw [endList] at ends
  split at ends
  · cases ends
  · rename_i closed
    rw [nextItem, closed]
    rfl
  · split at ends
    · cases ends
    · cases ends
  · cases ends

/-- A list of fields is read up to its end, so that there is no second item. -/
theorem readFields_given {items : List Json} {payload : Option Json} {after : List Char}
    (taken : Record.readFields 127 payloadRecord.fields 0 none cs = .ok (payload, after))
    (ends : endList after = .ok rest) (read : readItemsFrom fuel 127 0 [] cs = .ok (items, left)) :
    items.head? = payload := by
  have one : payloadRecord.fields = [payloadField] := rfl
  rw [one, Record.readFields] at taken
  obtain ⟨⟨more, text⟩, next, taken⟩ := Except.of_bind taken
  cases fuel with
  | zero => simp [readItemsFrom] at read
  | succ fuel =>
      cases more with
      | false =>
          cases taken
          cases itemsRead_of_read read with
          | none => rfl
          | more next' => cases (ok_of_located next).symm.trans next'
      | true =>
          obtain ⟨⟨put, after⟩, passed, taken⟩ := Except.of_bind taken
          obtain ⟨⟨value, left⟩, decoded, same⟩ := ok_of_map (ok_of_within passed)
          cases same
          cases taken
          cases itemsRead_of_read read with
          | none next' => cases (ok_of_located next).symm.trans next'
          | more next' first others =>
              cases (ok_of_located next).symm.trans next'
              obtain ⟨rfl, rfl⟩ := readValueFrom_unique first decoded
              cases fuel with
              | zero => simp [readItemsFrom] at others
              | succ fuel =>
                  cases itemsRead_of_read others with
                  | none => rfl
                  | more next'' => cases (nextItem_of_endList ends).symm.trans next''

/-- The payload of a body is the one that the body gives. -/
theorem ofText_given {value payload : Json} (taken : payloadRecord.ofText 128 cs = .ok (payload, rest))
    (read : readOutermost cs = .ok (value, left)) : payload = givenPayload value := by
  rw [Record.ofText] at taken
  split at taken
  · rename_i text opens
    obtain ⟨⟨draft, after⟩, members, taken⟩ := Except.of_bind taken
    obtain ⟨complete, completed, taken⟩ := Except.of_bind taken
    obtain ⟨after', ends, taken⟩ := Except.of_bind taken
    cases completed
    cases taken
    rw [readOutermost, opens] at read
    obtain ⟨⟨all, after⟩, inside, read⟩ := Except.of_bind read
    obtain ⟨after', ends, read⟩ := Except.of_bind read
    cases read
    have same : Object.find? [] "trigger_data" = payloadRecord.empty := rfl
    rw [givenPayload, readMembers_given same members inside]
  · rename_i text opens
    obtain ⟨⟨draft, after⟩, fields, taken⟩ := Except.of_bind taken
    obtain ⟨complete, completed, taken⟩ := Except.of_bind taken
    obtain ⟨after', ends, taken⟩ := Except.of_bind taken
    cases completed
    cases taken
    rw [readOutermost, opens] at read
    cases valueRead_of_read read with
    | object opens' | embedded opens' => cases opens.symm.trans opens'
    | scalar starts list =>
        cases opens.symm.trans starts
        exact absurd rfl list
    | list opens' inside =>
        cases opens.symm.trans opens'
        rw [givenPayload, readFields_given fields (ok_of_located ends) inside]
  · exact absurd taken readMismatch_not_ok

/-- How the payload is read: the type, the length or a fault of the body is refused, or the payload is what the body
decodes to. -/
inductive PayloadRead (request : HttpRequest) : Except HttpResponse Json → Prop where
  | untyped : PayloadRead request (.error (.ofText 415 "Expected request with `Content-Type: application/json`"))
  | long : PayloadRead request (.error (.ofText 413 "Failed to buffer the request body: length limit exceeded"))
  | faulty (fault : Json.Located) : PayloadRead request (.error (bodyFault fault))
  | decoded {payload : Json} (decoded : payloadRecord.decoder.readBytes request.body = .ok payload) :
      PayloadRead request (.ok payload)

theorem readPayload_read (request : HttpRequest) : PayloadRead request (readPayload request) := by
  rw [readPayload]
  split
  · exact .untyped
  · split
    · exact .long
    · cases decoded : payloadRecord.decoder.readBytes request.body with
      | error fault => exact .faulty fault
      | ok payload => exact .decoded decoded

/-- The payload that is taken from a body is the one that the body gives. -/
theorem readPayload_given {request : HttpRequest} {value payload : Json} (taken : readPayload request = .ok payload)
    (read : readBody request.body = .ok value) : payload = givenPayload value := by
  have comes := readPayload_read request
  rw [taken] at comes
  cases comes with
  | decoded decoded =>
      obtain ⟨rest, decoded⟩ := ok_of_readEnd decoded
      obtain ⟨left, read⟩ := ok_of_readEnd read
      exact ofText_given decoded read

end WorkflowEngine.Service
