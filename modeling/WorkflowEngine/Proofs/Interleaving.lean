/-
Module: WorkflowEngine.Proofs.Interleaving
Layer: Proofs
Purpose: Callers that share one world, served one request at a time in any order.  What holds of a world and of
  what the callers have said, and is kept by every single answer, holds however the turns fall
  (`Pool.Sound.play`).  A process that runs alone is the case of one caller (`Pool.exists_play_alone`).
Imports: Mathlib.Logic.Function.Basic, WorkflowEngine.Awaited, WorkflowEngine.Proofs.Dialogue
Trusted boundary: none
Main exports: Caller, Pool, Event, Pool.play, Upholds, Pool.Sound.play, Pool.playFacing, Pool.exists_play_ended,
  Pool.exists_play_alone
-/
import Mathlib.Logic.Function.Basic
import WorkflowEngine.Awaited
import WorkflowEngine.Proofs.Dialogue

namespace WorkflowEngine

/-! ## Callers -/

/-- A caller: what is left of the process that goes on for it, which is nothing if it broke down; when it can go on;
what it has asked and been told; and what the caller is told of a breakdown. -/
structure Caller (α : Type) where
  rest : Option (Process α)
  wake : Instant
  said : Dialogue
  interrupted : Option α

namespace Caller

variable {α : Type}

/-- A caller for which nothing has been said yet. -/
def new (env : Environment) (c : Awaited α) : Caller α := ⟨some c.process, 0, [], c.interrupted? env.breakdown⟩

/-- What the process of a caller ended with. -/
def value? (c : Caller α) : Option α :=
  match c.rest with
  | some (.done a) => some a
  | _ => none

/-- What a caller is told: what its process ended with, or that it broke down. -/
def result? (c : Caller α) : Option α :=
  match c.rest with
  | none => c.interrupted
  | some _ => c.value?

/-- A caller has nothing left to ask for. -/
def Ended (c : Caller α) : Prop := ∀ r next, c.rest ≠ some (.ask r next)

theorem result?_eq {c : Caller α} (unbroken : c.rest ≠ none) : c.result? = c.value? := by
  unfold result?
  cases rest : c.rest with
  | none => exact absurd rest unbroken
  | some p => rfl

theorem result?_of_broken {c : Caller α} (broke : c.rest = none) : c.result? = c.interrupted := by
  rw [result?, broke]

theorem result?_of_done {c : Caller α} {a : α} (ended : c.rest = some (.done a)) : c.result? = some a := by
  simp only [result?, value?, ended]

theorem result?_of_ended {c : Caller α} (ended : c.Ended) (unbroken : c.rest ≠ none) : ∃ a, c.result? = some a := by
  rw [result?_eq unbroken, value?]
  cases rest : c.rest with
  | none => exact absurd rest unbroken
  | some p =>
      cases p with
      | done a => exact ⟨a, rfl⟩
      | ask r next => exact absurd rest (ended r next)

end Caller

/-- Callers in one world. -/
structure Pool (σ ι α : Type) where
  world : World σ
  callers : ι → Caller α

/-- What happens next: a caller is served one request, unless it sleeps or has ended, or time passes. -/
inductive Event (ι : Type) where
  | turn (i : ι)
  | pass (ms : Nat)

namespace Pool

variable {σ ι α : Type} [Store σ] [DecidableEq ι] (env : Environment)

/-- Callers that have said nothing yet. -/
def start (w : World σ) (calls : ι → Awaited α) : Pool σ ι α := ⟨w, fun i => .new env (calls i)⟩

/-- Serves a caller one request. -/
def turn (i : ι) (P : Pool σ ι α) : Pool σ ι α :=
  let c := P.callers i
  match c.rest with
  | some (.ask r next) =>
      if c.wake ≤ P.world.now then
        match World.answer env r P.world with
        | (some (a, ms), w) =>
            ⟨w, Function.update P.callers i ⟨some (next a), w.now + ms, c.said ++ [⟨r, a⟩], c.interrupted⟩⟩
        | (none, w) => ⟨w, Function.update P.callers i { c with rest := none }⟩
      else P
  | _ => P

/-- Lets something happen. -/
def react (P : Pool σ ι α) : Event ι → Pool σ ι α
  | .turn i => P.turn env i
  | .pass ms => { P with world := P.world.later ms }

/-- Lets one thing happen after another. -/
def play (P : Pool σ ι α) (events : List (Event ι)) : Pool σ ι α := events.foldl (react env) P

variable {env} {P : Pool σ ι α} {i : ι}

@[simp] theorem play_nil : P.play env [] = P := rfl

@[simp] theorem play_cons (event : Event ι) (events : List (Event ι)) :
    P.play env (event :: events) = (P.react env event).play env events := rfl

theorem play_append (events more : List (Event ι)) :
    P.play env (events ++ more) = (P.play env events).play env more := List.foldl_append

/-- What a turn comes to. -/
inductive Turned (env : Environment) (i : ι) (P : Pool σ ι α) : Pool σ ι α → Prop where
  | idle : Turned env i P P
  | told {r : Request} {next : r.Answer → Process α} {a : r.Answer} {ms : Nat} {w : World σ}
      (asks : (P.callers i).rest = some (.ask r next)) (awake : (P.callers i).wake ≤ P.world.now)
      (answered : World.answer env r P.world = (some (a, ms), w)) :
      Turned env i P
        ⟨w, Function.update P.callers i
          ⟨some (next a), w.now + ms, (P.callers i).said ++ [⟨r, a⟩], (P.callers i).interrupted⟩⟩
  | broke {r : Request} {next : r.Answer → Process α} {w : World σ}
      (asks : (P.callers i).rest = some (.ask r next)) (answered : World.answer env r P.world = (none, w)) :
      Turned env i P ⟨w, Function.update P.callers i { P.callers i with rest := none }⟩

theorem turned (env : Environment) (P : Pool σ ι α) (i : ι) : Turned env i P (P.turn env i) := by
  unfold turn
  simp only
  split
  · rename_i r next asks
    split
    · rename_i awake
      split
      · rename_i a ms w answered
        exact .told asks awake answered
      · rename_i w answered
        exact .broke asks answered
    · exact .idle
  · exact .idle

/-! ## What every turn keeps -/

/-- What all callers have said. -/
def said (P : Pool σ ι α) (i : ι) : Dialogue := (P.callers i).said

end Pool

/-- A world that is as required answers requests within the terms, and is as required afterwards. -/
structure Upholds {σ ι : Type} [Store σ] [DecidableEq ι] (env : Environment) (t : Terms)
    (inv : World σ → (ι → Dialogue) → Prop) : Prop where
  told {w w' : World σ} {D : ι → Dialogue} {i : ι} {r : Request} {a : r.Answer} {ms : Nat} (h : inv w D)
    (allowed : t.allows (D i) r) (answered : World.answer env r w = (some (a, ms), w')) :
    t.admits r a ∧ inv w' (Function.update D i (D i ++ [⟨r, a⟩]))
  broke {w w' : World σ} {D : ι → Dialogue} {i : ι} {r : Request} (h : inv w D) (allowed : t.allows (D i) r)
    (answered : World.answer env r w = (none, w')) : inv w' D
  later {w : World σ} {D : ι → Dialogue} (ms : Nat) (h : inv w D) : inv (w.later ms) D

/-- The callers keep the terms, have been told only what the terms say, and the world is as required. -/
structure Pool.Sound {σ ι α : Type} (t : Terms) (ends : ι → α → Dialogue → Prop)
    (inv : World σ → (ι → Dialogue) → Prop) (P : Pool σ ι α) : Prop where
  keeps : ∀ i p, (P.callers i).rest = some p → p.Keeps t (ends i) (P.said i)
  admitted : ∀ i, ∀ l ∈ P.said i, t.admits l.request l.answer
  inv : inv P.world P.said

namespace Pool

variable {σ ι α : Type} [Store σ] [DecidableEq ι] {env : Environment} {P : Pool σ ι α} {i : ι} {t : Terms}
  {ends : ι → α → Dialogue → Prop} {inv : World σ → (ι → Dialogue) → Prop}

omit [Store σ] in
@[simp] theorem said_update (world : World σ) (c : Caller α) :
    (⟨world, Function.update P.callers i c⟩ : Pool σ ι α).said = Function.update P.said i c.said := by
  funext j
  by_cases same : j = i
  · subst same
    simp [said]
  · simp [said, Function.update_of_ne same]

theorem Sound.turn (h : P.Sound t ends inv) (upholds : Upholds env t inv) : (P.turn env i).Sound t ends inv := by
  have turned := P.turned env i
  generalize P.turn env i = Q at turned ⊢
  cases turned with
  | idle => exact h
  | @told r next a ms w asks awake answered =>
      obtain ⟨allowed, goesOn⟩ := h.keeps i _ asks
      obtain ⟨admits, inv⟩ := upholds.told h.inv allowed answered
      refine ⟨fun j p rest => ?_, fun j l member => ?_, by rw [said_update]; exact inv⟩
      · rw [said_update]
        by_cases same : j = i
        · subst same
          simp only [Function.update_self, Option.some.injEq] at rest ⊢
          rw [← rest]
          exact goesOn a admits
        · simp only [Function.update_of_ne same] at rest ⊢
          exact h.keeps j p rest
      · rw [said_update] at member
        by_cases same : j = i
        · subst same
          simp only [Function.update_self] at member
          rcases List.mem_append.mp member with old | new
          · exact h.admitted j l old
          · rw [List.mem_singleton.mp new]
            exact admits
        · rw [Function.update_of_ne same] at member
          exact h.admitted j l member
  | broke asks answered =>
      have unsaid : Function.update P.said i (P.callers i).said = P.said := Function.update_eq_self i P.said
      constructor
      · intro j p rest
        rw [said_update, unsaid]
        by_cases same : j = i
        · subst same
          simp at rest
        · exact h.keeps j p (by simpa only [Function.update_of_ne same] using rest)
      · rw [said_update, unsaid]
        exact h.admitted
      · rw [said_update, unsaid]
        exact upholds.broke h.inv (h.keeps i _ asks).1 answered

/-- Whatever happens, in whatever order, the callers and the world stay as required. -/
theorem Sound.play (h : P.Sound t ends inv) (upholds : Upholds env t inv) (events : List (Event ι)) :
    (P.play env events).Sound t ends inv := by
  induction events generalizing P with
  | nil => exact h
  | cons event events ih =>
      apply ih
      cases event with
      | turn i => exact h.turn upholds
      | pass ms => exact ⟨h.keeps, h.admitted, upholds.later ms h.inv⟩

omit [Store σ] [DecidableEq ι] in
theorem Sound.start {w : World σ} {calls : ι → Awaited α} (keeps : ∀ i, (calls i).process.Keeps t (ends i) [])
    (initially : inv w fun _ => []) : (Pool.start env w calls).Sound t ends inv := by
  refine ⟨fun i p rest => ?_, fun i l member => ?_, initially⟩
  · simp only [Pool.start, Caller.new, Option.some.injEq] at rest
    rw [← rest]
    exact keeps i
  · cases member

omit [Store σ] [DecidableEq ι] in
/-- Where the process of a caller has ended, it ended as it should. -/
theorem Sound.value (h : P.Sound t ends inv) {a : α} (result : (P.callers i).value? = some a) :
    ends i a (P.said i) := by
  unfold Caller.value? at result
  split at result
  · rename_i b rest
    cases result
    exact h.keeps i _ rest
  · cases result

/-- Where nothing makes a process break down, none does. -/
theorem play_unbroken (sturdy : ∀ r (w w' : World σ), World.answer env r w ≠ (none, w'))
    (unbroken : ∀ i, (P.callers i).rest ≠ none) (events : List (Event ι)) :
    ∀ i, ((P.play env events).callers i).rest ≠ none := by
  induction events generalizing P with
  | nil => exact unbroken
  | cons event events ih =>
      apply ih
      cases event with
      | pass ms => exact unbroken
      | turn i =>
          have turned := P.turned env i
          simp only [react]
          generalize P.turn env i = Q at turned ⊢
          cases turned with
          | idle => exact unbroken
          | told asks awake answered =>
              intro j
              by_cases own : j = i
              · subst own
                simp
              · simpa only [Function.update_of_ne own] using unbroken j
          | broke asks answered => exact absurd answered (sturdy _ _ _)

/-! ## Playing to the end -/

/-- What a caller is told of a breakdown is settled from the start. -/
theorem turn_interrupted (P : Pool σ ι α) (i j : ι) :
    ((P.turn env i).callers j).interrupted = (P.callers j).interrupted := by
  have turned := P.turned env i
  generalize P.turn env i = Q at turned ⊢
  cases turned with
  | idle => rfl
  | told asks awake answered | broke asks answered =>
      by_cases own : j = i
      · subst own
        simp only [Function.update_self]
      · simp only [Function.update_of_ne own]

private theorem turn_told {r : Request} {next : r.Answer → Process α} {a : r.Answer} {ms : Nat} {w : World σ}
    (asks : (P.callers i).rest = some (.ask r next)) (awake : (P.callers i).wake ≤ P.world.now)
    (answered : World.answer env r P.world = (some (a, ms), w)) :
    P.turn env i
      = ⟨w, Function.update P.callers i
          ⟨some (next a), w.now + ms, (P.callers i).said ++ [⟨r, a⟩], (P.callers i).interrupted⟩⟩ := by
  simp only [turn, asks, awake, if_true, answered]

private theorem turn_broke {r : Request} {next : r.Answer → Process α} {w : World σ}
    (asks : (P.callers i).rest = some (.ask r next)) (awake : (P.callers i).wake ≤ P.world.now)
    (answered : World.answer env r P.world = (none, w)) :
    P.turn env i = ⟨w, Function.update P.callers i { P.callers i with rest := none }⟩ := by
  simp only [turn, asks, awake, if_true, answered]

/-! ### Callers that face environments of their own -/

/-- Lets something happen, where a caller faces an environment of its own after what it has said. -/
def reactFacing (faces : ι → Dialogue → Environment) (P : Pool σ ι α) : Event ι → Pool σ ι α
  | .turn i => P.turn (faces i (P.said i)) i
  | .pass ms => { P with world := P.world.later ms }

/-- Lets one thing happen after another, where callers face environments of their own. -/
def playFacing (faces : ι → Dialogue → Environment) (P : Pool σ ι α) (events : List (Event ι)) : Pool σ ι α :=
  events.foldl (reactFacing faces) P

variable {faces : ι → Dialogue → Environment}

@[simp] theorem playFacing_nil : P.playFacing faces [] = P := rfl

@[simp] theorem playFacing_cons (event : Event ι) (events : List (Event ι)) :
    P.playFacing faces (event :: events) = (P.reactFacing faces event).playFacing faces events := rfl

theorem playFacing_append (events more : List (Event ι)) :
    P.playFacing faces (events ++ more) = (P.playFacing faces events).playFacing faces more := List.foldl_append

theorem playFacing_interrupted (P : Pool σ ι α) (events : List (Event ι)) (i : ι) :
    ((P.playFacing faces events).callers i).interrupted = (P.callers i).interrupted := by
  induction events generalizing P with
  | nil => rfl
  | cons event events ih =>
      rw [playFacing_cons, ih]
      cases event with
      | turn j => exact P.turn_interrupted j i
      | pass ms => rfl

/-- All callers may face the same environment. -/
theorem playFacing_const (events : List (Event ι)) : P.playFacing (fun _ _ => env) events = P.play env events := by
  induction events generalizing P with
  | nil => rfl
  | cons event events ih =>
      rw [playFacing_cons, play_cons, ih]
      cases event <;> rfl

theorem play_interrupted (P : Pool σ ι α) (events : List (Event ι)) (i : ι) :
    ((P.play env events).callers i).interrupted = (P.callers i).interrupted := by
  rw [← playFacing_const, playFacing_interrupted]

/-- One caller can be served until it has ended, while the others wait. -/
theorem exists_playFacing_one (faces : ι → Dialogue → Environment) (P : Pool σ ι α) (i : ι) :
    ∃ events, ((P.playFacing faces events).callers i).Ended ∧
      ∀ j, j ≠ i → (P.playFacing faces events).callers j = P.callers j := by
  cases rest : (P.callers i).rest with
  | none => exact ⟨[], by simp [Caller.Ended, rest], fun _ _ => rfl⟩
  | some p =>
      induction p generalizing P with
      | done a => exact ⟨[], by simp [Caller.Ended, rest], fun _ _ => rfl⟩
      | ask r next ih =>
          let Q : Pool σ ι α := P.reactFacing faces (.pass (P.callers i).wake)
          let own := faces i (P.said i)
          have awake : (Q.callers i).wake ≤ Q.world.now := Nat.le_add_left _ _
          cases answered : World.answer own r Q.world with
          | mk reply w =>
              cases reply with
              | none =>
                  refine ⟨[.pass (P.callers i).wake, .turn i], ?_⟩
                  simp only [playFacing_cons, playFacing_nil]
                  change ((Q.turn own i).callers i).Ended ∧ ∀ j, j ≠ i → (Q.turn own i).callers j = P.callers j
                  rw [turn_broke (P := Q) rest awake answered]
                  exact ⟨by simp [Caller.Ended], fun j other => Function.update_of_ne other ..⟩
              | some told =>
                  obtain ⟨a, ms⟩ := told
                  have turned := turn_told (P := Q) rest awake answered
                  obtain ⟨events, ended, others⟩ := ih a (Q.turn own i) (by rw [turned]; simp)
                  refine ⟨.pass (P.callers i).wake :: .turn i :: events, ended, fun j other => ?_⟩
                  apply (others j other).trans
                  rw [turned]
                  exact Function.update_of_ne other ..

/-- Callers can be served until all of them have ended. -/
theorem exists_playFacing_ended (faces : ι → Dialogue → Environment) (P : Pool σ ι α) (all : List ι) :
    ∃ events, ∀ i ∈ all, ((P.playFacing faces events).callers i).Ended := by
  induction all with
  | nil => exact ⟨[], by simp⟩
  | cons i all ih =>
      obtain ⟨events, ended⟩ := ih
      obtain ⟨more, endedToo, others⟩ := exists_playFacing_one faces (P.playFacing faces events) i
      refine ⟨events ++ more, fun j member => ?_⟩
      rw [playFacing_append]
      by_cases same : j = i
      · subst same
        exact endedToo
      · rw [others j same]
        exact ended j ((List.mem_cons.mp member).resolve_left same)

/-- Callers can be served until all of them have ended, also where all face the same. -/
theorem exists_play_ended (env : Environment) (P : Pool σ ι α) (all : List ι) :
    ∃ events, ∀ i ∈ all, ((P.play env events).callers i).Ended := by
  simpa only [playFacing_const] using exists_playFacing_ended (fun _ _ => env) P all

end Pool

/-! ## One caller -/

namespace Process

variable {σ α : Type} [Store σ] (env : Environment)

/-- What a process asks and is told when it runs as the only one there is. -/
def dialogue : Process α → World σ → Dialogue
  | .done _, _ => []
  | .ask r next, w =>
      match World.answer env r w with
      | (none, _) => []
      | (some (a, ms), w) => ⟨r, a⟩ :: dialogue (next a) (w.later ms)

end Process

/-- What is asked and told while a caller waits as the only one there is. -/
def Awaited.dialogue {σ α : Type} [Store σ] (env : Environment) (c : Awaited α) (w : World σ) : Dialogue :=
  c.process.dialogue env w

namespace Pool

variable {σ α : Type} [Store σ] {env : Environment}

private theorem exists_play_alone_from (env : Environment) (p : Process α) (P : Pool σ Unit α)
    (rest : (P.callers ()).rest = some p) (awake : (P.callers ()).wake ≤ P.world.now) :
    ∃ events, (P.play env events).world = (p.run env P.world).2 ∧
      ((P.play env events).callers ()).rest = (p.run env P.world).1.map .done ∧
      (P.play env events).said () = P.said () ++ p.dialogue env P.world := by
  induction p generalizing P with
  | done a => exact ⟨[], rfl, rest, by simp [Process.dialogue]⟩
  | ask r next ih =>
      cases answered : World.answer env r P.world with
      | mk reply w =>
          cases reply with
          | none =>
              have turned := turn_broke rest awake answered
              refine ⟨[.turn ()], ?_⟩
              simp [react, turned, Process.run, Process.dialogue, answered, said]
          | some told =>
              obtain ⟨a, ms⟩ := told
              have turned := turn_told rest awake answered
              let Q : Pool σ Unit α := (P.turn env ()).react env (.pass ms)
              have now : Q.world = w.later ms := by simp [Q, react, turned]
              obtain ⟨events, world, result, spoken⟩ := ih a Q (by simp [Q, react, turned])
                (by simp [Q, react, turned, World.later])
              refine ⟨.turn () :: .pass ms :: events, ?_, ?_, ?_⟩
              · apply world.trans
                rw [now]
                simp only [Process.run, answered]
              · apply result.trans
                rw [now]
                simp only [Process.run, answered]
              · apply spoken.trans
                rw [now]
                simp only [Process.dialogue, answered]
                simp [Q, react, turned, said]

/-- A process that runs alone is served as the only caller there is. -/
theorem exists_play_alone (env : Environment) (p : Process α) (w : World σ) :
    ∃ events, ((start env w fun _ : Unit => .inline p).play env events).world = (p.run env w).2 ∧
      (((start env w fun _ : Unit => .inline p).play env events).callers ()).rest = (p.run env w).1.map .done ∧
      ((start env w fun _ : Unit => .inline p).play env events).said () = p.dialogue env w := by
  simpa [said, start, Caller.new] using
    exists_play_alone_from env p (start env w fun _ : Unit => .inline p) rfl (Nat.zero_le _)

end Pool

/-- What every answer keeps holds after a process has run alone, and the process ends as it should. -/
theorem Process.Keeps.run {σ α : Type} [Store σ] {env : Environment} {t : Terms} {p : Process α}
    {ends : α → Dialogue → Prop} {inv : World σ → (Unit → Dialogue) → Prop} {w : World σ}
    (keeps : p.Keeps t ends []) (upholds : Upholds env t inv) (initially : inv w fun _ => []) :
    inv (p.run env w).2 (fun _ => p.dialogue env w) ∧
      (∀ a, (p.run env w).1 = some a → ends a (p.dialogue env w)) ∧
      ∀ l ∈ p.dialogue env w, t.admits l.request l.answer := by
  obtain ⟨events, world, result, said⟩ := Pool.exists_play_alone env p w
  have first : (Pool.start env w fun _ : Unit => .inline p).Sound t (fun _ => ends) inv :=
    .start (fun _ => keeps) initially
  have sound := first.play upholds events
  have spoken : ((Pool.start env w fun _ : Unit => .inline p).play env events).said = fun _ => p.dialogue env w :=
    funext fun _ => said
  refine ⟨?_, ?_, ?_⟩
  · rw [← world, ← spoken]
    exact sound.inv
  · intro a ended
    rw [← said]
    exact sound.keeps () _ (by rw [result, ended]; rfl)
  · rw [← said]
    exact sound.admitted ()

end WorkflowEngine
