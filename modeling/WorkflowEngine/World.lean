/-
Module: WorkflowEngine.World
Layer: Process
Purpose: Surroundings that answer the requests of processes: a store, a clock, a network and a mail server.
Imports: WorkflowEngine.Process
Trusted boundary: none
Main exports: Effect, Environment, World, World.answer, Process.run, Process.advance
-/
import WorkflowEngine.Process

/-!
# Worlds

An environment says how everything outside behaves; a world is its state at one time.  Time stands still while
requests are answered and moves only when a process pauses.  Every call to the store, every webhook request
and every mail is noted, so that what a process did can be seen afterwards.
-/

namespace WorkflowEngine

/-- What happens to a call to the store instead of an answer. -/
inductive Effect where
  /-- The call does not reach the store and fails. -/
  | refuse (fault : StoreFault)
  /-- The call reaches the store but is reported as a failure. -/
  | unacknowledged (fault : StoreFault)
  /-- A start is reported as lost to another caller. -/
  | lose
  /-- The process that makes the call breaks down. -/
  | crash
  deriving DecidableEq, Repr

/-- How everything outside behaves. -/
structure Environment where
  /-- What comes of a webhook request after those made before. -/
  transport : List WebhookRequest → WebhookRequest → Exchange
  /-- What comes of a mail after those delivered before. -/
  mailer : List Mail → Mail → Except String Unit
  /-- What happens to a call of some kind, counted from zero. -/
  faults : StoreMethod → Nat → Option Effect
  /-- The ids that are handed out. -/
  ids : Nat → Uuid
  /-- The report that a task broke down. -/
  breakdown : String

/-- The state of everything outside. -/
structure World (σ : Type) where
  now : Instant
  store : σ
  /-- How many ids have been handed out. -/
  issued : Nat
  requests : List WebhookRequest
  mails : List Mail
  /-- The calls of supplied handlers. -/
  notes : List (String × Config)
  /-- The kinds of calls to the store, latest first. -/
  calls : List StoreMethod

namespace World

variable {σ : Type}

/-- A world in which nothing has happened yet. -/
def start (store : σ) : World σ := ⟨0, store, 0, [], [], [], []⟩

/-- How many calls of a kind there were. -/
def callCount (w : World σ) (m : StoreMethod) : Nat := w.calls.count m

/-- How many ids a call takes. -/
def idsFor : StoreCall → Nat
  | .createExecution .. => 1
  | _ => 0

/-- Lets a call reach the store. -/
def reach [Store σ] (env : Environment) (call : StoreCall) (w : World σ) : StoreReply call × World σ :=
  let (reply, store) := Store.answer ⟨env.ids w.issued, w.now⟩ call w.store
  (reply, { w with store, issued := w.issued + idsFor call })

/-- Answers a call to the store; none if the caller breaks down. -/
def call [Store σ] (env : Environment) (call : StoreCall) (w : World σ) :
    Option (StoreReply call) × World σ :=
  let effect := env.faults call.method (w.callCount call.method)
  let w := { w with calls := call.method :: w.calls }
  match effect, call with
  | some (.refuse fault), _ => (some (.error fault), w)
  | some .crash, _ => (none, w)
  | some (.unacknowledged fault), call => (some (.error fault), (reach env call w).2)
  | some .lose, .markRunning .. => (some (.ok false), w)
  | _, call =>
      let (reply, w) := reach env call w
      (some reply, w)

/-- What a process gets to see of a webhook request, and after how long. -/
def waitFor (timeoutMs : Nat) : Exchange → Option (Except TransportFault Nat) × Nat
  | .answered afterMs result => if afterMs ≤ timeoutMs then (some result, afterMs) else (none, timeoutMs)
  | .silent => (none, timeoutMs)

/-- Nanoseconds as milliseconds; a part of a millisecond counts as a whole one. -/
def wholeMs (nanoseconds : Nat) : Nat := (nanoseconds + 999999) / 1000000

/-- Answers a request, and says after how many milliseconds; none if the process breaks down. -/
def answer [Store σ] (env : Environment) : (r : Request) → World σ → Option (r.Answer × Nat) × World σ
  | .store call, w =>
      let (reply, w) := World.call env call w
      (reply.map fun a => (a, 0), w)
  | .clock, w => (some (w.now, 0), w)
  | .freshId, w => (some (env.ids w.issued, 0), { w with issued := w.issued + 1 })
  | .sleep nanoseconds, w => (some ((), wholeMs nanoseconds), w)
  | .exchange request timeoutMs, w =>
      (some (waitFor timeoutMs (env.transport w.requests request)),
        { w with requests := w.requests ++ [request] })
  | .deliver mail, w =>
      match env.mailer w.mails mail with
      | .ok () => (some (.ok (), 0), { w with mails := w.mails ++ [mail] })
      | .error reason => (some (.error reason, 0), w)
  | .note handler config, w => (some (w.notes, 0), { w with notes := w.notes ++ [(handler, config)] })

/-- The world some milliseconds later. -/
def later (w : World σ) (ms : Nat) : World σ := { w with now := w.now + ms }

end World

namespace Process

variable {σ α : Type}

/-- Runs a process to its end, as the only one there is; none if it breaks down. -/
def run [Store σ] (env : Environment) : Process α → World σ → Option α × World σ
  | .done a, w => (some a, w)
  | .ask r next, w =>
      match World.answer env r w with
      | (none, w) => (none, w)
      | (some (a, ms), w) => run env (next a) (w.later ms)

/-- How far a process has come: it has ended, or it pauses for some milliseconds. -/
inductive Progress (α : Type) where
  | finished (result : Option α)
  | paused (ms : Nat) (rest : Process α)

/-- Runs a process until it ends or pauses. -/
def advance [Store σ] (env : Environment) : Process α → World σ → Progress α × World σ
  | .done a, w => (.finished (some a), w)
  | .ask r next, w =>
      match World.answer env r w with
      | (none, w) => (.finished none, w)
      | (some (a, 0), w) => advance env (next a) w
      | (some (a, ms + 1), w) => (.paused (ms + 1) (next a), w)

end Process

end WorkflowEngine
