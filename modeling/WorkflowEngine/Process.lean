/-
Module: WorkflowEngine.Process
Layer: Process
Purpose: Programs as trees of requests to their surroundings.
Imports: WorkflowEngine.Action.Config, WorkflowEngine.Action.Outbound, WorkflowEngine.Store.Call
Trusted boundary: none
Main exports: Request, Request.Answer, Process, Process.bind
-/
import WorkflowEngine.Action.Config
import WorkflowEngine.Action.Outbound
import WorkflowEngine.Store.Call

/-!
# Processes

What the engine does is a tree: it is done, or it makes one request and goes on with the answer.  A process
does nothing by itself.  Whoever runs it answers its requests one by one and may answer those of other
processes in between, so that every interleaving of runs is an order of answers.
-/

namespace WorkflowEngine

/-- What a process asks its surroundings for. -/
inductive Request where
  /-- A call to the store. -/
  | store (call : StoreCall)
  /-- The time. -/
  | clock
  /-- An id that is not in use. -/
  | freshId
  /-- To go on after some nanoseconds. -/
  | sleep (nanoseconds : Nat)
  /-- The response to a webhook request, unless it takes too long. -/
  | exchange (request : WebhookRequest) (timeoutMs : Nat)
  /-- The delivery of a mail. -/
  | deliver (mail : Mail)
  /-- To note that a supplied handler is called; the answer is what was noted before. -/
  | note (handler : String) (config : Config)

/-- What a request is answered with. -/
abbrev Request.Answer : Request → Type
  | .store call => StoreReply call
  | .clock => Instant
  | .freshId => Uuid
  | .sleep _ => Unit
  | .exchange _ _ => Option (Except TransportFault Nat)
  | .deliver _ => Except String Unit
  | .note _ _ => List (String × Config)

/-- A process that ends with a value. -/
inductive Process (α : Type) where
  | done (value : α)
  | ask (request : Request) (next : request.Answer → Process α)

namespace Process

variable {α β : Type}

/-- One process after another. -/
def bind : Process α → (α → Process β) → Process β
  | .done a, f => f a
  | .ask r next, f => .ask r fun answer => bind (next answer) f

/-- The process that makes one request. -/
def request (r : Request) : Process r.Answer := .ask r .done

instance : Monad Process where
  pure := .done
  bind := bind

@[simp] theorem done_bind (a : α) (f : α → Process β) : (Process.done a >>= f) = f a := rfl

@[simp] theorem ask_bind (r : Request) (next : r.Answer → Process α) (f : α → Process β) :
    (Process.ask r next >>= f) = .ask r fun answer => next answer >>= f := rfl

theorem bind_done (p : Process α) : p >>= Process.done = p := by
  induction p with
  | done => rfl
  | ask r next ih => exact congrArg (ask r) (funext ih)

theorem bind_bind (p : Process α) (f : α → Process β) {γ : Type} (g : β → Process γ) :
    p >>= f >>= g = p >>= fun a => f a >>= g := by
  induction p with
  | done => rfl
  | ask r next ih => exact congrArg (ask r) (funext ih)

instance : LawfulMonad Process := .mk' Process bind_done (fun _ _ => rfl) fun p f g => bind_bind p f g

end Process

end WorkflowEngine
