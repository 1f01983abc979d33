/-
Module: WorkflowEngine.Awaited
Layer: Process
Purpose: What callers wait for: a process that they go through themselves, or a task that was spawned for them.
Imports: WorkflowEngine.World
Trusted boundary: none
Main exports: Awaited, Awaited.spawn, Awaited.process, Awaited.interrupted?, Awaited.run
-/
import WorkflowEngine.World

/-!
# What callers wait for

What a caller goes through itself ends with the caller, also if the caller is dropped in the middle of it.  A task
goes on when nobody waits for it any more; and where a task breaks down, its caller does not, but is told so.
-/

namespace WorkflowEngine

/-- What a caller waits for. -/
inductive Awaited (α : Type) where
  /-- A process that the caller goes through itself. -/
  | inline (process : Process α)
  /-- A task of its own, and what its caller makes of a report that it broke down. -/
  | spawned (task : Process α) (interrupted : String → α)

namespace Awaited

variable {α β : Type}

/-- What is known at once. -/
def known (a : α) : Awaited α := .inline (.done a)

/-- What the caller makes of what it waited for. -/
def map (f : α → β) : Awaited α → Awaited β
  | .inline process => .inline (f <$> process)
  | .spawned task interrupted => .spawned (f <$> task) (f ∘ interrupted)

instance : Functor Awaited where
  map := map

/-- Spawns a task and waits for it: what it ended with, or the report that it broke down. -/
def spawn (task : Process α) : Awaited (Except String α) := .spawned (Except.ok <$> task) .error

/-- The process that goes on while a caller waits. -/
def process : Awaited α → Process α
  | .inline process => process
  | .spawned task _ => task

/-- What a caller is told if that process breaks down; nothing if the caller breaks down with it. -/
def interrupted? (report : String) : Awaited α → Option α
  | .inline _ => none
  | .spawned _ interrupted => some (interrupted report)

/-- Waits to the end, in a world in which nothing else happens. -/
def run {σ : Type} [Store σ] (env : Environment) (c : Awaited α) (w : World σ) : Option α × World σ :=
  let (result, w) := c.process.run env w
  (result <|> c.interrupted? env.breakdown, w)

theorem run_inline {σ : Type} [Store σ] (env : Environment) (p : Process α) (w : World σ) :
    (inline p).run env w = p.run env w := by
  refine Prod.ext ?_ rfl
  change ((p.run env w).1 <|> none) = _
  cases (p.run env w).1 <;> rfl

theorem run_of_some {σ : Type} [Store σ] {env : Environment} {c : Awaited α} {w : World σ} {a : α}
    (ended : (c.process.run env w).1 = some a) : c.run env w = c.process.run env w := by
  refine Prod.ext ?_ rfl
  change ((c.process.run env w).1 <|> _) = _
  rw [ended]
  rfl

@[simp] theorem process_known (a : α) : (known a).process = .done a := rfl

@[simp] theorem process_inline (p : Process α) : (inline p).process = p := rfl

@[simp] theorem process_map (f : α → β) (c : Awaited α) : (f <$> c).process = f <$> c.process := by
  cases c <;> rfl

@[simp] theorem interrupted?_map (f : α → β) (c : Awaited α) (report : String) :
    (f <$> c).interrupted? report = (c.interrupted? report).map f := by
  cases c <;> rfl

@[simp] theorem process_spawn (task : Process α) : (spawn task).process = Except.ok <$> task := rfl

@[simp] theorem interrupted?_spawn (task : Process α) (report : String) :
    (spawn task).interrupted? report = some (.error report) := rfl

end Awaited

end WorkflowEngine
