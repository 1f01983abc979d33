/-
Module: WorkflowEngine.Scheduler
Layer: Process
Purpose: Tasks that take turns in one world, and a caller that waits for them and may stop waiting.
Imports: WorkflowEngine.Awaited
Trusted boundary: none
Main exports: Scheduler, Scheduler.spawn, Scheduler.join, Scheduler.joinWithin, Scheduler.await,
  Scheduler.awaitWithin, Scheduler.sleep
-/
import WorkflowEngine.Awaited

/-!
# Scheduling

Spawned processes take turns with the one that is driven.  A process keeps its turn until it pauses.  A new
process gets its first turn when the driver waits for something.  When all processes pause, time jumps to the
end of the earliest pause.

The driver is a caller that may stop waiting.  It is then dropped, with what it was going through itself; tasks that
were spawned stay where they are.
-/

namespace WorkflowEngine

/-- A process that pauses until some time. -/
structure Sleeper (α : Type) where
  id : Nat
  wake : Instant
  rest : Process α

/-- Processes that take turns in one world. -/
structure Scheduler (σ α : Type) where
  world : World σ
  /-- Processes that have not had a turn. -/
  fresh : List (Nat × Process α)
  sleeping : List (Sleeper α)
  /-- The results of processes; none for one that broke down. -/
  ended : List (Nat × Option α)
  /-- How many processes have been spawned. -/
  spawned : Nat

namespace Scheduler

variable {σ α : Type} [Store σ] (env : Environment)

/-- A world without processes. -/
def ofWorld (w : World σ) : Scheduler σ α := ⟨w, [], [], [], 0⟩

/-- Gives a process a turn. -/
def turn (s : Scheduler σ α) (id : Nat) (p : Process α) : Scheduler σ α :=
  match p.advance env s.world with
  | (.finished result, w) => { s with world := w, ended := (id, result) :: s.ended }
  | (.paused ms rest, w) =>
      { s with world := w, sleeping := s.sleeping ++ [⟨id, w.now + ms, rest⟩] }

/-- Gives every new process its first turn. -/
def settle (s : Scheduler σ α) : Scheduler σ α :=
  s.fresh.foldl (fun s p => s.turn env p.1 p.2) { s with fresh := [] }

/-- Wakes the processes whose pause ends by some time, which is in the future, one instant after another. -/
def wakeUntil (limit : Instant) : (fuel : Nat) → Scheduler σ α → Scheduler σ α
  | 0, s => s
  | fuel + 1, s =>
      match (s.sleeping.map (·.wake)).min? with
      | none => s
      | some wake =>
          if limit < wake then s
          else
            let (due, others) := s.sleeping.partition fun p => p.wake ≤ wake
            let awake := { s with world := { s.world with now := wake }, sleeping := others }
            wakeUntil limit fuel (due.foldl (fun s p => s.turn env p.id p.rest) awake)

/-- Lets time pass until some time. -/
def elapse (limit : Instant) (s : Scheduler σ α) : Scheduler σ α :=
  let s := wakeUntil env limit (limit - s.world.now) s
  { s with world := { s.world with now := limit } }

/-- Runs a process that has a turn to its end, giving others theirs while it pauses. -/
def drive {β : Type} : Process β → Scheduler σ α → Option β × Scheduler σ α
  | .done b, s => (some b, s)
  | .ask r next, s =>
      match World.answer env r s.world with
      | (none, w) => (none, { s with world := w })
      | (some (a, 0), w) => drive (next a) { s with world := w }
      | (some (a, ms + 1), w) => drive (next a) (elapse env (w.now + (ms + 1)) { s with world := w })

/-- Puts what is left of a process to sleep: under its number if it is a task; otherwise it is dropped. -/
def leave (task : Option Nat) (wake : Instant) (rest : Process α) (s : Scheduler σ α) : Scheduler σ α :=
  match task with
  | some id => { s with sleeping := s.sleeping ++ [⟨id, wake, rest⟩] }
  | none => s

/-- Runs a process that has a turn until it ends or pauses beyond a deadline; then it is left. -/
def driveUntil (deadline : Instant) (task : Option Nat) :
    Process α → Scheduler σ α → Option (Option α) × Scheduler σ α
  | .done a, s => (some (some a), s)
  | .ask r next, s =>
      match World.answer env r s.world with
      | (none, w) => (some none, { s with world := w })
      | (some (a, 0), w) => driveUntil deadline task (next a) { s with world := w }
      | (some (a, ms + 1), w) =>
          let wake := w.now + (ms + 1)
          if deadline < wake then (none, elapse env deadline (leave task wake (next a) { s with world := w }))
          else driveUntil deadline task (next a) (elapse env wake { s with world := w })

/-- Adds a process. -/
def spawn (p : Process α) (s : Scheduler σ α) : Nat × Scheduler σ α :=
  (s.spawned, { s with fresh := s.fresh ++ [(s.spawned, p)], spawned := s.spawned + 1 })

/-- Adds a process that gets its first turn before other new ones. -/
def spawnFirst (p : Process α) (s : Scheduler σ α) : Nat × Scheduler σ α :=
  (s.spawned, { s with fresh := (s.spawned, p) :: s.fresh, spawned := s.spawned + 1 })

/-- Waits for a process to end. -/
def join (id : Nat) (s : Scheduler σ α) : Option α × Scheduler σ α :=
  let s := s.settle env
  match s.ended.lookup id with
  | some result => (result, s)
  | none =>
      match s.sleeping.find? (·.id = id) with
      | none => (none, s)
      | some p =>
          let others := { s with sleeping := s.sleeping.filter (·.id ≠ id) }
          drive env p.rest (elapse env p.wake others)

/-- Waits for a process to end, but not longer than some milliseconds.  Waiting for none does not give it a
turn. -/
def joinWithin (ms : Nat) (id : Nat) (s : Scheduler σ α) : Option (Option α) × Scheduler σ α :=
  if ms = 0 then (none, s)
  else
    let deadline := s.world.now + ms
    let s := s.settle env
    match s.ended.lookup id with
    | some result => (some result, s)
    | none =>
        match s.sleeping.find? (·.id = id) with
        | none => (some none, s)
        | some p =>
            if deadline < p.wake then (none, elapse env deadline s)
            else
              let others := { s with sleeping := s.sleeping.filter (·.id ≠ id) }
              driveUntil env deadline (some id) p.rest (elapse env p.wake others)

/-- Goes through a process, giving others their turns while it pauses. -/
def goThrough {β : Type} (p : Process β) (s : Scheduler σ α) : Option β × Scheduler σ α :=
  match p.advance env s.world with
  | (.finished result, w) => (result, { s with world := w })
  | (.paused ms rest, w) => drive env rest (elapse env (w.now + ms) ({ s with world := w }.settle env))

/-- Goes through a process, but not longer than some milliseconds; then it is dropped. -/
def goThroughWithin (ms : Nat) (p : Process α) (s : Scheduler σ α) : Option (Option α) × Scheduler σ α :=
  match p.advance env s.world with
  | (.finished result, w) => (some result, { s with world := w })
  | (.paused pause rest, w) =>
      let s := { s with world := w }
      if ms = 0 then (none, s)
      else
        let deadline := w.now + ms
        let s := s.settle env
        if deadline < w.now + pause then (none, elapse env deadline s)
        else driveUntil env deadline none rest (elapse env (w.now + pause) s)

/-- Lets a caller wait: it goes through a process itself, or spawns a task and waits for it. -/
def await (c : Awaited α) (s : Scheduler σ α) : Option α × Scheduler σ α :=
  match c with
  | .inline process => s.goThrough env process
  | .spawned task interrupted =>
      let (id, s) := s.spawnFirst task
      let (result, s) := s.join env id
      (some (result.getD (interrupted env.breakdown)), s)

/-- Lets a caller wait, but not longer than some milliseconds.  Then the caller is dropped, and what it was going
through itself with it.  A task that it has spawned is a process of its own by then. -/
def awaitWithin (ms : Nat) (c : Awaited α) (s : Scheduler σ α) : Option (Option α) × Scheduler σ α :=
  match c with
  | .inline process => s.goThroughWithin env ms process
  | .spawned task interrupted =>
      let (id, s) := s.spawnFirst task
      let (result, s) := s.joinWithin env ms id
      (result.map fun result => some (result.getD (interrupted env.breakdown)), s)

/-- Waits for some milliseconds. -/
def sleep (ms : Nat) (s : Scheduler σ α) : Scheduler σ α :=
  if ms = 0 then s
  else
    let s := s.settle env
    elapse env (s.world.now + ms) s

end Scheduler

end WorkflowEngine
