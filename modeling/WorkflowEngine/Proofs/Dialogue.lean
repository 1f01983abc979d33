/-
Module: WorkflowEngine.Proofs.Dialogue
Layer: Proofs
Purpose: What a process asks and is told, and the terms that it keeps to however it is answered.  A process is
  judged once, for all answers that the terms admit (`Process.Keeps`); what it does in a world, alone or among
  others, then follows from what that world can answer.
Imports: WorkflowEngine.Execution.Lifecycle
Trusted boundary: none
Main exports: Line, Dialogue, Terms, Process.Keeps, Process.Keeps.bind, Process.Yields, Process.Determined,
  Process.Aside.keeps
-/
import WorkflowEngine.Execution.Lifecycle

namespace WorkflowEngine

/-! ## Dialogues -/

/-- A request and what it was answered with. -/
structure Line where
  request : Request
  answer : request.Answer

/-- What a process asked and was told, in order. -/
abbrev Dialogue := List Line

/-- The kind of call to the store that a request is. -/
def Request.method? : Request → Option StoreMethod
  | .store call => some call.method
  | _ => none

namespace Line

/-- The execution that the line started, and when. -/
def start? : Line → Option (Uuid × Instant)
  | ⟨.store (.markRunning id startedAt), .ok true⟩ => some (id, startedAt)
  | _ => none

/-- The step that the line recorded. -/
def step? : Line → Option StepRow
  | ⟨.store (.insertStep step), .ok _⟩ => some step
  | _ => none

/-- What the line wrote at the end of an execution. -/
def finish? : Line → Option Finish
  | ⟨.store (.finishExecution _ finish), .ok _⟩ => some finish
  | _ => none

/-- Why the store failed to serve the line.  That there is no such row is no failure of the store. -/
def fault? : Line → Option StoreFault
  | ⟨.store _, .error fault⟩ => if fault = .notFound then none else some fault
  | _ => none

variable {l : Line}

theorem start?_of_method (h : l.request.method? ≠ some .markRunning) : l.start? = none := by
  unfold start?
  split
  · exact absurd rfl h
  · rfl

theorem step?_of_method (h : l.request.method? ≠ some .insertStep) : l.step? = none := by
  unfold step?
  split
  · exact absurd rfl h
  · rfl

theorem finish?_of_method (h : l.request.method? ≠ some .finishExecution) : l.finish? = none := by
  unfold finish?
  split
  · exact absurd rfl h
  · rfl

theorem fault?_of_method (h : l.request.method? = none) : l.fault? = none := by
  unfold fault?
  split
  · exact absurd h (by simp [Request.method?])
  · rfl

@[simp] theorem start?_error (call : StoreCall) (f : StoreFault) :
    start? ⟨.store call, .error f⟩ = none := by
  cases call <;> rfl

@[simp] theorem step?_error (call : StoreCall) (f : StoreFault) :
    step? ⟨.store call, .error f⟩ = none := by
  cases call <;> rfl

@[simp] theorem finish?_error (call : StoreCall) (f : StoreFault) :
    finish? ⟨.store call, .error f⟩ = none := by
  cases call <;> rfl

@[simp] theorem fault?_error (call : StoreCall) (f : StoreFault) :
    fault? ⟨.store call, .error f⟩ = if f = .notFound then none else some f := rfl

@[simp] theorem fault?_ok (call : StoreCall) (a : call.Answer) : fault? ⟨.store call, .ok a⟩ = none := rfl

end Line

namespace Dialogue

/-- The execution that was started in a dialogue, and when. -/
def start? (d : Dialogue) : Option (Uuid × Instant) := d.findSome? Line.start?

/-- The execution that was started in a dialogue. -/
def held? (d : Dialogue) : Option Uuid := d.start?.map (·.1)

/-- The steps that were recorded in a dialogue. -/
def steps (d : Dialogue) : List StepRow := d.filterMap Line.step?

/-- What was written at the end of the execution in a dialogue. -/
def finish? (d : Dialogue) : Option Finish := d.findSome? Line.finish?

variable (c d : Dialogue)

@[simp] theorem start?_append : start? (c ++ d) = c.start?.or d.start? := List.findSome?_append

@[simp] theorem steps_append : steps (c ++ d) = c.steps ++ d.steps := List.filterMap_append

@[simp] theorem finish?_append : finish? (c ++ d) = c.finish?.or d.finish? := List.findSome?_append

variable {c d}

/-- What was started first stays started. -/
theorem start?_append_of_some {start : Uuid × Instant} (h : c.start? = some start) : start? (c ++ d) = some start := by
  rw [start?_append, h]
  rfl

theorem held?_append_of_some {id : Uuid} (h : c.held? = some id) : held? (c ++ d) = some id := by
  obtain ⟨start, started, same⟩ := Option.map_eq_some_iff.mp h
  rw [held?, start?_append_of_some started, ← same]
  rfl

theorem start?_eq_none (h : ∀ l ∈ d, l.request.method? ≠ some .markRunning) : d.start? = none :=
  List.findSome?_eq_none_iff.mpr fun l hl => Line.start?_of_method (h l hl)

theorem steps_eq_nil (h : ∀ l ∈ d, l.request.method? ≠ some .insertStep) : d.steps = [] :=
  List.filterMap_eq_nil_iff.mpr fun l hl => Line.step?_of_method (h l hl)

theorem finish?_eq_none (h : ∀ l ∈ d, l.request.method? ≠ some .finishExecution) : d.finish? = none :=
  List.findSome?_eq_none_iff.mpr fun l hl => Line.finish?_of_method (h l hl)

/-- No execution was written to in a dialogue. -/
structure Quiet (d : Dialogue) : Prop where
  start? : d.start? = none
  steps : d.steps = []
  finish? : d.finish? = none

theorem Quiet.append (hc : c.Quiet) (hd : d.Quiet) : (c ++ d).Quiet where
  start? := by rw [start?_append, hc.start?, hd.start?]; rfl
  steps := by rw [steps_append, hc.steps, hd.steps]; rfl
  finish? := by rw [finish?_append, hc.finish?, hd.finish?]; rfl

theorem Quiet.start?_append (h : d.Quiet) : Dialogue.start? (c ++ d) = c.start? := by
  rw [Dialogue.start?_append, h.start?, Option.or_none]

theorem Quiet.held?_append (h : d.Quiet) : Dialogue.held? (c ++ d) = c.held? := by
  rw [held?, h.start?_append, held?]

theorem Quiet.steps_append (h : d.Quiet) : Dialogue.steps (c ++ d) = c.steps := by
  rw [Dialogue.steps_append, h.steps, List.append_nil]

theorem Quiet.finish?_append (h : d.Quiet) : Dialogue.finish? (c ++ d) = c.finish? := by
  rw [Dialogue.finish?_append, h.finish?, Option.or_none]

/-- Three kinds of calls write to an execution. -/
theorem quiet_of_method (h : ∀ l ∈ d, l.request.method? ≠ some .markRunning ∧ l.request.method? ≠ some .insertStep ∧
    l.request.method? ≠ some .finishExecution) : d.Quiet where
  start? := start?_eq_none fun l member => (h l member).1
  steps := steps_eq_nil fun l member => (h l member).2.1
  finish? := finish?_eq_none fun l member => (h l member).2.2

theorem quiet_of_aside (h : ∀ l ∈ d, l.request.method? = none) : d.Quiet :=
  quiet_of_method fun l member => by simp [h l member]

theorem quiet_error (call : StoreCall) (f : StoreFault) : Quiet [⟨.store call, .error f⟩] where
  start? := by simp [start?]
  steps := by simp [steps]
  finish? := by simp [finish?]

end Dialogue

/-- A line writes to no execution, or it starts one, records a step of one, or ends one. -/
theorem Line.quiet_or_writes (l : Line) :
    Dialogue.Quiet [l] ∨ (∃ id startedAt, l = ⟨.store (.markRunning id startedAt), .ok true⟩) ∨
      (∃ step, l = ⟨.store (.insertStep step), .ok ()⟩) ∨
      ∃ id finish, l = ⟨.store (.finishExecution id finish), .ok ()⟩ := by
  obtain ⟨request, answer⟩ := l
  cases request with
  | store call =>
      cases answer with
      | error f => exact .inl (Dialogue.quiet_error call f)
      | ok a =>
          cases call with
          | markRunning id startedAt =>
              cases a with
              | true => exact .inr (.inl ⟨_, _, rfl⟩)
              | false => exact .inl ⟨rfl, rfl, rfl⟩
          | insertStep step => exact .inr (.inr (.inl ⟨_, rfl⟩))
          | finishExecution id finish => exact .inr (.inr (.inr ⟨_, _, rfl⟩))
          | _ => exact .inl ⟨rfl, rfl, rfl⟩
  | _ => exact .inl ⟨rfl, rfl, rfl⟩

/-! ## Terms -/

/-- What may be said in answer to requests. -/
abbrev Answers := (r : Request) → r.Answer → Prop

/-- Anything may be said. -/
def Answers.any : Answers := fun _ _ => True

/-- The terms of a dialogue: how requests may be answered, and which may be made after what has been said. -/
structure Terms where
  admits : Answers
  allows : Dialogue → Request → Prop

namespace Process

variable {α β : Type} {t : Terms} {d : Dialogue}

/-- After a dialogue, a process makes only requests that the terms allow and ends only as it should, as long as
it is told only what the terms say. -/
def Keeps (t : Terms) (ends : α → Dialogue → Prop) : Process α → Dialogue → Prop
  | .done a, d => ends a d
  | .ask r next, d => t.allows d r ∧ ∀ a, t.admits r a → Keeps t ends (next a) (d ++ [⟨r, a⟩])

namespace Keeps

variable {p : Process α} {ends : α → Dialogue → Prop}

theorem mono {other : α → Dialogue → Prop} (h : p.Keeps t ends d) (imp : ∀ a d, ends a d → other a d) :
    p.Keeps t other d := by
  induction p generalizing d with
  | done a => exact imp a d h
  | ask r next ih => exact ⟨h.1, fun a ha => ih a (h.2 a ha)⟩

/-- One process after another: the second keeps the terms from wherever the first may end. -/
theorem bind {f : α → Process β} {other : β → Dialogue → Prop} (h : p.Keeps t ends d)
    (hf : ∀ a d, ends a d → (f a).Keeps t other d) : (p >>= f).Keeps t other d := by
  induction p generalizing d with
  | done a => exact hf a d h
  | ask r next ih => exact ⟨h.1, fun a ha => ih a (h.2 a ha)⟩

end Keeps

/-! ## Processes that leave the store alone -/

/-- A process makes no call to the store. -/
def Aside : Process α → Prop
  | .done _ => True
  | .ask r next => r.method? = none ∧ ∀ a, Aside (next a)

theorem Aside.bind {p : Process α} {f : α → Process β} (h : p.Aside) (hf : ∀ a, (f a).Aside) :
    (p >>= f).Aside := by
  induction p with
  | done a => exact hf a
  | ask r next ih => exact ⟨h.1, fun a => ih a (h.2 a)⟩

/-- A process can end with a value when it is told what may be said. -/
def Yields (admits : Answers) : Process α → α → Prop
  | .done a, b => a = b
  | .ask r next, b => ∃ a, admits r a ∧ Yields admits (next a) b

/-- One process after another ends where the second ends after the first. -/
theorem Yields.of_bind {admits : Answers} {p : Process α} {f : α → Process β} {b : β}
    (h : (p >>= f).Yields admits b) : ∃ a, p.Yields admits a ∧ (f a).Yields admits b := by
  induction p with
  | done a => exact ⟨a, rfl, h⟩
  | ask r next ih =>
      obtain ⟨answer, admitted, rest⟩ := h
      obtain ⟨a, ends, follows⟩ := ih answer rest
      exact ⟨a, ⟨answer, admitted, ends⟩, follows⟩

/-- Whatever a process is told, as long as it may be said, makes no difference to what it does next. -/
def Determined (admits : Answers) : Process α → Prop
  | .done _ => True
  | .ask r next => (∀ a b, admits r a → admits r b → next a = next b) ∧ ∀ a, Determined admits (next a)

theorem Determined.bind {admits : Answers} {p : Process α} {f : α → Process β} (h : p.Determined admits)
    (hf : ∀ a, (f a).Determined admits) : (p >>= f).Determined admits := by
  induction p with
  | done a => exact hf a
  | ask r next ih => exact ⟨fun a b ha hb => congrArg (· >>= f) (h.1 a b ha hb), fun a => ih a (h.2 a)⟩

/-- A process that is determined can end in one way only. -/
theorem Yields.unique {admits : Answers} {p : Process α} (determined : p.Determined admits) {a b : α}
    (ha : p.Yields admits a) (hb : p.Yields admits b) : a = b := by
  induction p with
  | done c => exact ha.symm.trans hb
  | ask r next ih =>
      obtain ⟨first, admitsFirst, ha⟩ := ha
      obtain ⟨second, admitsSecond, hb⟩ := hb
      rw [determined.1 second first admitsSecond admitsFirst] at hb
      exact ih first (determined.2 first) ha hb

/-- A process that leaves the store alone adds no line to the dialogue that the store could tell. -/
theorem Aside.keeps {p : Process α} (aside : p.Aside)
    (free : ∀ r, r.method? = none → ∀ pre, (∀ l ∈ pre, l.request.method? = none) → t.allows (d ++ pre) r) :
    p.Keeps t (fun a d' => ∃ pre, d' = d ++ pre ∧ (∀ l ∈ pre, l.request.method? = none) ∧
      p.Yields t.admits a) d := by
  suffices H : ∀ pre : Dialogue, (∀ l ∈ pre, l.request.method? = none) →
      p.Keeps t (fun a d' => ∃ pre, d' = d ++ pre ∧ (∀ l ∈ pre, l.request.method? = none) ∧
        p.Yields t.admits a) (d ++ pre) by
    simpa using H [] (by simp)
  induction p with
  | done a => exact fun pre hpre => ⟨pre, rfl, hpre, rfl⟩
  | ask r next ih =>
      intro pre hpre
      refine ⟨free r aside.1 pre hpre, fun a ha => ?_⟩
      have longer : ∀ l ∈ pre ++ [⟨r, a⟩], l.request.method? = none := by
        intro l member
        rcases List.mem_append.mp member with old | new
        · exact hpre l old
        · rw [List.mem_singleton.mp new]
          exact aside.1
      have rest := ih a (aside.2 a) (pre ++ [⟨r, a⟩]) longer
      rw [List.append_assoc]
      apply rest.mono
      rintro b d' ⟨pre', rfl, hpre', hb⟩
      exact ⟨pre', rfl, hpre', a, ha, hb⟩

end Process

/-! ## Tasks -/

namespace Task

variable {α β : Type} {t : Terms} {d : Dialogue}

/-- The second of two tasks starts where the first succeeds; where the first fails, so do both. -/
theorem keeps_bind {m : Task α} {f : α → Task β} {ends : Except EngineError β → Dialogue → Prop}
    (h : m.run.Keeps t (fun r d => match r with
      | .ok a => (f a).run.Keeps t ends d
      | .error e => ends (.error e) d) d) : (m >>= f).run.Keeps t ends d := by
  apply Process.Keeps.bind h
  intro r d hr
  cases r with
  | ok a => exact hr
  | error e => exact hr

/-- The remedy of a task starts where the task fails. -/
theorem keeps_tryCatch {m : Task α} {f : EngineError → Task α} {ends : Except EngineError α → Dialogue → Prop}
    (h : m.run.Keeps t (fun r d => match r with
      | .ok a => ends (.ok a) d
      | .error e => (f e).run.Keeps t ends d) d) : (tryCatch m f).run.Keeps t ends d := by
  apply Process.Keeps.bind h
  intro r d hr
  cases r with
  | ok a => exact hr
  | error e => exact hr

theorem keeps_map {m : Task α} {f : α → β} {ends : Except EngineError β → Dialogue → Prop}
    (h : m.run.Keeps t (fun r d => ends (r.map f) d) d) : (f <$> m).run.Keeps t ends d := by
  apply Process.Keeps.bind h
  intro r d hr
  cases r <;> exact hr

theorem keeps_discard {m : Task α} {ends : Except EngineError Unit → Dialogue → Prop}
    (h : m.run.Keeps t (fun r d => ends (r.map fun _ => ()) d) d) : (discard m).run.Keeps t ends d := by
  apply Process.Keeps.bind h
  intro r d hr
  cases r <;> exact hr

theorem keeps_call {c : StoreCall} {ends : Except EngineError c.Answer → Dialogue → Prop}
    (allowed : t.allows d (.store c))
    (ok : ∀ a, t.admits (.store c) (.ok a) → ends (.ok a) (d ++ [⟨.store c, .ok a⟩]))
    (error : ∀ f, t.admits (.store c) (.error f) → ends (.error (.store f)) (d ++ [⟨.store c, .error f⟩])) :
    (call c).run.Keeps t ends d := by
  refine ⟨allowed, fun reply said => ?_⟩
  cases reply with
  | ok a => exact ok a said
  | error f => exact error f said

theorem keeps_ofRecord {r : Except String α} {ends : Except EngineError α → Dialogue → Prop}
    (h : ends (r.mapError .invalidRecord) d) : (ofRecord r).run.Keeps t ends d := by
  cases r <;> exact h

theorem keeps_lift {p : Process α} {ends : Except EngineError α → Dialogue → Prop}
    (h : p.Keeps t (fun a d => ends (.ok a) d) d) : (ExceptT.lift p : Task α).run.Keeps t ends d :=
  h.bind fun _ _ ha => ha

end Task

end WorkflowEngine
