/-
Module: WorkflowEngine.Proofs.Abreast
Layer: Proofs
Purpose: Two runs of one execution that go on abreast.  They ask for the same, clock readings and generated ids
  aside, as long as they are told the same, and end alike (`Process.Abreast`).  Where handlers are deterministic, a
  run is abreast of itself: nothing that it does or records hangs on the time or on an id (`Executor.runAttached_abreast`).
Imports: WorkflowEngine.Proofs.Likeness
Trusted boundary: none
Main exports: Process.Abreast, Task.Abreast, Registry.Deterministic, Executor.runAttached_abreast
-/
import WorkflowEngine.Proofs.Likeness

namespace WorkflowEngine

variable {id : Uuid}

/-! ## Processes and tasks that go on abreast -/

namespace Process

variable {α β : Type}

/-- Two processes ask for the same, ids and times aside, as long as they are told the same, and end alike. -/
def Abreast (id : Uuid) (ends : α → β → Prop) : Process α → Process β → Prop
  | .done a, .done b => ends a b
  | .ask r next, .ask r' next' =>
      r.Alike id r' ∧ ∀ a a', Line.Alike id ⟨r, a⟩ ⟨r', a'⟩ → Abreast id ends (next a) (next' a')
  | _, _ => False

end Process

/-- Two tasks end with values that are alike, or with the same error. -/
inductive Task.Ends {α β : Type} (ends : α → β → Prop) : Except EngineError α → Except EngineError β → Prop where
  | ok {a : α} {b : β} (alike : ends a b) : Ends ends (.ok a) (.ok b)
  | error (e : EngineError) : Ends ends (.error e) (.error e)

/-- Two tasks that go on abreast. -/
def Task.Abreast {α β : Type} (id : Uuid) (ends : α → β → Prop) (m : Task α) (m' : Task β) : Prop :=
  m.run.Abreast id (Ends ends) m'.run

/-- The strictest likeness: what two runs are told differs in ids and times alone. -/
def Likeness.strict (id : Uuid) : Likeness id where
  lines := Line.Alike id
  faults := Eq
  replies told := by
    rcases told.replies with ⟨f, rfl, rfl⟩ | ⟨a, a', rfl, rfl⟩
    · exact .inl ⟨f, f, rfl, rfl, rfl⟩
    · exact .inr ⟨a, a', rfl, rfl, told⟩
  missing like := by rw [like]

/-- Two processes in step go on abreast where only what differs in ids and times passes for the same. -/
theorem Process.InStep.abreast {α β : Type} {p : Process α} {q : Process β} {ends : α → β → Prop}
    (h : p.InStep (.strict id) ends q) : p.Abreast id ends q := by
  induction p generalizing q with
  | done a =>
      cases q with
      | done b => exact h
      | ask => exact h.elim
  | ask r next ih =>
      cases q with
      | done => exact h.elim
      | ask r' next' => exact ⟨h.1, fun a a' told => ih a (h.2 a a' told)⟩

theorem Task.InStep.abreast {α β : Type} {m : Task α} {m' : Task β} {ends : α → β → Prop}
    (h : m.InStep (.strict id) ends m') : m.Abreast id ends m' := by
  apply (Process.InStep.mono h ?_).abreast
  intro r r' alike
  cases alike with
  | ok alike => exact .ok alike
  | error like =>
      cases like with
      | same => exact .error _
      | store like =>
          cases like
          exact .error _

/-! ## Deterministic handlers -/

/-- The result of a handler depends on its settings and the run alone: what was noted before makes no difference. -/
def Handler.Deterministic : Handler → Prop
  | .stateful _ act => ∀ before other, act before = act other
  | _ => True

/-- All handlers are deterministic. -/
def Registry.Deterministic (r : Registry) : Prop := ∀ type h, r.find? type = some h → h.Deterministic

theorem Handler.run_strict {h : Handler} (deterministic : h.Deterministic) (config : Config)
    (context : ActionContext) : (h.run config context).InStep (.strict id) Eq (h.run config context) := by
  have constant {r : Request} {f : r.Answer → Process Outcome} (constant : r.Constant)
      (follows : ∀ a, (f a).InStep (.strict id) Eq (f a)) :
      (Process.request r >>= f).InStep (.strict id) Eq (Process.request r >>= f) := by
    refine ⟨.constant constant, fun a a' alike => ?_⟩
    cases Line.Alike.answer_eq constant alike
    exact follows a
  cases h with
  | sendMessage => rfl
  | runAgent =>
      simp only [Handler.run]
      split <;> rfl
  | sendEmail =>
      refine constant trivial ?_
      intro told
      cases told <;> rfl
  | webhook timeoutMs =>
      simp only [Handler.run]
      split
      · rfl
      · refine constant trivial ?_
        intro told
        rcases told with _ | _ | _ <;> rfl
  | wait limitMs => exact constant trivial fun _ => rfl
  | supplied name act => exact ⟨.incidental trivial, fun _ _ _ => rfl⟩
  | stateful name act =>
      refine ⟨.incidental trivial, fun before other _ => ?_⟩
      change act before config context = act other config context
      rw [deterministic before other]

theorem Executor.likened_strict {x : Executor} (deterministic : x.registry.Deterministic) :
    x.Likened (.strict id) x where
  dispatch type config context := by
    unfold Registry.dispatch
    split
    · rename_i h found
      obtain ⟨name, -, found⟩ := Option.bind_eq_some_iff.mp found
      apply (Handler.run_strict (deterministic name h found) config context).mono
      exact fun o o' same => congrArg Executor.settled same
    · rfl
  maxSteps := rfl
  maxDelayMs := rfl

/-- A run is abreast of itself: told the same, but for times and ids, it does and records the same, but for times
and ids. -/
theorem Executor.runAttached_abreast {x : Executor} (deterministic : x.registry.Deterministic) (id : Uuid) :
    Task.Abreast id (fun s s' => s.timeless = s'.timeless) (x.runAttached id) (x.runAttached id) :=
  (Executor.runAttached_inStep (Executor.likened_strict deterministic)).abreast

end WorkflowEngine
