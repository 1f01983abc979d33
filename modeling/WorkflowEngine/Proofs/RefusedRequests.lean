/-
Module: WorkflowEngine.Proofs.RefusedRequests
Layer: Proofs
Purpose: What requests to the service say to the store.  Every request keeps the rule of conduct, so that what holds
  of callers holds of requests; and one that is refused, or is no `POST`, has written nothing, however it was told
  (`Service.respond_keeps`).
Imports: WorkflowEngine.Http.Service, WorkflowEngine.Proofs.Consistency
Trusted boundary: none
Main exports: Dialogue.Untouched, Service.respond_keeps, Service.pool, Service.pool_sound, Service.refused_untouched
-/
import WorkflowEngine.Http.Service
import WorkflowEngine.Proofs.Consistency

namespace WorkflowEngine

/-- Nothing was written in a dialogue, and nothing created. -/
structure Dialogue.Untouched (d : Dialogue) : Prop where
  quiet : d.Quiet
  creates : ∀ l ∈ d, l.request.method? ≠ some .createExecution

namespace Dialogue

variable {d : Dialogue}

theorem untouched_nil : Untouched [] := ⟨⟨rfl, rfl, rfl⟩, by simp⟩

theorem untouched_of_preliminary (quiet : d.Quiet) (preliminary : ∀ l ∈ d, l.request.Preliminary) : d.Untouched := by
  refine ⟨quiet, ?_⟩
  intro l member creates
  have before := preliminary l member
  obtain ⟨request, answer⟩ := l
  cases request with
  | store call =>
      cases call with
      | createExecution => exact before
      | _ => cases creates
  | _ => cases creates

/-- What holds of a dialogue holds of its first line and of the rest. -/
theorem Untouched.of_cons {l : Line} (h : Untouched (l :: d)) : Untouched [l] ∧ d.Untouched := by
  have within {c : Dialogue} (part : c ⊆ l :: d) : c.Untouched := by
    refine ⟨⟨?_, ?_, ?_⟩, fun k member => h.creates k (part member)⟩
    · exact List.findSome?_eq_none_iff.2 fun k member =>
        List.findSome?_eq_none_iff.1 h.quiet.start? k (part member)
    · exact List.filterMap_eq_nil_iff.2 fun k member =>
        List.filterMap_eq_nil_iff.1 h.quiet.steps k (part member)
    · exact List.findSome?_eq_none_iff.2 fun k member =>
        List.findSome?_eq_none_iff.1 h.quiet.finish? k (part member)
  exact ⟨within (by simp), within (List.subset_cons_self l d)⟩

end Dialogue

/-! ## What is left as it is -/

section Running

variable {env : Environment}

theorem Served.store_untouched {w w' : World MemoryStore} {l : Line} (served : Served env w w' l)
    (untouched : Dialogue.Untouched [l]) : w'.store = w.store := by
  cases served with
  | aside _ store | refused _ store | lost _ store => exact store
  | @reached call reply answered =>
      refine MemoryStore.answer_quiet answered untouched.quiet fun creates => ?_
      exact untouched.creates _ List.mem_cons_self (congrArg some creates)

/-- A process that writes nothing leaves the store as it is. -/
theorem Process.run_untouched {α : Type} (clean : env.FailsClean) (p : Process α) (w : World MemoryStore)
    (untouched : (p.dialogue env w).Untouched) : (p.run env w).2.store = w.store := by
  induction p generalizing w with
  | done a => rfl
  | ask r next ih =>
      cases answered : World.answer env r w with
      | mk told w' =>
          cases told with
          | none =>
              simp only [run, answered]
              exact (World.broke answered).2.1
          | some told =>
              obtain ⟨a, ms⟩ := told
              simp only [run, dialogue, answered] at untouched ⊢
              obtain ⟨first, rest⟩ := untouched.of_cons
              exact (ih a (w'.later ms) rest).trans ((World.served clean answered).store_untouched first)

/-- Ids are never taken back. -/
theorem World.answer_issued_le (clean : env.FailsClean) (r : Request) (w : World MemoryStore) :
    w.issued ≤ (World.answer env r w).2.issued := by
  cases answered : World.answer env r w with
  | mk told w' =>
      cases told with
      | none => exact Nat.le_of_eq (World.broke answered).2.2.symm
      | some told => exact (World.served clean answered).issued_le

theorem Process.run_issued_le {α : Type} (clean : env.FailsClean) (p : Process α) (w : World MemoryStore) :
    w.issued ≤ (p.run env w).2.issued :=
  p.run_follows (R := fun w w' => w.issued ≤ w'.issued) (fun _ => Nat.le_refl _) Nat.le_trans
    (World.answer_issued_le clean) (fun _ _ => Nat.le_refl _) w

end Running

/-! ## Errors of the engine -/

/-- A request that ends with an error which is no failure of the service has written nothing. -/
def Blameless {α : Type} (r : Except EngineError α) (d : Dialogue) : Prop :=
  ∀ e, r = .error e → e.status < 500 → d.Untouched

variable {admits : Answers} {x : Executor} {id : Uuid}

theorem Course.blameless {d : Dialogue} {r : Except EngineError Summary} (course : Course admits x id d r) :
    Blameless r d := by
  intro e failed known
  cases course with
  | absent => exact ⟨⟨rfl, rfl, rfl⟩, by simp [Request.method?, StoreCall.method]⟩
  | late read status => exact ⟨⟨rfl, rfl, rfl⟩, by simp [Request.method?, StoreCall.method]⟩
  | lost read status => exact ⟨⟨rfl, rfl, rfl⟩, by simp [Request.method?, StoreCall.method]⟩
  | unread | unreadable | unmarked =>
      cases failed
      exact absurd known (by simp [EngineError.status])
  | begun read status ends =>
      cases ends with
      | @concluded body tail visits outcome finished concluded smooth logged attempts =>
          rcases attempts.finish? with ⟨now, -, rfl⟩ | ⟨-, f, rfl⟩
          · cases failed
          · cases failed
            exact absurd known (by simp [EngineError.status])
      | aborted =>
          cases failed
          exact absurd known (by simp [EngineError.status])

/-- What only asks and writes nothing is blameless, whatever comes of it. -/
theorem blameless_of_preliminary {α : Type} (r : Except EngineError α) (d : Dialogue)
    (h : d.Quiet ∧ ∀ l ∈ d, l.request.Preliminary) : d.Untouched ∧ Blameless r d := by
  obtain ⟨quiet, preliminary⟩ := h
  have untouched := Dialogue.untouched_of_preliminary quiet preliminary
  exact ⟨untouched, fun _ _ _ => untouched⟩

namespace Executor

theorem runNamed_blameless (text : String) :
    (x.runNamed text).run.process.Keeps (callerTerms admits true) Blameless [] := by
  unfold runNamed
  cases readId text with
  | ok id =>
      simp only [run_process]
      exact runAttached_keeps.mono fun r d course => course.blameless
  | error e => exact fun _ _ _ => Dialogue.untouched_nil

theorem get_blameless : (get id).run.Keeps (callerTerms admits true) (fun r d => d.Untouched ∧ Blameless r d) [] :=
  get_keeps.mono blameless_of_preliminary

theorem steps_blameless :
    (steps id).run.Keeps (callerTerms admits true) (fun r d => d.Untouched ∧ Blameless r d) [] :=
  steps_keeps.mono blameless_of_preliminary

theorem create_blameless {workflowId : Uuid} {payload : Json} :
    (create workflowId payload).run.Keeps (callerTerms admits true) Blameless [] := by
  refine Task.keeps_bind ⟨trivial, fun reply _ => ?_⟩
  have asked : Dialogue.Untouched [⟨.store (.getWorkflow workflowId), reply⟩] :=
    ⟨⟨rfl, rfl, rfl⟩, by simp [Request.method?, StoreCall.method]⟩
  rcases reply with f | row
  · cases f with
    | notFound => exact fun _ _ _ => asked
    | _ => exact fun _ _ _ => asked
  · refine Task.keeps_bind (Task.keeps_call rfl (fun new _ => Task.keeps_ofRecord ?_) fun f _ => ?_)
    · intro e failed known
      cases read : new.toExecution with
      | ok execution =>
          rw [read] at failed
          cases failed
      | error reason =>
          rw [read] at failed
          cases failed
          exact absurd known (by simp [EngineError.status])
    · intro e failed known
      cases failed
      exact absurd known (by simp [EngineError.status])

end Executor

namespace Service

/-! ## Requests -/

/-- A request that does not post, or is refused, has written nothing. -/
def Harmless (request : HttpRequest) (response : HttpResponse) (d : Dialogue) : Prop :=
  request.method ≠ "POST" ∨ 400 ≤ response.status ∧ response.status < 500 → d.Untouched

variable {request : HttpRequest} {resource : Resource} {t : Terms}

theorem harmless_unsaid (response : HttpResponse) : Harmless request response [] := fun _ => Dialogue.untouched_nil

theorem answering_keeps {α : Type} {status : Nat} {toJson : α → Json} {task : Task α}
    {ends : Except EngineError α → Dialogue → Prop} {d : Dialogue} (h : task.run.Keeps t ends d) :
    (answering status toJson task).Keeps t (fun response d =>
      (∃ a, ends (.ok a) d ∧ response = .ofJson status (toJson a)) ∨
        ∃ e, ends (.error e) d ∧ response = errorResponse e) d := by
  apply Process.Keeps.bind h
  intro r d ended
  cases r with
  | ok a => exact .inl ⟨a, ended, rfl⟩
  | error e => exact .inr ⟨e, ended, rfl⟩

/-- What reads is harmless. -/
theorem reading_harmless {α : Type} {status : Nat} {toJson : α → Json} {task : Task α}
    (h : task.run.Keeps t (fun r d => d.Untouched ∧ Blameless r d) []) :
    (answering status toJson task).Keeps t (Harmless request) [] := by
  apply (answering_keeps h).mono
  rintro response d (⟨a, ⟨untouched, -⟩, -⟩ | ⟨e, ⟨untouched, -⟩, -⟩) -
  · exact untouched
  · exact untouched

/-- What is posted and writes nothing where it fails is harmless. -/
theorem posting_harmless {α : Type} {status : Nat} {toJson : α → Json} {task : Task α}
    (h : task.run.Keeps t Blameless []) (posted : request.method = "POST") (granted : status < 400) :
    (answering status toJson task).Keeps t (Harmless request) [] := by
  apply (answering_keeps h).mono
  rintro response d (⟨a, -, rfl⟩ | ⟨e, blameless, rfl⟩) (reads | ⟨refused, known⟩)
  · exact absurd posted reads
  · exact absurd refused (Nat.not_le.2 granted)
  · exact absurd posted reads
  · exact blameless e rfl known

theorem orServe_harmless {α : Type} {known : Except HttpResponse α} {serve : α → Process HttpResponse}
    (h : ∀ a, (serve a).Keeps t (Harmless request) []) : (orServe known serve).Keeps t (Harmless request) [] := by
  cases known with
  | ok a => exact h a
  | error response => exact harmless_unsaid response

theorem serve_harmless (accepted : resource.accepts request.method = true) :
    (serve x request resource).process.Keeps (callerTerms admits true) (Harmless request) [] := by
  rw [serve]
  split
  · rename_i id decoded
    cases resource with
    | health => exact harmless_unsaid _
    | executionsOf _ =>
        refine orServe_harmless fun payload => orServe_harmless fun workflow => ?_
        exact posting_harmless Executor.create_blameless (of_decide_eq_true accepted) (by decide)
    | runOf _ =>
        simp only [serveNamed, answering, Awaited.process_map]
        exact posting_harmless (α := Summary) (Executor.runNamed_blameless _) (of_decide_eq_true accepted) (by decide)
    | execution _ => exact orServe_harmless fun id => reading_harmless Executor.get_blameless
    | stepsOf _ => exact orServe_harmless fun id => reading_harmless Executor.steps_blameless
  · exact harmless_unsaid _

/-- However a request is told, it keeps the rule of conduct, and is harmless. -/
theorem respond_keeps (x : Executor) (request : HttpRequest) :
    (respond x request).process.Keeps (callerTerms admits true) (Harmless request) [] := by
  rw [respond]
  split
  · exact harmless_unsaid _
  · rename_i resource named
    split
    · rename_i accepted
      rw [Awaited.process_map]
      apply (serve_harmless accepted).bind
      intro response d harmless
      have status : (sent request response).status = response.status := by
        rw [sent]
        split <;> rfl
      rintro (reads | refused)
      · exact harmless (.inl reads)
      · exact harmless (.inr (status ▸ refused))
    · exact harmless_unsaid _

/-! ## Requests side by side -/

/-- Any world answers callers within terms that say nothing of answers. -/
theorem upholds_any {σ ι : Type} [Store σ] [DecidableEq ι] (env : Environment) :
    @Upholds σ ι _ _ env (callerTerms .any true) fun _ _ => True where
  told _ _ _ := ⟨trivial, trivial⟩
  broke _ _ _ := trivial
  later _ _ := trivial

/-- Requests that are served in one world. -/
def pool {σ ι : Type} (x : Executor) (env : Environment) (w : World σ) (requests : ι → HttpRequest) :
    Pool σ ι HttpResponse :=
  .start env w fun i => respond x (requests i)

theorem pool_sound {σ ι : Type} {inv : World σ → (ι → Dialogue) → Prop} (env : Environment) {w : World σ}
    {requests : ι → HttpRequest} (initially : inv w fun _ => []) :
    (pool x env w requests).Sound (callerTerms admits true) (fun i => Harmless (requests i)) inv :=
  .start (fun i => respond_keeps x (requests i)) initially

/-- Whatever happens, a request that does not post, or was refused, has written nothing. -/
theorem refused_untouched {σ ι : Type} [Store σ] [DecidableEq ι] (x : Executor) (env : Environment) (w : World σ)
    (requests : ι → HttpRequest) (events : List (Event ι)) (i : ι) {response : HttpResponse}
    (result : (((pool x env w requests).play env events).callers i).result? = some response)
    (harmless : (requests i).method ≠ "POST" ∨ 400 ≤ response.status ∧ response.status < 500) :
    (((pool x env w requests).play env events).said i).Untouched := by
  have sound := (pool_sound env trivial : (pool x env w requests).Sound _ _ _).play (upholds_any env) events
  by_cases broke : (((pool x env w requests).play env events).callers i).rest = none
  · rw [Caller.result?_of_broken broke, Pool.play_interrupted] at result
    obtain ⟨post, segment, text, id, -, -, failed⟩ := respond_interrupted x result
    rw [failed] at harmless
    rcases harmless with reads | ⟨-, known⟩
    · exact absurd post reads
    · exact absurd known (Nat.lt_irrefl 500)
  · rw [Caller.result?_eq broke] at result
    exact sound.value result harmless

end Service

end WorkflowEngine
