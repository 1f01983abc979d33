/-
Module: WorkflowEngine.Proofs.DoubleStart
Layer: Proofs
Purpose: An execution is never run twice.  Of any number of callers that run one pending execution, in any order of
  turns and with readers in between, one succeeds and the others are turned away without having acted on the
  outside; and what the one leaves behind is what a run leaves behind that is alone (`one_run_wins`).
Imports: WorkflowEngine.Proofs.Accomplishment
Trusted boundary: none
Main exports: Registry.Stateless, Environment.Forgetful, Concluded.unique, Accomplished.unique, one_run_wins
-/
import WorkflowEngine.Proofs.Accomplishment

namespace WorkflowEngine

variable {env : Environment} {first : MemoryStore} {x : Executor} {base : ExecutionRow} {e : Execution}

/-! ## Handlers without a state -/

/-- The result of a handler depends on its settings and the run alone, as far as the handler itself goes. -/
def Handler.Stateless : Handler → Prop
  | .stateful .. => False
  | _ => True

/-- All handlers are without a state. -/
def Registry.Stateless (r : Registry) : Prop := ∀ type h, r.find? type = some h → h.Stateless

/-- Hosts and the mail server answer a request as they would at any other time. -/
structure Environment.Forgetful (env : Environment) : Prop where
  transport : ∀ before other request, env.transport before request = env.transport other request
  mailer : ∀ before other mail, env.mailer before mail = env.mailer other mail

theorem Registry.mem_of_find? {r : Registry} {type : String} {h : Handler} (found : r.find? type = some h) :
    (type, h) ∈ r.handlers := by
  obtain ⟨before, after, split, -⟩ := List.lookup_eq_some_iff.mp found
  rw [split]
  simp

theorem Registry.builtins_stateless (webhookTimeoutMs waitLimitMs : Nat) :
    (builtins webhookTimeoutMs waitLimitMs).Stateless := by
  intro type h found
  have member := mem_of_find? found
  simp only [builtins, List.mem_cons, Prod.mk.injEq, List.not_mem_nil, or_false] at member
  rcases member with ⟨-, rfl⟩ | ⟨-, rfl⟩ | ⟨-, rfl⟩ | ⟨-, rfl⟩ | ⟨-, rfl⟩ <;> trivial

theorem Handler.run_determined (forgetful : env.Forgetful) {config : Config} {context : ActionContext} {h : Handler}
    (stateless : h.Stateless) : (h.run config context).Determined (Steady env first) := by
  cases h with
  | sendMessage => trivial
  | runAgent =>
      simp only [Handler.run]
      split <;> trivial
  | sendEmail =>
      constructor
      · intro a b ha hb
        obtain ⟨before, rfl⟩ := ha
        obtain ⟨other, rfl⟩ := hb
        rw [forgetful.mailer before other]
      · intro a
        cases a <;> trivial
  | webhook timeoutMs =>
      simp only [Handler.run]
      split
      · trivial
      · constructor
        · intro a b ha hb
          obtain ⟨before, rfl⟩ := ha
          obtain ⟨other, rfl⟩ := hb
          rw [forgetful.transport before other]
        · intro a
          rcases a with _ | _ | _ <;> trivial
  | wait limitMs => exact ⟨fun _ _ _ _ => rfl, fun _ => trivial⟩
  | supplied name act => exact ⟨fun _ _ _ _ => rfl, fun _ => trivial⟩
  | stateful => exact stateless.elim

theorem Executor.visit_determined (stateless : x.registry.Stateless) (forgetful : env.Forgetful) (node : Node)
    (context : Context) : (x.visit e node context).Determined (Steady env first) := by
  unfold visit
  split
  · trivial
  · refine Process.Determined.bind ?_ fun _ => trivial
    unfold Registry.dispatch
    split
    · rename_i type h found
      obtain ⟨name, -, found⟩ := Option.bind_eq_some_iff.mp found
      exact Handler.run_determined forgetful (stateless name h found)
    · trivial
  · trivial
  · exact ⟨fun _ _ _ _ => rfl, fun _ => trivial⟩
  · trivial
  · trivial

/-! ## Runs that cannot differ -/

/-- A workflow is loaded in one way. -/
theorem Loadable.unique (faultless : env.Faultless) {workflowId : Uuid} {g g' : Graph}
    (h : Loadable (Steady env first) workflowId g) (k : Loadable (Steady env first) workflowId g') : g = g' := by
  obtain ⟨row, nodes, edges, workflow, nodesSaid, edgesSaid, rfl⟩ := h
  obtain ⟨row', nodes', edges', workflow', nodesSaid', edgesSaid', rfl⟩ := k
  cases (workflow.replies faultless).trans (workflow'.replies faultless).symm
  cases (nodesSaid.replies faultless).trans (nodesSaid'.replies faultless).symm
  cases (edgesSaid.replies faultless).trans (edgesSaid'.replies faultless).symm
  rfl

theorem Loadable.not_gone (faultless : env.Faultless) {workflowId : Uuid} {g : Graph}
    (h : Loadable (Steady env first) workflowId g)
    (missing : Steady env first (.store (.getWorkflow workflowId)) (.error .notFound)) : False := by
  obtain ⟨row, nodes, edges, workflow, -⟩ := h
  cases (workflow.replies faultless).trans (missing.replies faultless).symm

/-- The walk of a run has one conclusion. -/
theorem Concluded.unique (faultless : env.Faultless) (forgetful : env.Forgetful) (stateless : x.registry.Stateless)
    {visits visits' : List Visit} {outcome outcome' : Traversal} (h : Concluded (Steady env first) x e visits outcome)
    (k : Concluded (Steady env first) x e visits' outcome') : visits = visits' ∧ outcome = outcome' := by
  cases h with
  | gone missing =>
      cases k with
      | gone => exact ⟨rfl, rfl⟩
      | defective loaded | walked loaded => exact (loaded.not_gone faultless missing).elim
  | defective loaded entry =>
      cases k with
      | gone missing => exact (loaded.not_gone faultless missing).elim
      | defective loaded' entry' =>
          cases loaded.unique faultless loaded'
          cases entry.symm.trans entry'
          exact ⟨rfl, rfl⟩
      | walked loaded' entry' =>
          cases loaded.unique faultless loaded'
          cases entry.symm.trans entry'
  | walked loaded entry trail =>
      cases k with
      | gone missing => exact (loaded.not_gone faultless missing).elim
      | defective loaded' entry' =>
          cases loaded.unique faultless loaded'
          cases entry.symm.trans entry'
      | walked loaded' entry' trail' =>
          cases loaded.unique faultless loaded'
          cases entry.symm.trans entry'
          have one (node : Node) (context : Context) (a b : Except String NodeOutput)
              (ha : Executor.Possible (Steady env first) x e node context a)
              (hb : Executor.Possible (Steady env first) x e node context b) : a = b :=
            ha.unique (Executor.visit_determined stateless forgetful node context) hb
          cases trail.unique one trail'
          exact ⟨rfl, rfl⟩

/-- A run that is carried through leaves behind and tells one thing, whatever happens beside it. -/
theorem Accomplished.unique (faultless : env.Faultless) (forgetful : env.Forgetful) (stateless : x.registry.Stateless)
    {s s' : MemoryStore} {r r' : Except EngineError Summary} (h : Accomplished env first x base s r)
    (k : Accomplished env first x base s' r') :
    SameRecords base.id s s' ∧ r.map Summary.timeless = r'.map Summary.timeless := by
  cases h with
  | intro read concluded logged holds =>
      cases k with
      | intro read' concluded' logged' holds' =>
          cases read.symm.trans read'
          obtain ⟨rfl, rfl⟩ := concluded.unique faultless forgetful stateless concluded'
          refine ⟨⟨?_, ?_⟩, rfl⟩
          · rw [holds.row, holds'.row]
            rfl
          · rw [holds.log, holds'.log, List.map_append, List.map_append, logged.timeless_eq logged']

/-! ## Many callers -/

/-- A caller wants to run an execution. -/
def Demand.Runs (id : Uuid) : Demand → Prop
  | .run text => Executor.readId text = .ok id
  | _ => False

/-- A caller wants to read an execution. -/
def Demand.Reads : Demand → Prop
  | .get _ | .steps _ => True
  | _ => False

/-- How a caller ends that runs an execution, or reads one while others run it: it has won, or it has neither
visited a node nor written anything. -/
private theorem caller_ends {ι : Type} {demand : Demand} {s : MemoryStore} {D : ι → Dialogue} {i : ι}
    (faultless : env.Faultless) (books : Books env first s D) (there : first.executions.find? base.id = some base)
    (pending : base.status = ExecutionStatus.pending.name) (wanted : demand.Runs base.id ∨ demand.Reads)
    (said : ∀ l ∈ D i, Steady env first l.request l.answer) {r : Except EngineError Reply}
    (ends : demand.Ends (Steady env first) x r (D i)) :
    (demand.Runs base.id ∧ (D i).held? = some base.id ∧
        ∃ t, r = t.map .summary ∧ Accomplished env first x base s t) ∨
      ((D i).held? ≠ some base.id ∧ (∀ l ∈ D i, l.request.Preliminary) ∧
        (demand.Runs base.id →
          (∃ status : ExecutionStatus, r = .error (.alreadyStarted base.id status.name)) ∧
            ∃ j, (D j).held? = some base.id)) := by
  have free (quiet : (D i).Quiet) : (D i).held? ≠ some base.id := by simp [Dialogue.held?, quiet.start?]
  cases demand with
  | create => exact (wanted.elim id id).elim
  | get | steps =>
      obtain ⟨quiet, preliminary⟩ := ends
      exact .inr ⟨free quiet, preliminary, False.elim⟩
  | run text =>
      have named : Executor.readId text = .ok base.id := wanted.resolve_right id
      simp only [Demand.Ends, named] at ends
      obtain ⟨t, course, rfl⟩ := ends
      have fate := course.fate faultless.refuses there pending said
      rcases books.carried faultless there pending said fate with
        ⟨quiet, preliminary, late, held⟩ | ⟨held, accomplished⟩
      · obtain ⟨status, rfl⟩ := late
        exact .inr ⟨free quiet, preliminary, fun _ => ⟨⟨status, rfl⟩, held⟩⟩
      · exact .inl ⟨named, held, t, rfl, accomplished⟩

/-- Of any number of callers that run one pending execution, with readers in between, none breaks down, and all
of them can always be served to the end.  When all have ended, one run has succeeded and the others were turned
away, nobody but the one that succeeded has visited a node or acted on the outside, and the record and the step
log are those of a run that is alone. -/
theorem one_run_wins {n : Nat} (demands : Fin n → Demand) {w : World MemoryStore}
    (there : w.store.executions.find? base.id = some base) (pending : base.status = ExecutionStatus.pending.name)
    (wanted : ∀ i, (demands i).Runs base.id ∨ (demands i).Reads) (someRun : ∃ i, (demands i).Runs base.id)
    (faultless : env.Faultless) (forgetful : env.Forgetful) (stateless : x.registry.Stateless)
    (events : List (Event (Fin n))) :
    let reached := (x.pool env w demands).play env events
    (∀ i, (reached.callers i).rest ≠ none) ∧ (∃ more, ∀ i, ((reached.play env more).callers i).Ended) ∧
      ((∀ i, (reached.callers i).Ended) →
        ∃ winner summary, (demands winner).Runs base.id ∧
          (reached.callers winner).result? = some (.ok (.summary summary)) ∧
          (∀ i, i ≠ winner → (demands i).Runs base.id → ∃ status : ExecutionStatus,
            (reached.callers i).result? = some (.error (.alreadyStarted base.id status.name))) ∧
          (∀ i, i ≠ winner → ∀ l ∈ reached.said i, l.request.Preliminary) ∧
          ∀ text, Executor.readId text = .ok base.id →
            ∃ alone, ((x.runNamed text).run.run env w).1 = some (.ok alone) ∧ alone.timeless = summary.timeless ∧
              SameRecords base.id ((x.runNamed text).run.run env w).2.store reached.world.store) := by
  intro reached
  have sturdy := faultless.refuses.answer_ne_none (σ := MemoryStore)
  have unbroken := (x.pool env w demands).play_unbroken sturdy (fun i => nofun) events
  have creates (i : Fin n) (create : (demands i).isCreate = true) : false = true := by
    have want := wanted i
    cases demand : demands i <;> simp_all [Demand.isCreate, Demand.Runs, Demand.Reads]
  have sound :=
    (x.pool_sound env creates (Books.nothing_said w.store)).play (books_upheld faultless.refuses w.store) events
  refine ⟨unbroken, ?_, fun ended => ?_⟩
  · obtain ⟨more, ended⟩ := Pool.exists_play_ended env reached (List.finRange n)
    exact ⟨more, fun i => ended i (List.mem_finRange i)⟩
  · have result (i : Fin n) : ∃ r, (reached.callers i).result? = some r :=
      Caller.result?_of_ended (ended i) (unbroken i)
    have books := sound.inv
    have fate (i : Fin n) {r : Except EngineError Reply} (result : (reached.callers i).result? = some r) :=
      caller_ends faultless books there pending (wanted i) (sound.admitted i)
        (sound.value ((Caller.result?_eq (unbroken i)).symm.trans result))
    have somebody : ∃ i, (reached.said i).held? = some base.id := by
      obtain ⟨i, runs⟩ := someRun
      obtain ⟨r, result⟩ := result i
      rcases fate i result with ⟨-, held, -⟩ | ⟨-, -, late⟩
      · exact ⟨i, held⟩
      · exact (late runs).2
    obtain ⟨winner, held⟩ := somebody
    obtain ⟨r, won⟩ := result winner
    rcases fate winner won with ⟨runs, -, t, rfl, accomplished⟩ | ⟨free, -⟩
    · obtain ⟨summary, rfl⟩ := accomplished.eq_ok
      have others (i : Fin n) (other : i ≠ winner) := fun held' => other (books.held_unique held held')
      refine ⟨winner, summary, runs, won, fun i other runs => ?_, fun i other => ?_, fun text named => ?_⟩
      · obtain ⟨r, lost⟩ := result i
        rcases fate i lost with ⟨-, held, -⟩ | ⟨-, -, late⟩
        · exact (others i other held).elim
        · obtain ⟨⟨status, rfl⟩, -⟩ := late runs
          exact ⟨status, lost⟩
      · obtain ⟨r, lost⟩ := result i
        rcases fate i lost with ⟨-, held, -⟩ | ⟨-, preliminary, -⟩
        · exact (others i other held).elim
        · exact preliminary
      · obtain ⟨r, alone, accomplishedAlone⟩ := x.run_accomplished faultless there pending named
        obtain ⟨same, told⟩ := accomplishedAlone.unique faultless forgetful stateless accomplished
        obtain ⟨aloneSummary, rfl⟩ := accomplishedAlone.eq_ok
        exact ⟨aloneSummary, alone, Except.ok.inj told, same⟩
    · exact absurd held free

/-- Two callers run an execution, and one reads its steps. -/
def twoRunsAndAReader : Fin 3 → Demand
  | 0 | 1 => .run messageExecution.id.render
  | 2 => .steps messageExecution.id

theorem one_run_wins_of_two :
    ∃ events winner summary,
      let reached := (Executor.pool ⟨.builtins 1000 1000, 5, 0⟩ .calm (.start messageStore) twoRunsAndAReader).play .calm
        events
      (reached.callers winner).result? = some (.ok (.summary summary)) ∧
        ∀ i, i ≠ winner → (twoRunsAndAReader i).Runs messageExecution.id → ∃ status : ExecutionStatus,
          (reached.callers i).result? = some (.error (.alreadyStarted messageExecution.id status.name)) := by
  have wanted (i : Fin 3) : (twoRunsAndAReader i).Runs messageExecution.id ∨ (twoRunsAndAReader i).Reads := by
    match i with
    | 0 | 1 => exact .inl readId_message
    | 2 => exact .inr trivial
  have forgetful : Environment.calm.Forgetful := ⟨fun _ _ _ => rfl, fun _ _ _ => rfl⟩
  have runs (events : List (Event (Fin 3))) := one_run_wins (x := ⟨.builtins 1000 1000, 5, 0⟩)
    (w := .start messageStore) twoRunsAndAReader messageStore_holds rfl wanted ⟨0, readId_message⟩
    Environment.calm_faultless forgetful (Registry.builtins_stateless 1000 1000) events
  obtain ⟨-, ⟨more, ended⟩, -⟩ := runs []
  obtain ⟨winner, summary, -, won, lost, -⟩ := (runs more).2.2 ended
  exact ⟨more, winner, summary, won, lost⟩

end WorkflowEngine
