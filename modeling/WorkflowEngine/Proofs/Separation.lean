/-
Module: WorkflowEngine.Proofs.Separation
Layer: Proofs
Purpose: Runs of distinct executions do not show in each other.  A call of a run touches the record and the steps of
  its own execution alone, so that a run among others goes on abreast of the same run alone: each answer keeps it so
  (`Caller.Paces.served`, `Caller.Paces.beside`), and therefore so does every order of turns (`separate_runs`).
Imports: WorkflowEngine.Proofs.Abreast, WorkflowEngine.Proofs.DoubleStart
Trusted boundary: none
Main exports: MemoryStore.Filed, MemoryStore.LooksLike, Environment.facing, World.answer_alike, Caller.Paces,
  separate_runs
-/
import WorkflowEngine.Proofs.Abreast
import WorkflowEngine.Proofs.DoubleStart

namespace WorkflowEngine

/-! ## Stores -/

theorem ExecutionRow.started_timeless {row row' : ExecutionRow} (same : row.timeless = row'.timeless)
    (t t' : Instant) : (row.started t).timeless = (row'.started t').timeless := by
  calc (row.started t).timeless = row.timeless.started 0 := rfl
    _ = row'.timeless.started 0 := by rw [same]
    _ = (row'.started t').timeless := rfl

theorem ExecutionRow.finished_timeless {row row' : ExecutionRow} {f f' : Finish} (same : row.timeless = row'.timeless)
    (ends : f.timeless = f'.timeless) : (row.finished f).timeless = (row'.finished f').timeless := by
  calc (row.finished f).timeless = row.timeless.finished f.timeless := rfl
    _ = row'.timeless.finished f'.timeless := by rw [same, ends]
    _ = (row'.finished f').timeless := rfl

namespace MemoryStore

variable {id other : Uuid} {s s' t : MemoryStore} {c c' : StoreCall} {stamp stamp' : Stamp}

/-- Every execution is held under its own id. -/
def Filed (s : MemoryStore) : Prop := ∀ id row, s.executions.find? id = some row → row.id = id

theorem empty_filed : empty.Filed := nofun

theorem Filed.put (h : s.Filed) {row : ExecutionRow} (own : row.id = id) :
    Filed { s with executions := s.executions.put id row } := by
  intro key found lookup
  by_cases same : key = id
  · subst same
    rw [Table.find?_put_self] at lookup
    cases lookup
    exact own
  · rw [Table.find?_put_ne _ _ same] at lookup
    exact h key found lookup

/-- No call puts an execution under another id than its own. -/
theorem Filed.answer (h : s.Filed) (stamp : Stamp) (c : StoreCall) : (answer stamp c s).2.Filed := by
  cases c with
  | createExecution => exact h.put rfl
  | markRunning id startedAt =>
      simp only [MemoryStore.answer]
      split
      · exact h
      · rename_i row found
        split
        · exact h.put (h id row found)
        · exact h
  | finishExecution id f =>
      simp only [MemoryStore.answer]
      split
      · exact h
      · rename_i row found
        split
        · exact h.put (h id row found)
        · exact h
  | insertStep step =>
      simp only [MemoryStore.answer]
      split <;> exact h
  | getExecution | getWorkflow | listNodes | listEdges | listSteps => exact h

/-- To a run of an execution two stores look alike: they hold the same workflows, and the same of the execution but
for ids and times. -/
structure LooksLike (id : Uuid) (s s' : MemoryStore) : Prop where
  workflows : s.workflows = s'.workflows
  nodes : s.nodes = s'.nodes
  edges : s.edges = s'.edges
  records : SameRecords id s s'
  own : ∀ row, s.executions.find? id = some row → row.id = id

theorem Filed.looksLike (h : s.Filed) (id : Uuid) : s.LooksLike id s := ⟨rfl, rfl, rfl, ⟨rfl, rfl⟩, h id⟩

namespace LooksLike

/-- Neither store holds the execution, or both do. -/
theorem rows (h : s.LooksLike id s') : (s.executions.find? id = none ∧ s'.executions.find? id = none) ∨
    ∃ row row', s.executions.find? id = some row ∧ s'.executions.find? id = some row' ∧ row.id = id ∧
      row.timeless = row'.timeless := by
  have same := h.records.1
  cases found : s.executions.find? id with
  | none =>
      rw [found] at same
      exact .inl ⟨rfl, Option.map_eq_none_iff.mp same.symm⟩
  | some row =>
      rw [found] at same
      obtain ⟨row', found', timeless⟩ := Option.map_eq_some_iff.mp same.symm
      exact .inr ⟨row, row', rfl, found', h.own row found, timeless.symm⟩

theorem put (h : s.LooksLike id s') {row row' : ExecutionRow} (own : row.id = id)
    (same : row.timeless = row'.timeless) :
    LooksLike id { s with executions := s.executions.put id row }
      { s' with executions := s'.executions.put id row' } where
  workflows := h.workflows
  nodes := h.nodes
  edges := h.edges
  records := by
    refine ⟨?_, h.records.2⟩
    simp only [Table.find?_put_self, Option.map_some, same]
  own found lookup := by
    rw [Table.find?_put_self] at lookup
    cases lookup
    exact own

theorem log (h : s.LooksLike id s') {step step' : StepRow} (same : step.timeless = step'.timeless) :
    LooksLike id { s with steps := s.steps.put id (s.stepsOf id ++ [step]) }
      { s' with steps := s'.steps.put id (s'.stepsOf id ++ [step']) } where
  workflows := h.workflows
  nodes := h.nodes
  edges := h.edges
  records := by
    refine ⟨h.records.1, ?_⟩
    have before := h.records.2
    simp only [stepsOf] at before ⊢
    simp only [Table.find?_put_self, Option.getD_some, List.map_append, List.map_cons, List.map_nil, before, same]
  own := h.own

/-- Calls that are alike are answered alike, and afterwards the stores look alike. -/
theorem answer (h : s.LooksLike id s') (alike : Request.Alike id (.store c) (.store c')) (stamp stamp' : Stamp) :
    Line.Alike id ⟨.store c, (MemoryStore.answer stamp c s).1⟩ ⟨.store c', (MemoryStore.answer stamp' c' s').1⟩ ∧
      (MemoryStore.answer stamp c s).2.LooksLike id (MemoryStore.answer stamp' c' s').2 := by
  cases alike with
  | constant constant =>
      cases c with
      | getWorkflow workflowId =>
          simp only [MemoryStore.answer, h.workflows]
          exact ⟨.constant constant _, h⟩
      | listNodes workflowId =>
          simp only [MemoryStore.answer, h.nodes]
          exact ⟨.constant constant _, h⟩
      | listEdges workflowId =>
          simp only [MemoryStore.answer, h.edges]
          exact ⟨.constant constant _, h⟩
      | _ => exact constant.elim
  | incidental incidental => exact incidental.elim
  | read =>
      rcases h.rows with ⟨found, found'⟩ | ⟨row, row', found, found', own, same⟩
      · simp only [MemoryStore.answer, found, found']
        exact ⟨.unread _, h⟩
      · simp only [MemoryStore.answer, found, found']
        exact ⟨.read own same, h⟩
  | start t t' =>
      rcases h.rows with ⟨found, found'⟩ | ⟨row, row', found, found', own, same⟩
      · simp only [MemoryStore.answer, found, found']
        exact ⟨.start t t' _, h⟩
      · have status := (ExecutionRow.eq_of_timeless same).2.2.2
        simp only [MemoryStore.answer, found, found', ← status]
        split
        · exact ⟨.start t t' _, h.put own (ExecutionRow.started_timeless same t t')⟩
        · exact ⟨.start t t' _, h⟩
  | @record step step' own same =>
      have own' : step'.executionId = id := by
        rw [← own]
        exact (congrArg StepRow.executionId same).symm
      rcases h.rows with ⟨found, found'⟩ | ⟨row, row', found, found', -, -⟩
      · simp only [MemoryStore.answer, own, own', found, found']
        exact ⟨.record own same _, h⟩
      · simp only [MemoryStore.answer, own, own', found, found']
        exact ⟨.record own same _, h.log same⟩
  | finish ends =>
      rcases h.rows with ⟨found, found'⟩ | ⟨row, row', found, found', own, same⟩
      · simp only [MemoryStore.answer, found, found']
        exact ⟨.finish ends _, h⟩
      · have status := (ExecutionRow.eq_of_timeless same).2.2.2
        simp only [MemoryStore.answer, found, found', ← status]
        split
        · exact ⟨.finish ends _, h.put own (ExecutionRow.finished_timeless same ends)⟩
        · exact ⟨.finish ends _, h⟩

end LooksLike

/-- What a run calls for leaves all other executions as they are. -/
theorem Holds.elsewhere {row : Option ExecutionRow} {log : List StepRow} (h : s.Holds id row log)
    (alike : Request.Alike other (.store c) (.store c')) (ne : other ≠ id) :
    (answer stamp c s).2.Holds id row log := by
  cases alike with
  | constant constant =>
      cases c with
      | getWorkflow | listNodes | listEdges => exact h
      | _ => exact constant.elim
  | incidental incidental => exact incidental.elim
  | read => exact h
  | start t t' =>
      simp only [answer]
      split
      · exact h
      · split
        · exact h.put_other ne _
        · exact h
  | record own same =>
      simp only [answer, own]
      split
      · exact h
      · exact h.log_other ne _
  | finish same =>
      simp only [answer]
      split
      · exact h
      · split
        · exact h.put_other ne _
        · exact h

/-- What a run calls for does not show to the runs of other executions. -/
theorem LooksLike.elsewhere (h : s.LooksLike id t) (alike : Request.Alike other (.store c) (.store c'))
    (ne : other ≠ id) : (MemoryStore.answer stamp c s).2.LooksLike id t := by
  have holds : (MemoryStore.answer stamp c s).2.Holds id _ _ := Holds.elsewhere ⟨rfl, rfl⟩ alike ne
  obtain ⟨workflows, nodes, edges⟩ := answer_workflows (rfl : MemoryStore.answer stamp c s = _)
  exact {
    workflows := workflows.trans h.workflows
    nodes := nodes.trans h.nodes
    edges := edges.trans h.edges
    records := by
      rw [SameRecords, holds.row, holds.log]
      exact h.records
    own := by
      rw [holds.row]
      exact h.own }

end MemoryStore

/-! ## Worlds -/

/-- What goes wrong with the calls of one kind, counted from zero. -/
abbrev FaultPlan := StoreMethod → Nat → Option Effect

/-- How many calls of a kind there were in a dialogue. -/
def Dialogue.callCount (d : Dialogue) (m : StoreMethod) : Nat := d.countP fun l => l.request.method? = some m

/-- The environment in which calls fail as planned. -/
def Environment.failing (env : Environment) (plan : FaultPlan) : Environment := { env with faults := plan }

/-- What a caller faces that has said some things: its calls fail as planned for it, whoever else makes calls. -/
def Environment.facing {ι : Type} (env : Environment) (plans : ι → FaultPlan) (i : ι) (said : Dialogue) :
    Environment :=
  env.failing fun m _ => plans i m (said.callCount m)

section Worlds

variable {env : Environment} {id : Uuid} {r r' : Request} {c c' : StoreCall} {plan plan' : FaultPlan}
  {w w' : World MemoryStore}

/-- Two requests are answered alike, and afterwards the stores look alike; or both callers break down. -/
inductive AnsweredAlike (id : Uuid) (r r' : Request) :
    Option (r.Answer × Nat) × World MemoryStore → Option (r'.Answer × Nat) × World MemoryStore → Prop where
  | told {a : r.Answer} {a' : r'.Answer} {ms ms' : Nat} {w w' : World MemoryStore}
      (alike : Line.Alike id ⟨r, a⟩ ⟨r', a'⟩) (store : w.store.LooksLike id w'.store) :
      AnsweredAlike id r r' (some (a, ms), w) (some (a', ms'), w')
  | broke {w w' : World MemoryStore} (store : w.store.LooksLike id w'.store) :
      AnsweredAlike id r r' (none, w) (none, w')

namespace World

theorem answer_store_alike (alike : Request.Alike id (.store c) (.store c'))
    (effects : ∀ m, plan m (w.callCount m) = plan' m (w'.callCount m)) (store : w.store.LooksLike id w'.store) :
    AnsweredAlike id (.store c) (.store c') (answer (env.failing plan) (.store c) w)
      (answer (env.failing plan') (.store c') w') := by
  have method : c'.method = c.method := Option.some.inj alike.method?_eq.symm
  obtain ⟨line, after⟩ := store.answer alike ⟨env.ids w.issued, w.now⟩ ⟨env.ids w'.issued, w'.now⟩
  simp only [answer, call, Environment.failing, method, effects]
  cases effect : plan' c.method (w'.callCount c.method) with
  | none => exact .told line after
  | some e =>
      cases e with
      | refuse f => exact .told (alike.failed f) store
      | unacknowledged f => exact .told (alike.failed f) after
      | crash => exact .broke store
      | lose =>
          cases alike with
          | start t t' => exact .told (.start t t' _) store
          | read | record | finish => exact .told line after
          | incidental incidental => exact incidental.elim
          | constant constant =>
              cases c with
              | getWorkflow | listNodes | listEdges => exact .told line after
              | _ => exact constant.elim

/-- Requests that are alike are answered alike where stores look alike and the same goes wrong. -/
theorem answer_alike (forgetful : env.Forgetful) (alike : r.Alike id r')
    (effects : ∀ m, plan m (w.callCount m) = plan' m (w'.callCount m)) (store : w.store.LooksLike id w'.store) :
    AnsweredAlike id r r' (answer (env.failing plan) r w) (answer (env.failing plan') r' w') := by
  cases alike with
  | read => exact answer_store_alike .read effects store
  | start t t' => exact answer_store_alike (.start t t') effects store
  | record own same => exact answer_store_alike (.record own same) effects store
  | finish same => exact answer_store_alike (.finish same) effects store
  | incidental incidental =>
      cases r with
      | clock | freshId | note => exact .told (.incidental incidental _ _) store
      | _ => exact incidental.elim
  | constant constant =>
      cases r with
      | store c => exact answer_store_alike (.constant constant) effects store
      | sleep => exact .told (.constant constant _) store
      | exchange request timeoutMs =>
          simp only [answer, Environment.failing, forgetful.transport w.requests w'.requests request]
          exact .told (.constant constant _) store
      | deliver mail =>
          simp only [answer, Environment.failing, forgetful.mailer w.mails w'.mails mail]
          cases env.mailer w'.mails mail with
          | ok => exact .told (.constant constant _) store
          | error => exact .told (.constant constant _) store
      | _ => exact constant.elim

section Leaving

variable {σ : Type} [Store σ]

/-- A call is noted, and the store is as before or as after an answer. -/
theorem call_leaves (env : Environment) (c : StoreCall) (w : World σ) :
    (call env c w).2.calls = c.method :: w.calls ∧ ((call env c w).2.store = w.store ∨
      ∃ stamp, (call env c w).2.store = (Store.answer stamp c w.store).2) := by
  simp only [call]
  cases env.faults c.method (w.callCount c.method) with
  | none => exact ⟨rfl, .inr ⟨_, rfl⟩⟩
  | some e =>
      cases e with
      | refuse | crash => exact ⟨rfl, .inl rfl⟩
      | unacknowledged => exact ⟨rfl, .inr ⟨_, rfl⟩⟩
      | lose =>
          cases c with
          | markRunning => exact ⟨rfl, .inl rfl⟩
          | _ => exact ⟨rfl, .inr ⟨_, rfl⟩⟩

/-- What is no call leaves the store as it is, and is not counted. -/
theorem answer_aside (env : Environment) {r : Request} (aside : r.method? = none) (w : World σ) :
    (answer env r w).2.calls = w.calls ∧ (answer env r w).2.store = w.store := by
  cases r with
  | store => cases aside
  | deliver mail =>
      simp only [answer]
      split <;> exact ⟨rfl, rfl⟩
  | clock | freshId | sleep | exchange | note => exact ⟨rfl, rfl⟩

theorem callCount_answer_eq (env : Environment) (r : Request) (w : World σ) (m : StoreMethod) :
    (answer env r w).2.callCount m = w.callCount m + if r.method? = some m then 1 else 0 := by
  by_cases aside : r.method? = none
  · simp [callCount, answer_aside env aside w, aside]
  · cases r with
    | store c =>
        change ((call env c w).2.calls).count m = _
        rw [(call_leaves env c w).1, List.count_cons, callCount]
        simp [Request.method?]
    | _ => exact absurd rfl aside

end Leaving

/-- An answer to a run does not show to the runs of other executions. -/
theorem answer_beside (env : Environment) {other : Uuid} (alike : r.Alike other r') (ne : other ≠ id)
    {s : MemoryStore} (store : w.store.LooksLike id s) : (answer env r w).2.store.LooksLike id s := by
  by_cases aside : r.method? = none
  · rw [(answer_aside env aside w).2]
    exact store
  · cases r with
    | store c =>
        have method := alike.method?_eq
        cases r' with
        | store c' =>
            rcases (call_leaves env c w).2 with same | ⟨stamp, reached⟩
            · change (call env c w).2.store.LooksLike id s
              rw [same]
              exact store
            · change (call env c w).2.store.LooksLike id s
              rw [reached]
              exact store.elsewhere alike ne
        | _ => cases method
    | _ => exact absurd rfl aside

end World

end Worlds

/-! ## Callers -/

theorem Dialogue.callCount_snoc (d : Dialogue) (l : Line) (m : StoreMethod) :
    Dialogue.callCount (d ++ [l]) m = d.callCount m + if l.request.method? = some m then 1 else 0 := by
  simp [callCount, List.countP_append, List.countP_cons]

section Pools

variable {ι α : Type} [DecidableEq ι] {env : Environment} {id : Uuid} {ends : α → α → Prop}
  {alone : Option α × World MemoryStore} {plan : FaultPlan} {plans : ι → FaultPlan} {P : Pool MemoryStore ι α} {i j : ι}

/-- A caller keeps pace with its process run alone: what is left of both goes on abreast, after as many calls of each
kind, and the stores look alike to both; or both have broken down. -/
inductive Caller.Paces (env : Environment) (id : Uuid) (ends : α → α → Prop) (alone : Option α × World MemoryStore)
    (s : MemoryStore) : Caller α → Prop where
  | going {p q : Process α} {wake : Instant} {said : Dialogue} {interrupted : Option α} {v : World MemoryStore}
      (abreast : p.Abreast id ends q) (runs : q.run env v = alone) (counted : ∀ m, said.callCount m = v.callCount m)
      (store : s.LooksLike id v.store) : Paces env id ends alone s ⟨some p, wake, said, interrupted⟩
  | broken {wake : Instant} {said : Dialogue} {interrupted : Option α} (broke : alone.1 = none)
      (store : s.LooksLike id alone.2.store) : Paces env id ends alone s ⟨none, wake, said, interrupted⟩

namespace Caller.Paces

variable {s : MemoryStore} {c : Caller α}

/-- Where a caller asks for something, the process run alone asks for something alike. -/
theorem asks (h : c.Paces env id ends alone s) {r : Request} {next : r.Answer → Process α}
    (rest : c.rest = some (.ask r next)) :
    ∃ r' next' v, r.Alike id r' ∧
      (∀ a a', Line.Alike id ⟨r, a⟩ ⟨r', a'⟩ → (next a).Abreast id ends (next' a')) ∧
      (Process.ask r' next').run env v = alone ∧ (∀ m, c.said.callCount m = v.callCount m) ∧
      s.LooksLike id v.store := by
  cases h with
  | @going p q wake said interrupted v abreast runs counted store =>
      cases rest
      cases q with
      | done => exact abreast.elim
      | ask r' next' => exact ⟨r', next', v, abreast.1, abreast.2, runs, counted, store⟩
  | broken => cases rest

/-- A caller that is served keeps pace: the process run alone is answered alike. -/
theorem served (forgetful : env.Forgetful)
    (h : (P.callers i).Paces (env.failing (plans i)) id ends alone P.world.store) :
    ((P.turn (env.facing plans i (P.said i)) i).callers i).Paces (env.failing (plans i)) id ends alone
      (P.turn (env.facing plans i (P.said i)) i).world.store := by
  have turned := P.turned (env.facing plans i (P.said i)) i
  generalize P.turn (env.facing plans i (P.said i)) i = Q at turned ⊢
  have answers {r : Request} {next : r.Answer → Process α} (rest : (P.callers i).rest = some (.ask r next)) :
      ∃ r' next' v, (∀ a a', Line.Alike id ⟨r, a⟩ ⟨r', a'⟩ → (next a).Abreast id ends (next' a')) ∧
        (Process.ask r' next').run (env.failing (plans i)) v = alone ∧
        (∀ m, (P.said i).callCount m + (if r.method? = some m then 1 else 0)
          = (World.answer (env.failing (plans i)) r' v).2.callCount m) ∧
        AnsweredAlike id r r' (World.answer (env.facing plans i (P.said i)) r P.world)
          (World.answer (env.failing (plans i)) r' v) := by
    obtain ⟨r', next', v, alike, goesOn, runs, counted, store⟩ := h.asks rest
    refine ⟨r', next', v, goesOn, runs, ?_, ?_⟩
    · intro m
      rw [World.callCount_answer_eq, ← counted m, ← alike.method?_eq]
      rfl
    · apply World.answer_alike forgetful alike _ store
      intro m
      exact congrArg (plans i m) (counted m)
  cases turned with
  | idle => exact h
  | @told r next a ms w rest awake answered =>
      obtain ⟨r', next', v, goesOn, runs, counted, twin⟩ := answers rest
      rw [answered] at twin
      cases reply : World.answer (env.failing (plans i)) r' v with
      | mk told v' =>
          rw [reply] at twin counted
          cases twin with
          | @told _ a' _ ms' _ _ line store =>
              simp only [Function.update_self]
              refine .going (v := v'.later ms') (goesOn _ _ line) ?_ ?_ store
              · rw [← runs]
                simp only [Process.run, reply]
              · intro m
                rw [Dialogue.callCount_snoc]
                exact counted m
  | @broke r next w rest answered =>
      obtain ⟨r', next', v, goesOn, runs, -, twin⟩ := answers rest
      rw [answered] at twin
      cases reply : World.answer (env.failing (plans i)) r' v with
      | mk told v' =>
          rw [reply] at twin
          cases twin with
          | broke store =>
              simp only [Function.update_self]
              have alone_eq : (none, v') = alone := by
                rw [← runs]
                simp only [Process.run, reply]
              cases alone_eq
              exact .broken rfl store

/-- A caller keeps pace where the store comes to look otherwise to other callers alone. -/
theorem elsewhere {s' : MemoryStore} (h : c.Paces env id ends alone s)
    (looks : ∀ t, s.LooksLike id t → s'.LooksLike id t) : c.Paces env id ends alone s' := by
  cases h with
  | going abreast runs counted store => exact .going abreast runs counted (looks _ store)
  | broken broke store => exact .broken broke (looks _ store)

/-- A caller keeps pace while another one is served that runs another execution. -/
theorem beside {other : Uuid} {ends' : α → α → Prop} {alone' : Option α × World MemoryStore} (ne : other ≠ id)
    (different : i ≠ j) (h : (P.callers i).Paces (env.failing (plans i)) id ends alone P.world.store)
    (server : (P.callers j).Paces (env.failing (plans j)) other ends' alone' P.world.store) :
    ((P.turn (env.facing plans j (P.said j)) j).callers i).Paces (env.failing (plans i)) id ends alone
      (P.turn (env.facing plans j (P.said j)) j).world.store := by
  have turned := P.turned (env.facing plans j (P.said j)) j
  generalize P.turn (env.facing plans j (P.said j)) j = Q at turned ⊢
  cases turned with
  | idle => exact h
  | told rest awake answered | broke rest answered =>
      obtain ⟨r', -, -, alike, -⟩ := server.asks rest
      simp only [Function.update_of_ne different]
      refine h.elsewhere fun t store => ?_
      have same := World.answer_beside (env.facing plans j (P.said j)) alike ne store
      rw [answered] at same
      exact same

/-- A caller that has ended has come out as its process run alone. -/
theorem ended (h : c.Paces env id ends alone s) (ended : c.Ended) :
    s.LooksLike id alone.2.store ∧
      ((c.rest = none ∧ alone.1 = none) ∨ ∃ a b, c.rest = some (.done a) ∧ alone.1 = some b ∧ ends a b) := by
  cases h with
  | broken broke store => exact ⟨store, .inl ⟨rfl, broke⟩⟩
  | @going p q wake said interrupted v abreast runs counted store =>
      cases p with
      | ask r next => exact absurd rfl (ended r next)
      | done a =>
          cases q with
          | ask => exact abreast.elim
          | done b =>
              cases runs
              exact ⟨store, .inr ⟨a, b, rfl, rfl, abreast⟩⟩

end Caller.Paces

namespace Pool

/-- Every caller keeps pace with its process run alone, each on an execution of its own. -/
def Separate (env : Environment) (plans : ι → FaultPlan) (ids : ι → Uuid) (ends : α → α → Prop)
    (alone : ι → Option α × World MemoryStore) (P : Pool MemoryStore ι α) : Prop :=
  ∀ i, (P.callers i).Paces (env.failing (plans i)) (ids i) ends (alone i) P.world.store

namespace Separate

variable {ids : ι → Uuid} {alone : ι → Option α × World MemoryStore}

/-- Whatever happens next, every caller keeps pace. -/
theorem react (forgetful : env.Forgetful) (distinct : Function.Injective ids)
    (h : P.Separate env plans ids ends alone) (event : Event ι) :
    (P.reactFacing (env.facing plans) event).Separate env plans ids ends alone := by
  cases event with
  | pass ms => exact h
  | turn j =>
      intro i
      by_cases own : i = j
      · subst own
        exact (h i).served forgetful
      · exact (h i).beside (fun same => own (distinct same.symm)) own (h j)

/-- However the turns fall, every caller keeps pace. -/
theorem play (forgetful : env.Forgetful) (distinct : Function.Injective ids)
    (h : P.Separate env plans ids ends alone) (events : List (Event ι)) :
    (P.playFacing (env.facing plans) events).Separate env plans ids ends alone := by
  induction events generalizing P with
  | nil => exact h
  | cons event events ih => exact ih (h.react forgetful distinct event)

end Separate

end Pool

end Pools

/-! ## Runs -/

theorem Handler.Stateless.deterministic {h : Handler} (stateless : h.Stateless) : h.Deterministic := by
  cases h with
  | stateful => exact stateless.elim
  | _ => trivial

theorem Registry.builtins_deterministic (webhookTimeoutMs waitLimitMs : Nat) :
    (builtins webhookTimeoutMs waitLimitMs).Deterministic :=
  fun type h found => (builtins_stateless webhookTimeoutMs waitLimitMs type h found).deterministic

/-- A world in which no call has been counted yet. -/
def World.uncounted {σ : Type} (w : World σ) : World σ := { w with calls := [] }

theorem World.uncounted_start {σ : Type} (s : σ) : (World.start s).uncounted = .start s := rfl

/-- Runs of distinct executions do not influence each other.  Each run has a plan of its own for what goes wrong
with its calls, and may fail, be refused, be aborted or break down by it.  Whatever the plans of the others and
however the turns fall, all runs can be served to their ends, and each leaves behind and tells what it does when it
runs alone. -/
theorem separate_runs {n : Nat} (x : Executor) {env : Environment} {w : World MemoryStore} {ids : Fin n → Uuid}
    {texts : Fin n → String} (plans : Fin n → FaultPlan) (named : ∀ i, Executor.readId (texts i) = .ok (ids i))
    (distinct : Function.Injective ids) (filed : w.store.Filed) (deterministic : x.registry.Deterministic)
    (forgetful : env.Forgetful) (events : List (Event (Fin n))) :
    let reached := (Pool.start env w fun i => (x.runNamed (texts i)).run).playFacing (env.facing plans) events
    (∃ more, ∀ i, ((reached.playFacing (env.facing plans) more).callers i).Ended) ∧
      ∀ i, (reached.callers i).Ended →
        let alone := (x.runNamed (texts i)).run.run (env.failing (plans i)) w.uncounted
        SameRecords (ids i) reached.world.store alone.2.store ∧
          (reached.callers i).result?.map (·.map Summary.timeless) = alone.1.map (·.map Summary.timeless) := by
  intro reached
  constructor
  · obtain ⟨more, ended⟩ := Pool.exists_playFacing_ended (env.facing plans) reached (List.finRange n)
    exact ⟨more, fun i => ended i (List.mem_finRange i)⟩
  · intro i ended alone
    have spawned (j : Fin n) : (x.runNamed (texts j)).run.process = (x.runAttached (ids j)).run := by
      rw [Executor.runNamed_of_readId (named j), Executor.run_process]
    have initially : (Pool.start env w fun i => (x.runNamed (texts i)).run).Separate env plans ids
        (Task.Ends fun s s' => s.timeless = s'.timeless)
        (fun i => (x.runAttached (ids i)).run.run (env.failing (plans i)) w.uncounted) := by
      intro j
      refine .going ?_ rfl (fun m => rfl) (filed.looksLike (ids j))
      rw [spawned]
      exact x.runAttached_abreast deterministic (ids j)
    obtain ⟨looks, told⟩ := (initially.play forgetful distinct events i).ended ended
    have waited : alone = (((x.runAttached (ids i)).run.run (env.failing (plans i)) w.uncounted).1 <|>
        some (.error (.interrupted (ids i) env.breakdown)),
        ((x.runAttached (ids i)).run.run (env.failing (plans i)) w.uncounted).2) :=
      Executor.runNamed_run_eq _ (named i) _
    rw [waited]
    refine ⟨looks.records, ?_⟩
    rcases told with ⟨broke, broke'⟩ | ⟨r, r', result, result', alike⟩
    · rw [Caller.result?_of_broken broke, broke', Pool.playFacing_interrupted]
      simp only [Pool.start, Caller.new, Executor.runNamed_of_readId (named i), Executor.run_interrupted?]
      rfl
    · rw [Caller.result?_of_done result, result']
      cases alike with
      | ok alike => exact congrArg (some ∘ Except.ok) alike
      | error e => rfl

/-- A second pending execution of the sample workflow. -/
def otherExecution : ExecutionRow := .new (.ofNat 2) .nil .null 0

/-- A store that holds both executions. -/
def pairStore : MemoryStore :=
  { messageStore with executions := messageStore.executions.put otherExecution.id otherExecution }

/-- The ids of both executions. -/
def pairIds : Fin 2 → Uuid
  | 0 => messageExecution.id
  | 1 => otherExecution.id

/-- The text that names one of the two executions. -/
def pairTexts (i : Fin 2) : String := (pairIds i).render

/-- The run of the second execution breaks down when it records its second step. -/
def crashesInSecond : Fin 2 → FaultPlan
  | 0 => fun _ _ => none
  | 1 => fun m n => if m = .insertStep ∧ n = 1 then some .crash else none

theorem separate_runs_of_two :
    let x : Executor := ⟨.builtins 1000 1000, 5, 0⟩
    ∃ events, ∀ i,
      let reached := (Pool.start .calm (.start pairStore) fun i => (x.runNamed (pairTexts i)).run).playFacing
        (Environment.calm.facing crashesInSecond) events
      (reached.callers i).Ended ∧ SameRecords (pairIds i) reached.world.store
        ((x.runNamed (pairTexts i)).run.run (Environment.calm.failing (crashesInSecond i)) (.start pairStore)).2.store := by
  intro x
  have named : ∀ i, Executor.readId (pairTexts i) = .ok (pairIds i) := by decide +kernel
  have distinct : Function.Injective pairIds := by
    have apart : ∀ i j, pairIds i = pairIds j → i = j := by decide +kernel
    exact fun i j => apart i j
  have own : messageExecution.id = pairIds 0 := rfl
  have one : messageStore.Filed := MemoryStore.empty_filed.put own
  have filed : pairStore.Filed := one.put rfl
  have forgetful : Environment.calm.Forgetful := ⟨fun _ _ _ => rfl, fun _ _ _ => rfl⟩
  have runs (events : List (Event (Fin 2))) := separate_runs (w := .start pairStore) x crashesInSecond named distinct
    filed (Registry.builtins_deterministic 1000 1000) forgetful events
  obtain ⟨⟨more, ended⟩, -⟩ := runs []
  simp only [Pool.playFacing_nil] at ended
  refine ⟨more, fun i => ⟨ended i, ?_⟩⟩
  rw [← World.uncounted_start]
  exact ((runs more).2 i (ended i)).1

end WorkflowEngine
