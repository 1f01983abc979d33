/-
Module: WorkflowEngine.Proofs.StoreFaults
Layer: Proofs
Purpose: What becomes of a run when calls to the store fail.  A run says what it would say if no call failed, up to
  the first call that fails (`Process.dialogue_parts`); what it goes on to say depends on that call alone.  So
  whichever calls fail, the error, the record and the step log are the right ones (`faults_handled`).
Imports: WorkflowEngine.Proofs.Accomplishment
Trusted boundary: none
Main exports: Dialogue.faults, Dialogue.Parts, Environment.withoutFaults, Process.dialogue_parts, Fate.same_story,
  FaultsHandled, faults_handled
-/
import WorkflowEngine.Proofs.Accomplishment

namespace WorkflowEngine

/-! ## Faults in a dialogue -/

/-- The kinds of calls that a run makes until it has started its execution. -/
def StoreMethod.opens : StoreMethod → Bool
  | .getExecution | .markRunning => true
  | _ => false

/-- The kind of call that ends an execution. -/
def StoreMethod.ends : StoreMethod → Bool
  | .finishExecution => true
  | _ => false

/-- Why the store failed to serve the line, if the line is a call of one of some kinds. -/
def Line.faultOf? (kinds : StoreMethod → Bool) (l : Line) : Option StoreFault :=
  if l.request.method?.any kinds then l.fault? else none

namespace Dialogue

variable {kinds : StoreMethod → Bool} {c d : Dialogue}

/-- Why the store failed to serve calls of some kinds in a dialogue, in order. -/
def faults (kinds : StoreMethod → Bool) (d : Dialogue) : List StoreFault := d.filterMap (Line.faultOf? kinds)

@[simp] theorem faults_append : faults kinds (c ++ d) = c.faults kinds ++ d.faults kinds := List.filterMap_append

theorem faults_eq_nil (served : ∀ l ∈ d, l.fault? = none) : d.faults kinds = [] := by
  apply List.filterMap_eq_nil_iff.mpr
  intro l member
  simp [Line.faultOf?, served l member]

theorem faults_eq_nil_of_kind (other : ∀ l ∈ d, l.request.method?.any kinds = false) : d.faults kinds = [] := by
  apply List.filterMap_eq_nil_iff.mpr
  intro l member
  simp [Line.faultOf?, other l member]

theorem faults_fault {call : StoreCall} {f : StoreFault} (kind : kinds call.method = true) (fault : f ≠ .notFound) :
    faults kinds [⟨.store call, .error f⟩] = [f] := by
  simp [faults, Line.faultOf?, Request.method?, kind, fault]

/-- Two dialogues are the same, or they part where a call failed in the first of them. -/
inductive Parts : Dialogue → Dialogue → Prop where
  | never {d : Dialogue} : Parts d d
  | fault {before rest rest' : Dialogue} {call : StoreCall} {f : StoreFault} {reply : StoreReply call}
      (served : ∀ l ∈ before, l.fault? = none) (fault : f ≠ .notFound) :
      Parts (before ++ ⟨.store call, .error f⟩ :: rest) (before ++ ⟨.store call, reply⟩ :: rest')

theorem Parts.cons {l : Line} (served : l.fault? = none) (h : c.Parts d) : Parts (l :: c) (l :: d) := by
  cases h with
  | never => exact .never
  | @fault before rest rest' call f reply later fault =>
      change Parts ((l :: before) ++ _) ((l :: before) ++ _)
      refine .fault (fun k member => ?_) fault
      rcases List.mem_cons.mp member with rfl | old
      · exact served
      · exact later k old

/-- What was said before the first fault is settled by the whole dialogue. -/
theorem eq_of_first_fault {c' rest rest' : Dialogue} {l l' : Line} (same : c ++ l :: rest = c' ++ l' :: rest')
    (served : ∀ k ∈ c, k.fault? = none) (served' : ∀ k ∈ c', k.fault? = none) (fault : l.fault? ≠ none)
    (fault' : l'.fault? ≠ none) : c = c' := by
  have first {c rest : Dialogue} {l : Line} (served : ∀ k ∈ c, k.fault? = none) (fault : l.fault? ≠ none) :
      (c ++ l :: rest).takeWhile (fun k => k.fault?.isNone) = c := by
    rw [List.takeWhile_append_of_pos (by simpa using served), List.takeWhile_cons_of_neg (by simpa using fault),
      List.append_nil]
  rw [← first served fault, same, first served' fault']

/-- The steps that are recorded before the first fault are the first ones of either dialogue. -/
theorem Parts.steps_prefix (h : c.Parts d) {before rest : Dialogue} {call : StoreCall} {f : StoreFault}
    (split : c = before ++ ⟨.store call, .error f⟩ :: rest) (served : ∀ l ∈ before, l.fault? = none)
    (fault : f ≠ .notFound) : before.steps <+: d.steps := by
  cases h with
  | never =>
      rw [split, steps_append]
      exact List.prefix_append ..
  | fault served' fault' =>
      cases eq_of_first_fault split served' served (by simp [fault']) (by simp [fault])
      rw [steps_append]
      exact List.prefix_append ..

end Dialogue

theorem opening_served (id : Uuid) (row : ExecutionRow) (clock : RunClock) :
    ∀ l ∈ opening id row clock, l.fault? = none := by
  simp [opening, Line.fault?]

theorem opening_not_ends (id : Uuid) (row : ExecutionRow) (clock : RunClock) :
    ∀ l ∈ opening id row clock, l.request.method? ≠ some .finishExecution := by
  simp [opening, Request.method?, StoreCall.method]

namespace Attempts

variable {id : Uuid} {clock : RunClock} {stepFailed : Bool} {error : Option String} {pauses : List Nat} {d : Dialogue}
  {r : Except EngineError FinishedRun}

/-- Where an execution is there to be ended, attempts come to an end before the pauses do, or every one of them
fails. -/
theorem faults_ends (h : Attempts id clock stepFailed error pauses d r)
    (there : ∀ call, (⟨.store call, .error .notFound⟩ : Line) ∉ d) :
    (∃ now, d.finish? = some (clock.finish stepFailed error now) ∧ r = .ok (clock.ended stepFailed error now) ∧
        (d.faults StoreMethod.ends).length ≤ pauses.length) ∨
      d.finish? = none ∧ (∃ f, r = .error (.store f)) ∧ (d.faults StoreMethod.ends).length = pauses.length + 1 := by
  induction h with
  | written => exact .inl ⟨_, rfl, rfl, Nat.zero_le _⟩
  | gone => exact absurd (List.mem_cons_of_mem _ (List.mem_singleton_self _)) (there _)
  | @givenUp now f fault =>
      refine .inr ⟨rfl, ⟨f, rfl⟩, ?_⟩
      simp [Dialogue.faults, Line.faultOf?, Request.method?, StoreCall.method, StoreMethod.ends, fault, Line.fault?]
  | @again pause pauses now f rest r fault later ih =>
      have one : Dialogue.faults StoreMethod.ends (⟨.clock, now⟩
          :: ⟨.store (.finishExecution id (clock.finish stepFailed error now)), .error f⟩
          :: ⟨.sleep (pause * 1000000), ()⟩ :: rest) = f :: rest.faults StoreMethod.ends := by
        simp [Dialogue.faults, Line.faultOf?, Request.method?, StoreCall.method, StoreMethod.ends, fault, Line.fault?]
      rw [one]
      rcases ih (fun call member => there call (by simp [member])) with ⟨now, finish, rfl, few⟩ | ⟨none, error, all⟩
      · exact .inl ⟨now, finish, rfl, Nat.succ_le_succ few⟩
      · exact .inr ⟨none, error, congrArg (· + 1) all⟩

/-- Only attempts at ending an execution fail among attempts. -/
theorem faults_other (h : Attempts id clock stepFailed error pauses d r) {kinds : StoreMethod → Bool}
    (other : kinds .finishExecution = false) : d.faults kinds = [] := by
  apply Dialogue.faults_eq_nil_of_kind
  intro l member
  rcases h.requests l member with eq | ⟨ns, eq⟩ | ⟨now, eq⟩ <;>
    simp [eq, Request.method?, StoreCall.method, other]

theorem fault_ends (h : Attempts id clock stepFailed error pauses d r) :
    ∀ l ∈ d, l.fault? ≠ none → l.request.method? = some .finishExecution := by
  intro l member fault
  rcases h.requests l member with eq | ⟨ns, eq⟩ | ⟨now, eq⟩
  · exact absurd (Line.fault?_of_method (by rw [eq]; rfl)) fault
  · exact absurd (Line.fault?_of_method (by rw [eq]; rfl)) fault
  · rw [eq]
    rfl

/-- After a dialogue that asks for the end of an execution, no step is recorded, and what is written tells what
was asked for. -/
theorem after_finish (h : Attempts id clock stepFailed error pauses d r) {before c rest : Dialogue} {key : Uuid}
    {f : Finish} {a : StoreReply (.finishExecution key f)}
    (unasked : ∀ l ∈ before, l.request.method? ≠ some .finishExecution)
    (split : before ++ d = c ++ ⟨.store (.finishExecution key f), a⟩ :: rest) :
    rest.steps = [] ∧ ∀ g, d.finish? = some g → g.status = f.status ∧ g.error = f.error := by
  have line : ∃ c', d = c' ++ ⟨.store (.finishExecution key f), a⟩ :: rest := by
    rcases List.append_eq_append_iff.mp split with ⟨c', -, eq⟩ | ⟨mid, eq, eq'⟩
    · exact ⟨c', eq⟩
    · cases mid with
      | nil => exact ⟨[], eq'.symm⟩
      | cons l mid =>
          obtain ⟨rfl, -⟩ := List.cons.inj eq'
          exact absurd rfl (unasked ⟨.store (.finishExecution key f), a⟩ (by simp [eq]))
  obtain ⟨c', eq⟩ := line
  constructor
  · have none := h.steps
    rw [eq, Dialogue.steps_append, ← List.singleton_append, Dialogue.steps_append] at none
    exact (List.append_eq_nil_iff.mp (List.append_eq_nil_iff.mp none).2).2
  · intro g finish
    rcases h.requests ⟨.store (.finishExecution key f), a⟩ (by simp [eq]) with asked | ⟨ns, asked⟩ | ⟨now, asked⟩
    · cases asked
    · cases asked
    · cases asked
      rcases h.finish? with ⟨now', finish', -⟩ | ⟨none, -⟩
      · rw [finish] at finish'
        cases finish'
        exact ⟨rfl, rfl⟩
      · rw [finish] at none
        cases none

end Attempts

/-! ## The same run without faults -/

/-- The same environment, with a store that never fails. -/
def Environment.withoutFaults (env : Environment) : Environment := { env with faults := fun _ _ => none }

theorem Environment.withoutFaults_faultless (env : Environment) : env.withoutFaults.Faultless := fun _ _ => rfl

variable {env : Environment}

theorem Environment.Refuses.not_notFound (h : env.Refuses) {m : StoreMethod} : ¬ env.MayRefuse m .notFound := by
  rintro ⟨n, effect⟩
  obtain ⟨f, same, fault⟩ := h m n _ effect
  cases same
  exact fault rfl

/-- The store itself has no faults. -/
theorem MemoryStore.answer_served {stamp : Stamp} {call : StoreCall} {s s' : MemoryStore} {reply : StoreReply call}
    (answered : answer stamp call s = (reply, s')) : Line.fault? ⟨.store call, reply⟩ = none := by
  have told : reply = (answer stamp call s).1 := (congrArg Prod.fst answered).symm
  rw [told]
  cases call with
  | createExecution | listNodes | listEdges | listSteps => rfl
  | getExecution id =>
      simp only [answer, found]
      split <;> rfl
  | getWorkflow id =>
      simp only [answer, found]
      split <;> rfl
  | insertStep step =>
      simp only [answer]
      split <;> rfl
  | markRunning id startedAt =>
      simp only [answer]
      split
      · rfl
      · split <;> rfl
  | finishExecution id finish =>
      simp only [answer]
      split
      · rfl
      · split <;> rfl

namespace World

variable {w w' : World MemoryStore}

theorem served_of_faultless (faultless : env.Faultless) {r : Request} {a : r.Answer} {ms : Nat}
    (answered : answer env r w = (some (a, ms), w')) : Line.fault? ⟨r, a⟩ = none := by
  cases served faultless.refuses.failsClean answered with
  | aside aside => exact Line.fault?_of_method aside
  | refused effect | lost effect =>
      rw [faultless] at effect
      cases effect
  | reached replied => exact MemoryStore.answer_served replied

/-- A request is answered as it would be if no call failed, or it is a call that is refused. -/
theorem answer_withoutFaults (refuses : env.Refuses) (r : Request) (w : World MemoryStore) :
    answer env r w = answer env.withoutFaults r w ∨ ∃ call f w', r = .store call ∧ f ≠ .notFound ∧
      answer env (.store call) w = (some (.error f, 0), w') := by
  cases r with
  | store call =>
      cases effect : env.faults call.method (w.callCount call.method) with
      | none =>
          refine .inl ?_
          simp only [answer, World.call, effect, Environment.withoutFaults]
          rfl
      | some e =>
          obtain ⟨f, rfl, fault⟩ := refuses _ _ _ effect
          refine .inr ⟨call, f, { w with calls := call.method :: w.calls }, rfl, fault, ?_⟩
          simp only [answer, World.call, effect]
          rfl
  | clock | freshId | sleep | exchange | deliver | note => exact .inl rfl

end World

/-- A run says what it would say if no call failed, up to the first call that fails. -/
theorem Process.dialogue_parts {α : Type} (refuses : env.Refuses) (p : Process α) (w : World MemoryStore) :
    (p.dialogue env w).Parts (p.dialogue env.withoutFaults w) := by
  induction p generalizing w with
  | done a => exact .never
  | ask r next ih =>
      have faultless := env.withoutFaults_faultless
      obtain ⟨a, ms, v, answered⟩ := faultless.refuses.answered r w
      rcases World.answer_withoutFaults refuses r w with same | ⟨call, f, w', rfl, fault, refused⟩
      · rw [answered] at same
        simp only [dialogue, answered, same]
        exact (ih a (v.later ms)).cons (World.served_of_faultless faultless answered)
      · -- Both ask for the same here for the last time: after this the worlds differ.
        simp only [dialogue, answered, refused]
        change Dialogue.Parts ([] ++ _) ([] ++ _)
        exact .fault (by simp) fault

/-! ## What is said after the first fault -/

/-- Once a run has started its execution, it asks for the end of it last. -/
theorem RunEnds.parts {admits : Answers} {x : Executor} {e : Execution} {clock : RunClock} {d : Dialogue}
    {r : Except EngineError Summary} (h : RunEnds admits x e clock d r) :
    ∃ main tail stepFailed error s, d = main ++ tail ∧
      (∀ l ∈ main, l.request.method? ≠ some .finishExecution) ∧
      Attempts e.id clock stepFailed error finalizePauses tail s := by
  have unasked {body : Dialogue} (smooth : body.Smooth) : ∀ l ∈ body, l.request.method? ≠ some .finishExecution := by
    intro l member asked
    have walks := (smooth l member).2 _ asked
    cases walks
  cases h with
  | concluded concluded smooth logged attempts => exact ⟨_, _, _, _, _, rfl, unasked smooth, attempts⟩
  | @aborted body tail call f r smooth sound walks fault attempts =>
      refine ⟨_, _, _, _, _, rfl, fun l member => ?_, attempts⟩
      rcases List.mem_append.mp member with before | last
      · exact unasked smooth l before
      · rw [List.mem_singleton.mp last]
        cases call with
        | finishExecution => cases walks
        | _ => simp [Request.method?, StoreCall.method]

namespace Fate

variable {first : MemoryStore} {x : Executor} {base : ExecutionRow} {d : Dialogue} {r : Except EngineError Summary}

/-- Once a run has asked for the end of its execution, it records no step, and what it writes tells what it has
asked for. -/
theorem after_finish (h : Fate env first x base d r) {c rest : Dialogue} {key : Uuid} {f : Finish}
    {a : StoreReply (.finishExecution key f)} (split : d = c ++ ⟨.store (.finishExecution key f), a⟩ :: rest) :
    d.steps = c.steps ∧ ∀ g, d.finish? = some g → g.status = f.status ∧ g.error = f.error := by
  have member : (⟨.store (.finishExecution key f), a⟩ : Line) ∈ d := by
    rw [split]
    simp
  cases h with
  | unread | unmarked => simp at member
  | denied quiet preliminary => exact (preliminary _ member).elim
  | @begun e clock said r read ends =>
      obtain ⟨main, tail, stepFailed, error, s, rfl, unasked, attempts⟩ := ends.parts
      have before : ∀ l ∈ opening base.id base clock ++ main, l.request.method? ≠ some .finishExecution := by
        intro l member
        rcases List.mem_append.mp member with first | later
        · exact opening_not_ends _ _ _ l first
        · exact unasked l later
      rw [← List.append_assoc] at split ⊢
      obtain ⟨none, same⟩ := attempts.after_finish before split
      refine ⟨?_, fun g finish => same g ?_⟩
      · rw [split, Dialogue.steps_append, ← List.singleton_append, Dialogue.steps_append, none, List.append_nil]
        exact List.append_nil _
      · rwa [Dialogue.finish?_append, Dialogue.finish?_eq_none before, Option.none_or] at finish

/-- Two runs of one execution that part where one of them fails to end it have recorded the same steps, and write
the same at the end. -/
theorem same_story {env' : Environment} {first' : MemoryStore} {d' : Dialogue} {r' : Except EngineError Summary}
    (h : Fate env first x base d r) (k : Fate env' first' x base d' r') (parts : d.Parts d')
    (only : ∀ l ∈ d, l.fault? ≠ none → l.request.method? = some .finishExecution) :
    d.steps = d'.steps ∧
      ∀ f f', d.finish? = some f → d'.finish? = some f' → f.status = f'.status ∧ f.error = f'.error := by
  cases parts with
  | never =>
      refine ⟨rfl, fun f f' finish finish' => ?_⟩
      cases finish.symm.trans finish'
      exact ⟨rfl, rfl⟩
  | @fault before rest rest' call f reply served fault =>
      have asked := only ⟨.store call, .error f⟩ (by simp) (by simp [fault])
      cases call with
      | finishExecution key asks =>
          obtain ⟨steps, same⟩ := h.after_finish rfl
          obtain ⟨steps', same'⟩ := k.after_finish rfl
          refine ⟨steps.trans steps'.symm, fun g g' finish finish' => ?_⟩
          exact ⟨(same g finish).1.trans (same' g' finish').1.symm, (same g finish).2.trans (same' g' finish').2.symm⟩
      | _ => cases asked

/-- A run that succeeds tells what it wrote. -/
theorem told {summary : Summary} (h : Fate env first x base d (.ok summary)) :
    ∃ startedAt f, d.start? = some (base.id, startedAt) ∧ d.finish? = some f ∧
      summary.timeless = ⟨f.status = ExecutionStatus.completed.name, base.id, 0, d.steps.length⟩ := by
  generalize ended : (.ok summary : Except EngineError Summary) = r at h
  cases h with
  | unread | unmarked | denied => cases ended
  | @begun e clock rest r read ends =>
      cases ends with
      | aborted => cases ended
      | @concluded body tail visits outcome s concluded smooth logged attempts =>
          rcases attempts.finish? with ⟨now, finish, rfl⟩ | ⟨-, f, rfl⟩
          · cases ended
            have steps : Dialogue.steps (opening base.id base clock ++ (body ++ tail)) = body.steps := by
              rw [Dialogue.steps_append, Dialogue.steps_append, attempts.steps, List.append_nil]
              rfl
            refine ⟨clock.startedAt, clock.finish outcome.stepFailed outcome.setupError now, rfl, ?_, ?_⟩
            · rw [Dialogue.finish?_append, Dialogue.finish?_append, smooth.finish?, finish]
              rfl
            · rw [steps, ← logged.length_eq, ← concluded.stepsExecuted_eq, ← ExecutionRow.toExecution_id read]
              simp only [Traversal.summary, Summary.timeless, RunClock.ended, RunClock.finish, Summary.mk.injEq]
              exact ⟨decide_eq_decide.mpr ExecutionStatus.name_inj.symm, trivial, trivial, trivial⟩
          · cases ended

end Fate

/-- Two dialogues that write the same at the end leave the same record, but for times. -/
theorem Dialogue.written_timeless {c d : Dialogue} {row : ExecutionRow} {started started' : Uuid × Instant}
    {f f' : Finish} (start : c.start? = some started) (finish : c.finish? = some f) (start' : d.start? = some started')
    (finish' : d.finish? = some f') (status : f.status = f'.status) (error : f.error = f'.error) :
    (c.written row).timeless = (d.written row).timeless := by
  simp only [written, start, finish, start', finish', ExecutionRow.finished, ExecutionRow.started,
    ExecutionRow.timeless, status, error]
  rfl

/-! ## What becomes of a run -/

/-- A request that a run makes once its walk is over. -/
def Request.Closing : Request → Prop
  | .store (.finishExecution ..) | .clock | .sleep _ => True
  | _ => False

/-- What a run has told, said and left in a store, next to what the same run leaves in another store and tells when
no call fails. -/
structure FaultsHandled (base : ExecutionRow) (log : List StepRow) (result : Except EngineError Summary)
    (said : Dialogue) (s : MemoryStore) (summary : Summary) (s' : MemoryStore) : Prop where
  /-- A fault before the start leaves everything as it was. -/
  unopened : ∀ f ∈ said.faults StoreMethod.opens,
    result = .error (.store f) ∧ s.Holds base.id (some base) log
  /-- A fault on the walk ends the run.  No further node is visited, and the execution is ended if that is possible
  at all. -/
  aborted : ∀ f ∈ said.faults StoreMethod.walks,
    result = .error (.store f) ∧
      (∃ before l after, said = before ++ l :: after ∧ l.faultOf? StoreMethod.walks = some f ∧
        (∀ k ∈ before, k.fault? = none) ∧ ∀ k ∈ after, k.request.Closing) ∧
      s.stepsOf base.id <+: s'.stepsOf base.id ∧
      ((said.faults StoreMethod.ends).length = 3 ∨ ∃ row, s.executions.find? base.id = some row ∧
        row.status = ExecutionStatus.failed.name ∧ row.error = some abortedError)
  /-- One or two faults at the end change nothing but the time of the end. -/
  concluded : said.faults StoreMethod.opens = [] → said.faults StoreMethod.walks = [] →
    (said.faults StoreMethod.ends).length ≤ 2 →
      ∃ told row row', result = .ok told ∧ told.timeless = summary.timeless ∧
        s.executions.find? base.id = some row ∧ s'.executions.find? base.id = some row' ∧
        row.timeless = row'.timeless ∧ s.stepsOf base.id = s'.stepsOf base.id
  /-- Three faults at the end leave the execution running, with all its steps. -/
  unfinished : said.faults StoreMethod.opens = [] → said.faults StoreMethod.walks = [] →
    (said.faults StoreMethod.ends).length = 3 →
      ∃ f row, result = .error (.store f) ∧ s.executions.find? base.id = some row ∧
        row.status = ExecutionStatus.running.name ∧ s.stepsOf base.id = s'.stepsOf base.id

namespace FaultsHandled

variable {first s s' : MemoryStore} {x : Executor} {base : ExecutionRow} {log : List StepRow} {d d' : Dialogue}
  {summary : Summary} {f : StoreFault}

/-- A run that is refused before it has started its execution. -/
theorem of_unopened (holds : s.Holds base.id (some base) log) (opens : d.faults StoreMethod.opens = [f])
    (walks : d.faults StoreMethod.walks = []) : FaultsHandled base log (.error (.store f)) d s summary s' where
  unopened g member := by
    rw [opens, List.mem_singleton] at member
    rw [member]
    exact ⟨rfl, holds⟩
  aborted g member := by
    rw [walks] at member
    cases member
  concluded none := by
    rw [opens] at none
    cases none
  unfinished none := by
    rw [opens] at none
    cases none

/-- A run that is broken off by a fault on its walk. -/
theorem of_aborted {before tail : Dialogue} {call : StoreCall} {clock : RunClock} {startedAt : Instant}
    {r : Except EngineError FinishedRun} (split : d = before ++ [⟨.store call, .error f⟩] ++ tail)
    (served : ∀ l ∈ before, l.fault? = none) (unended : before.finish? = none) (walks : call.method.walks = true)
    (fault : f ≠ .notFound) (attempts : Attempts base.id clock true (some abortedError) finalizePauses tail r)
    (known : ∀ call, (⟨.store call, .error .notFound⟩ : Line) ∉ tail) (started : d.start? = some (base.id, startedAt))
    (parts : d.Parts d')
    (ours : s.Holds base.id (some (d.written base)) (log ++ d.steps))
    (theirs : s'.stepsOf base.id = log ++ d'.steps) :
    FaultsHandled base log (.error (.store f)) d s summary s' := by
  have quiet := Dialogue.quiet_error call f
  have faults (kinds : StoreMethod → Bool) :
      d.faults kinds = Dialogue.faults kinds [⟨.store call, .error f⟩] ++ tail.faults kinds := by
    rw [split, Dialogue.faults_append, Dialogue.faults_append, Dialogue.faults_eq_nil served, List.nil_append]
  have opensNone : d.faults StoreMethod.opens = [] := by
    rw [faults, attempts.faults_other rfl]
    cases call with
    | getExecution | markRunning => cases walks
    | _ => rfl
  have walksOne : d.faults StoreMethod.walks = [f] := by
    rw [faults, attempts.faults_other rfl, Dialogue.faults_fault walks fault, List.append_nil]
  have endsAll : d.faults StoreMethod.ends = tail.faults StoreMethod.ends := by
    rw [faults]
    cases call with
    | finishExecution => cases walks
    | _ => rfl
  have steps : d.steps = before.steps := by
    rw [split, Dialogue.steps_append, attempts.steps, List.append_nil, quiet.steps_append]
  have split' : d = before ++ ⟨.store call, .error f⟩ :: tail := by
    rw [split, List.append_assoc, List.singleton_append]
  constructor
  · intro g member
    rw [opensNone] at member
    cases member
  · intro g member
    rw [walksOne, List.mem_singleton] at member
    subst member
    refine ⟨rfl, ⟨before, _, tail, split', ?_, served, fun l member => ?_⟩, ?_, ?_⟩
    · simp [Line.faultOf?, Request.method?, walks, fault]
    · rcases attempts.requests l member with eq | ⟨ns, eq⟩ | ⟨now, eq⟩ <;> simp [eq, Request.Closing]
    · rw [ours.log, theirs, List.prefix_append_right_inj, steps]
      exact parts.steps_prefix split' served fault
    · rw [endsAll]
      rcases attempts.faults_ends known with ⟨now, finish, -, -⟩ | ⟨-, -, all⟩
      · have finish : d.finish? = some (clock.finish true (some abortedError) now) := by
          rw [split, Dialogue.finish?_append, quiet.finish?_append, unended, Option.none_or, finish]
        refine .inr ⟨_, ours.row, ?_, ?_⟩ <;> simp only [Dialogue.written, started, finish] <;> rfl
      · exact .inl all
  · intro _ none
    rw [walksOne] at none
    cases none
  · intro _ none
    rw [walksOne] at none
    cases none

/-- A run whose walk was served, whatever failed at the end. -/
theorem of_concluded {env' : Environment} {first' : MemoryStore} {before tail : Dialogue} {clock : RunClock}
    {stepFailed : Bool} {error : Option String} {startedAt : Instant} {r : Except EngineError FinishedRun}
    {tell : FinishedRun → Summary} (split : d = before ++ tail) (served : ∀ l ∈ before, l.fault? = none)
    (unended : before.finish? = none) (attempts : Attempts base.id clock stepFailed error finalizePauses tail r)
    (known : ∀ call, (⟨.store call, .error .notFound⟩ : Line) ∉ tail) (started : d.start? = some (base.id, startedAt))
    (fate : Fate env first x base d (r.map tell)) (fate' : Fate env' first' x base d' (.ok summary))
    (parts : d.Parts d') (ours : s.Holds base.id (some (d.written base)) (log ++ d.steps))
    (theirs : s'.Holds base.id (some (d'.written base)) (log ++ d'.steps)) :
    FaultsHandled base log (r.map tell) d s summary s' := by
  have none {kinds : StoreMethod → Bool} (other : kinds .finishExecution = false) : d.faults kinds = [] := by
    rw [split, Dialogue.faults_append, Dialogue.faults_eq_nil served, attempts.faults_other other]
    rfl
  have endsAll : d.faults StoreMethod.ends = tail.faults StoreMethod.ends := by
    rw [split, Dialogue.faults_append, Dialogue.faults_eq_nil served, List.nil_append]
  have only : ∀ l ∈ d, l.fault? ≠ Option.none → l.request.method? = some .finishExecution := by
    intro l member fault
    rw [split] at member
    rcases List.mem_append.mp member with first | last
    · exact absurd (served l first) fault
    · exact attempts.fault_ends l last fault
  obtain ⟨steps, same⟩ := fate.same_story fate' parts only
  have log_eq : s.stepsOf base.id = s'.stepsOf base.id := by rw [ours.log, theirs.log, steps]
  have finish_eq : d.finish? = tail.finish? := by rw [split, Dialogue.finish?_append, unended, Option.none_or]
  constructor
  · intro g member
    rw [none rfl] at member
    cases member
  · intro g member
    rw [none rfl] at member
    cases member
  · intro _ _ few
    rcases attempts.faults_ends known with ⟨now, -, rfl, -⟩ | ⟨-, -, all⟩
    · obtain ⟨begun, f, start, finish, told⟩ := fate.told
      obtain ⟨begun', f', start', finish', told'⟩ := fate'.told
      obtain ⟨status, error⟩ := same f f' finish finish'
      refine ⟨_, _, _, rfl, ?_, ours.row, theirs.row, ?_, log_eq⟩
      · rw [told, told', status, steps]
      · exact Dialogue.written_timeless start finish start' finish' status error
    · rw [endsAll, all] at few
      exact absurd few (by decide)
  · intro _ _ all
    rcases attempts.faults_ends known with ⟨-, -, -, few⟩ | ⟨unfinished, ⟨f, rfl⟩, -⟩
    · rw [← endsAll, all] at few
      exact absurd few (by decide)
    · refine ⟨f, _, rfl, ours.row, ?_, log_eq⟩
      simp only [Dialogue.written, started, finish_eq, unfinished]
      rfl

end FaultsHandled

/-- An execution that a caller has not started is as it was. -/
theorem Books.untouched {first s : MemoryStore} {base : ExecutionRow} {d : Dialogue}
    (h : Books env first s fun _ : Unit => d) (there : first.executions.find? base.id = some base) (quiet : d.Quiet) :
    s.Holds base.id (some base) (first.stepsOf base.id) := by
  cases h.accounts base.id with
  | idle free holds => rwa [there] at holds
  | held base_eq pending holder => simp [Dialogue.held?, quiet.start?] at holder

/-- An execution that a caller has started is found when it is ended. -/
theorem Books.found_at_end {first s : MemoryStore} {d tail : Dialogue} {id : Uuid} {clock : RunClock}
    {stepFailed : Bool} {error : Option String} {pauses : List Nat} {r : Except EngineError FinishedRun}
    (h : Books env first s fun _ : Unit => d) (refuses : env.Refuses)
    (attempts : Attempts id clock stepFailed error pauses tail r) (part : ∀ l ∈ tail, l ∈ d) :
    ∀ call, (⟨.store call, .error .notFound⟩ : Line) ∉ tail := by
  intro call member
  have ends : call.method = .finishExecution := by
    rcases attempts.requests _ member with eq | ⟨ns, eq⟩ | ⟨now, eq⟩ <;> cases eq
    rfl
  exact refuses.not_notFound (h.refused () call _ (part _ member) (.inr ends))

/-- What a run comes to is settled by its fate. -/
theorem Fate.handled {env' : Environment} {first first' s s' : MemoryStore} {x : Executor} {base : ExecutionRow}
    {d d' : Dialogue} {r : Except EngineError Summary} {summary : Summary} (h : Fate env first x base d r)
    (refuses : env.Refuses) (books : Books env first s fun _ : Unit => d)
    (said : ∀ l ∈ d, Steady env first l.request l.answer) (there : first.executions.find? base.id = some base)
    (pending : base.status = ExecutionStatus.pending.name) (k : Fate env' first' x base d' (.ok summary))
    (theirs : s'.Holds base.id (some (d'.written base)) (first.stepsOf base.id ++ d'.steps)) (parts : d.Parts d') :
    FaultsHandled base (first.stepsOf base.id) r d s summary s' := by
  have fate := h
  cases h with
  | @unread f refused =>
      have fault : f ≠ .notFound := fun same => refuses.not_notFound (same ▸ refused)
      exact .of_unopened (books.untouched there ⟨rfl, rfl, rfl⟩) (Dialogue.faults_fault rfl fault) rfl
  | @unmarked startedAt f refused =>
      have fault : f ≠ .notFound := fun same => refuses.not_notFound (same ▸ refused)
      exact .of_unopened (books.untouched there ⟨rfl, rfl, rfl⟩) (Dialogue.faults_fault rfl fault) rfl
  | denied quiet preliminary member denies =>
      obtain ⟨j, held⟩ := books.denied base.id base there pending () _ member denies
      simp [Dialogue.held?, quiet.start?] at held
  | @begun e clock rest r read ends =>
      have id_eq := ExecutionRow.toExecution_id read
      have ours := books.holds_of_held there (i := ()) rfl
      have served {body : Dialogue} (smooth : body.Smooth) :
          ∀ l ∈ opening base.id base clock ++ body, l.fault? = none := by
        intro l member
        rcases List.mem_append.mp member with first | later
        · exact opening_served _ _ _ l first
        · exact (smooth l later).1
      have unended {body : Dialogue} (smooth : body.Smooth) :
          Dialogue.finish? (opening base.id base clock ++ body) = none := by
        rw [Dialogue.finish?_append, smooth.finish?]
        rfl
      cases ends with
      | @concluded body tail visits outcome r concluded smooth logged attempts =>
          rw [id_eq] at attempts
          have known : ∀ call, (⟨.store call, .error .notFound⟩ : Line) ∉ tail :=
            books.found_at_end refuses attempts (by simp +contextual)
          exact .of_concluded (List.append_assoc ..).symm (served smooth) (unended smooth) attempts known rfl fate k
            parts ours theirs
      | @aborted body tail call f r smooth sound walks fault attempts =>
          rw [id_eq] at attempts
          have known : ∀ call, (⟨.store call, .error .notFound⟩ : Line) ∉ tail :=
            books.found_at_end refuses attempts (by simp +contextual)
          have line := said ⟨.store call, .error f⟩ (by simp)
          have refused : env.MayRefuse call.method f := Steady.mayRefuse_of_walks walks fault line fun inserts => by
            rw [← inserts]
            exact books.refused () call f (by simp) (.inl inserts)
          have fault : f ≠ .notFound := fun same => refuses.not_notFound (same ▸ refused)
          exact .of_aborted (by simp) (served smooth) (unended smooth) walks fault attempts known rfl parts ours
            theirs.log

/-- Whatever calls to the store fail in the run of a pending execution, the run tells the right error, and leaves
the right record and the right steps, next to what it tells and leaves when no call fails.  An execution that could
not be started can still be run. -/
theorem faults_handled (x : Executor) (refuses : env.Refuses) {w : World MemoryStore} {base : ExecutionRow}
    (there : w.store.executions.find? base.id = some base) (pending : base.status = ExecutionStatus.pending.name)
    {text : String} (named : Executor.readId text = .ok base.id) :
    let run := (x.runNamed text).run
    let said := run.dialogue env w
    ∃ result summary, (run.run env w).1 = some result ∧ (run.run env.withoutFaults w).1 = some (.ok summary) ∧
      FaultsHandled base (w.store.stepsOf base.id) result said (run.run env w).2.store summary
        (run.run env.withoutFaults w).2.store ∧
      (said.faults StoreMethod.opens ≠ [] →
        ∃ again, (run.run env.withoutFaults (run.run env w).2).1 = some (.ok again)) := by
  intro run said
  have faultless := env.withoutFaults_faultless
  obtain ⟨result, ended, books, told, fate⟩ := x.run_fate refuses there pending named
  obtain ⟨clean, endedClean, booksClean, -, fateClean⟩ := x.run_fate faultless.refuses there pending named
  obtain ⟨r, endedWell, accomplished⟩ := x.run_accomplished faultless there pending named
  obtain ⟨summary, rfl⟩ := accomplished.eq_ok
  cases endedClean.symm.trans endedWell
  have handled : FaultsHandled base (w.store.stepsOf base.id) result said (run.run env w).2.store summary
      (run.run env.withoutFaults w).2.store := by
    have parts : said.Parts (run.dialogue env.withoutFaults w) := run.process.dialogue_parts refuses w
    obtain ⟨startedAt, f, start, finish, -⟩ := fateClean.told
    have theirs := booksClean.holds_of_held there (i := ()) (by rw [Dialogue.held?, start]; rfl)
    exact fate.handled refuses books told there pending fateClean theirs parts
  refine ⟨result, summary, ended, endedWell, handled, fun some => ?_⟩
  obtain ⟨f, member⟩ := List.exists_mem_of_ne_nil _ some
  have holds := (handled.unopened f member).2
  obtain ⟨r, again, accomplished⟩ := x.run_accomplished faultless holds.row pending named
  obtain ⟨summary, rfl⟩ := accomplished.eq_ok
  exact ⟨summary, again⟩

/-- An environment in which no workflow can be read. -/
def Environment.interrupted : Environment :=
  { Environment.calm with
    faults := fun m _ => if m = .getWorkflow then some (.refuse (.database .waitedTooLong)) else none }

theorem Environment.interrupted_refuses : Environment.interrupted.Refuses := by
  intro m n effect fault
  simp only [interrupted] at fault
  split at fault
  · cases fault
    exact ⟨_, rfl, nofun⟩
  · cases fault

theorem faults_handled_interrupted :
    let ran := (Executor.runNamed ⟨.builtins 1000 1000, 5, 0⟩ messageExecution.id.render).run.run .interrupted
      (.start messageStore)
    ran.1 = some (.error (.store (.database .waitedTooLong))) ∧
      ∃ row, ran.2.store.executions.find? messageExecution.id = some row ∧
        row.status = ExecutionStatus.failed.name ∧ row.error = some abortedError := by
  let said := (Executor.runNamed ⟨.builtins 1000 1000, 5, 0⟩ messageExecution.id.render).run.dialogue .interrupted
    (.start messageStore)
  have walks : said.faults StoreMethod.walks = [.database .waitedTooLong] := by decide +kernel
  have ends : said.faults StoreMethod.ends = [] := by decide +kernel
  obtain ⟨result, summary, ended, -, handled, -⟩ := faults_handled ⟨.builtins 1000 1000, 5, 0⟩
    Environment.interrupted_refuses (w := .start messageStore) messageStore_holds rfl readId_message
  obtain ⟨told, -, -, three | row⟩ := handled.aborted (.database .waitedTooLong) (by
    change _ ∈ said.faults StoreMethod.walks
    rw [walks]
    exact List.mem_singleton_self _)
  · change (said.faults StoreMethod.ends).length = 3 at three
    rw [ends] at three
    cases three
  · exact ⟨ended.trans (congrArg some told), row⟩

end WorkflowEngine
