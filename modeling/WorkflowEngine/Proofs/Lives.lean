/-
Module: WorkflowEngine.Proofs.Lives
Layer: Proofs
Purpose: The life of one execution in a store, whoever calls.  An execution is added, started, ended, and its log
  grows, and nothing else happens to it (`Moves`).  What was told of a life from some point on then accounts for all
  that is held at its end, and every write but the recording of steps happens once at most (`Lives.rowAccount`).
Imports: WorkflowEngine.Proofs.Serving, WorkflowEngine.Store.Relational.Tables
Trusted boundary: none
Main exports: Holding, Moves, Lives, ExecutionRow.Became, RowAccount, LogAccount,
  Lives.rowAccount, Lives.logAccount, Lives.started_before
-/
import WorkflowEngine.Proofs.Serving
import WorkflowEngine.Store.Relational.Tables

namespace WorkflowEngine

/-! ## What is told of an execution -/

namespace Line

variable (id : Uuid)

/-- The execution that the line added, if it has the id. -/
def created? : Line → Option ExecutionRow
  | ⟨.store (.createExecution ..), .ok row⟩ => if row.id = id then some row else none
  | _ => none

/-- When the line started the execution with the id. -/
def started? : Line → Option Instant
  | ⟨.store (.markRunning key startedAt), .ok true⟩ => if key = id then some startedAt else none
  | _ => none

/-- What the line wrote at the end of the execution with the id. -/
def finished? : Line → Option Finish
  | ⟨.store (.finishExecution key f), .ok _⟩ => if key = id then some f else none
  | _ => none

/-- The step that the line added to the log of the execution with the id. -/
def recorded? : Line → Option StepRow
  | ⟨.store (.insertStep step), .ok _⟩ => if step.executionId = id then some step else none
  | _ => none

/-- What the line told of the log of the execution with the id. -/
def listed? : Line → Option (List StepRow)
  | ⟨.store (.listSteps key), .ok rows⟩ => if key = id then some rows else none
  | _ => none

/-- The line neither writes to the execution with the id nor tells of its log. -/
structure Foreign (l : Line) : Prop where
  created : l.created? id = none
  started : l.started? id = none
  finished : l.finished? id = none
  recorded : l.recorded? id = none
  listed : l.listed? id = none

/-- A call that fails is foreign to every execution. -/
theorem foreign_error (call : StoreCall) (f : StoreFault) : Foreign id ⟨.store call, .error f⟩ := by
  cases call <;> exact ⟨rfl, rfl, rfl, rfl, rfl⟩

end Line

/-- What writes to no execution, adds none and lists no log is foreign to every execution. -/
theorem Dialogue.Quiet.foreign {call : StoreCall} {reply : StoreReply call}
    (quiet : Dialogue.Quiet [⟨.store call, reply⟩]) (old : call.method ≠ .createExecution)
    (unlisted : ∀ key, call ≠ .listSteps key) (id : Uuid) : Line.Foreign id ⟨.store call, reply⟩ := by
  cases reply with
  | error f => exact Line.foreign_error id call f
  | ok told =>
      cases call with
      | createExecution => exact absurd rfl old
      | listSteps key => exact absurd rfl (unlisted key)
      | markRunning key startedAt =>
          cases told with
          | true => cases quiet.start?
          | false => exact ⟨rfl, rfl, rfl, rfl, rfl⟩
      | finishExecution key f => cases quiet.finish?
      | insertStep step => cases quiet.steps
      | getExecution | getWorkflow | listNodes | listEdges => exact ⟨rfl, rfl, rfl, rfl, rfl⟩

namespace Dialogue

variable (id : Uuid)

/-- The additions of an execution that a dialogue tells of. -/
def creations (d : Dialogue) : List ExecutionRow := d.filterMap (Line.created? id)

/-- The starts of an execution that a dialogue tells of. -/
def starts (d : Dialogue) : List Instant := d.filterMap (Line.started? id)

/-- The ends of an execution that a dialogue tells of. -/
def finishes (d : Dialogue) : List Finish := d.filterMap (Line.finished? id)

/-- The steps of an execution that a dialogue added. -/
def records (d : Dialogue) : List StepRow := d.filterMap (Line.recorded? id)

/-- The logs of an execution that a dialogue told. -/
def listings (d : Dialogue) : List (List StepRow) := d.filterMap (Line.listed? id)

end Dialogue

/-! ## Moves -/

/-- What a store holds of an execution. -/
@[ext]
structure Holding where
  row : Option ExecutionRow
  log : List StepRow

/-- The states in which a run ends. -/
def Finish.Ends (f : Finish) : Prop :=
  f.status = ExecutionStatus.completed.name ∨ f.status = ExecutionStatus.failed.name

/-- What a call can do to what is held of an execution, where it is read as columns return it, and what is told of it
then. -/
inductive Moves (c : Columns) (id : Uuid) : Holding → Line → Holding → Prop where
  | foreign {h : Holding} {l : Line} (foreign : l.Foreign id) : Moves c id h l h
  | created {log : List StepRow} (workflowId : Uuid) (payload : Json) (now : Instant) :
      Moves c id ⟨none, log⟩
        ⟨.store (.createExecution workflowId payload), .ok (c.execution (.new id workflowId payload now))⟩
        ⟨some (c.execution (.new id workflowId payload now)), log⟩
  | started {row : ExecutionRow} {log : List StepRow} (pending : row.status = ExecutionStatus.pending.name)
      (startedAt : Instant) :
      Moves c id ⟨some row, log⟩ ⟨.store (.markRunning id startedAt), .ok true⟩ ⟨some (row.started startedAt), log⟩
  | finished {row : ExecutionRow} {log : List StepRow} {f : Finish}
      (running : row.status = ExecutionStatus.running.name) (ends : f.Ends) :
      Moves c id ⟨some row, log⟩ ⟨.store (.finishExecution id f), .ok ()⟩ ⟨some (row.finished f), log⟩
  | recorded {row : ExecutionRow} {log : List StepRow} {step : StepRow} (own : step.executionId = id) :
      Moves c id ⟨some row, log⟩ ⟨.store (.insertStep step), .ok ()⟩ ⟨some row, log ++ [c.step step]⟩
  | listed {h : Holding} : Moves c id h ⟨.store (.listSteps id), .ok h.log⟩ h

/-- What is told while one move follows another. -/
inductive Lives (c : Columns) (id : Uuid) (h : Holding) : Dialogue → Holding → Prop where
  | nil : Lives c id h [] h
  | snoc {d : Dialogue} {h' h'' : Holding} {l : Line} (before : Lives c id h d h') (next : Moves c id h' l h'') :
      Lives c id h (d ++ [l]) h''

namespace Lives

variable {c : Columns} {id : Uuid} {h h' h'' : Holding} {d : Dialogue} {l : Line}

theorem cons (next : Moves c id h l h') (rest : Lives c id h' d h'') : Lives c id h (l :: d) h'' := by
  induction rest with
  | nil => exact .snoc .nil next
  | snoc before next' ih => exact .snoc ih next'

/-- Whatever begins a life is a life. -/
theorem before {first : Dialogue} (lives : Lives c id h (first ++ d) h'') : ∃ h', Lives c id h first h' := by
  generalize told : first ++ d = whole at lives
  induction lives generalizing d with
  | nil =>
      obtain ⟨rfl, rfl⟩ := List.append_eq_nil_iff.mp told
      exact ⟨h, .nil⟩
  | @snoc whole h' h'' l lives next ih =>
      rcases List.eq_nil_or_concat d with rfl | ⟨front, last, rfl⟩
      · rw [List.append_nil] at told
        exact ⟨h'', told ▸ .snoc lives next⟩
      · rw [List.concat_eq_append, ← List.append_assoc] at told
        exact ih (List.append_inj_left' told rfl)

end Lives

/-! ## Accounts of lives -/

/-- A row after it was started, if it was, and after what was written at its end, if there is such.  Everything else
is as it was. -/
structure ExecutionRow.Became (row : ExecutionRow) (start? : Option Instant) (finish? : Option Finish)
    (after : ExecutionRow) : Prop where
  id : after.id = row.id
  workflowId : after.workflowId = row.workflowId
  payload : after.payload = row.payload
  createdAt : after.createdAt = row.createdAt
  startedAt : after.startedAt = start?.or row.startedAt
  error : after.error = finish?.elim row.error Finish.error
  completedAt : after.completedAt = finish?.elim row.completedAt fun f => some f.completedAt
  durationMs : after.durationMs = finish?.elim row.durationMs fun f => some f.durationMs
  status : after.status = finish?.elim (start?.elim row.status fun _ => ExecutionStatus.running.name) Finish.status

namespace ExecutionRow.Became

variable {row after : ExecutionRow} {start? : Option Instant} {finish? : Option Finish}

theorem refl (row : ExecutionRow) : row.Became none none row := by
  constructor <;> rfl

/-- A row that is still pending was neither started nor ended. -/
theorem of_pending (h : row.Became start? finish? after) (ends : ∀ f ∈ finish?, f.Ends)
    (pending : after.status = ExecutionStatus.pending.name) : start? = none ∧ finish? = none := by
  have status := h.status
  rw [pending] at status
  cases finish? with
  | some f =>
      rcases ends f rfl with ended | ended
      · simp [ended, ExecutionStatus.name] at status
      · simp [ended, ExecutionStatus.name] at status
  | none =>
      cases start? with
      | some t => simp [ExecutionStatus.name] at status
      | none => exact ⟨rfl, rfl⟩

/-- A row that is running was not ended. -/
theorem of_running (h : row.Became start? finish? after) (ends : ∀ f ∈ finish?, f.Ends)
    (running : after.status = ExecutionStatus.running.name) :
    finish? = none ∧ (row.status = ExecutionStatus.pending.name → start? ≠ none) := by
  have status := h.status
  rw [running] at status
  cases finish? with
  | some f =>
      rcases ends f rfl with ended | ended
      · simp [ended, ExecutionStatus.name] at status
      · simp [ended, ExecutionStatus.name] at status
  | none =>
      refine ⟨rfl, ?_⟩
      rintro pending rfl
      simp [pending, ExecutionStatus.name] at status

theorem start (h : row.Became none none after) (startedAt : Instant) :
    row.Became (some startedAt) none (after.started startedAt) where
  id := h.id
  workflowId := h.workflowId
  payload := h.payload
  createdAt := h.createdAt
  startedAt := rfl
  error := h.error
  completedAt := h.completedAt
  durationMs := h.durationMs
  status := rfl

theorem finish (h : row.Became start? none after) (f : Finish) : row.Became start? (some f) (after.finished f) where
  id := h.id
  workflowId := h.workflowId
  payload := h.payload
  createdAt := h.createdAt
  startedAt := h.startedAt
  error := rfl
  completedAt := rfl
  durationMs := rfl
  status := rfl

end ExecutionRow.Became

section Accounts

variable {id : Uuid} {d : Dialogue} {l : Line}

namespace Dialogue

variable {α : Type} {tells : Line → Option α}

theorem filterMap_snoc : (d ++ [l]).filterMap tells = d.filterMap tells ++ (tells l).toList := by
  rw [List.filterMap_append]
  cases told : tells l <;> simp [told]

theorem starts_snoc : starts id (d ++ [l]) = d.starts id ++ (l.started? id).toList := filterMap_snoc

theorem finishes_snoc : finishes id (d ++ [l]) = d.finishes id ++ (l.finished? id).toList := filterMap_snoc

/-- A line that tells nothing of something leaves what was told of it. -/
theorem filterMap_snoc_none (told : tells l = none) : (d ++ [l]).filterMap tells = d.filterMap tells := by
  rw [filterMap_snoc, told, Option.toList_none, List.append_nil]

/-- What a line tells first is all that was told. -/
theorem filterMap_snoc_first {a : α} (none : d.filterMap tells = []) (told : tells l = some a) :
    (d ++ [l]).filterMap tells = [a] := by
  rw [filterMap_snoc, told, none, Option.toList_some, List.nil_append]

end Dialogue

/-- What was told of an execution accounts for its row: it is the one that was there or was added, after the one start
and the one end that were told. -/
structure RowAccount (id : Uuid) (first : Option ExecutionRow) (d : Dialogue) (last : Option ExecutionRow) : Prop where
  absent : last = none → first = none ∧ d.creations id = [] ∧ d.starts id = [] ∧ d.finishes id = []
  present : ∀ after, last = some after → ∃ row, first.or (d.creations id).head? = some row ∧
    row.Became (d.starts id).head? (d.finishes id).head? after
  created : (d.creations id).length ≤ 1
  pending : ∀ row ∈ d.creations id, row.status = ExecutionStatus.pending.name
  started : (d.starts id).length ≤ 1
  finished : (d.finishes id).length ≤ 1
  ends : ∀ f ∈ d.finishes id, f.Ends

namespace RowAccount

variable {first : Option ExecutionRow} {row : ExecutionRow}

theorem refl (first : Option ExecutionRow) : RowAccount id first [] first where
  absent none := ⟨none, rfl, rfl, rfl⟩
  present after found := ⟨after, by rw [found]; rfl, .refl after⟩
  created := Nat.zero_le _
  pending := by simp [Dialogue.creations]
  started := Nat.zero_le _
  finished := Nat.zero_le _
  ends := by simp [Dialogue.finishes]

/-- What writes nothing to the row leaves its account as it is. -/
theorem quiet {last : Option ExecutionRow} (h : RowAccount id first d last) (created : l.created? id = none)
    (started : l.started? id = none) (finished : l.finished? id = none) : RowAccount id first (d ++ [l]) last := by
  have creations : Dialogue.creations id (d ++ [l]) = d.creations id :=
    Dialogue.filterMap_snoc_none created
  have starts : Dialogue.starts id (d ++ [l]) = d.starts id :=
    Dialogue.filterMap_snoc_none started
  have finishes : Dialogue.finishes id (d ++ [l]) = d.finishes id :=
    Dialogue.filterMap_snoc_none finished
  constructor
  · rw [creations, starts, finishes]
    exact h.absent
  · rw [creations, starts, finishes]
    exact h.present
  · rw [creations]
    exact h.created
  · rw [creations]
    exact h.pending
  · rw [starts]
    exact h.started
  · rw [finishes]
    exact h.finished
  · rw [finishes]
    exact h.ends

theorem ends_head (h : RowAccount id first d (some row)) : ∀ f ∈ (d.finishes id).head?, f.Ends :=
  fun f told => h.ends f (List.mem_of_head? told)

/-- What the creations, the starts and the ends that were told make of a row is accounted for. -/
private theorem of_told {creations : List ExecutionRow} {starts : List Instant} {finishes : List Finish}
    {after : ExecutionRow} (created : d.creations id = creations) (started : d.starts id = starts)
    (finished : d.finishes id = finishes) (base : first.or creations.head? = some row)
    (became : row.Became starts.head? finishes.head? after) (once : creations.length ≤ 1)
    (pending : ∀ row ∈ creations, row.status = ExecutionStatus.pending.name) (startedOnce : starts.length ≤ 1)
    (finishedOnce : finishes.length ≤ 1) (ends : ∀ f ∈ finishes, f.Ends) : RowAccount id first d (some after) := by
  subst created started finished
  refine ⟨nofun, ?_, once, pending, startedOnce, finishedOnce, ends⟩
  rintro _ ⟨⟩
  exact ⟨row, base, became⟩

theorem create (h : RowAccount id first d none) (told : l.created? id = some row) (started : l.started? id = none)
    (finished : l.finished? id = none) (pending : row.status = ExecutionStatus.pending.name) :
    RowAccount id first (d ++ [l]) (some row) := by
  obtain ⟨rfl, noCreations, noStarts, noFinishes⟩ := h.absent rfl
  have creations : Dialogue.creations id (d ++ [l]) = [row] := Dialogue.filterMap_snoc_first noCreations told
  have starts : Dialogue.starts id (d ++ [l]) = [] :=
    (Dialogue.filterMap_snoc_none started).trans noStarts
  have finishes : Dialogue.finishes id (d ++ [l]) = [] :=
    (Dialogue.filterMap_snoc_none finished).trans noFinishes
  refine of_told creations starts finishes rfl (.refl row) (Nat.le_refl 1) ?_ (Nat.zero_le 1) (Nat.zero_le 1) nofun
  simpa using pending

theorem start (h : RowAccount id first d (some row)) {startedAt : Instant} (created : l.created? id = none)
    (told : l.started? id = some startedAt) (finished : l.finished? id = none)
    (pending : row.status = ExecutionStatus.pending.name) :
    RowAccount id first (d ++ [l]) (some (row.started startedAt)) := by
  obtain ⟨base, found, became⟩ := h.present row rfl
  obtain ⟨noStart, noFinish⟩ := became.of_pending h.ends_head pending
  rw [noStart, noFinish] at became
  have creations : Dialogue.creations id (d ++ [l]) = d.creations id :=
    Dialogue.filterMap_snoc_none created
  have starts : Dialogue.starts id (d ++ [l]) = [startedAt] :=
    Dialogue.filterMap_snoc_first (List.head?_eq_none_iff.mp noStart) told
  have finishes : Dialogue.finishes id (d ++ [l]) = [] :=
    (Dialogue.filterMap_snoc_none finished).trans (List.head?_eq_none_iff.mp noFinish)
  exact of_told creations starts finishes found (became.start startedAt) h.created h.pending (Nat.le_refl 1)
    (Nat.zero_le 1) nofun

theorem finish (h : RowAccount id first d (some row)) {f : Finish} (created : l.created? id = none)
    (started : l.started? id = none) (told : l.finished? id = some f)
    (running : row.status = ExecutionStatus.running.name) (ends : f.Ends) :
    RowAccount id first (d ++ [l]) (some (row.finished f)) := by
  obtain ⟨base, found, became⟩ := h.present row rfl
  obtain ⟨noFinish, -⟩ := became.of_running h.ends_head running
  rw [noFinish] at became
  have creations : Dialogue.creations id (d ++ [l]) = d.creations id :=
    Dialogue.filterMap_snoc_none created
  have starts : Dialogue.starts id (d ++ [l]) = d.starts id :=
    Dialogue.filterMap_snoc_none started
  have finishes : Dialogue.finishes id (d ++ [l]) = [f] :=
    Dialogue.filterMap_snoc_first (List.head?_eq_none_iff.mp noFinish) told
  refine of_told creations starts finishes found (became.finish f) h.created h.pending h.started (Nat.le_refl 1) ?_
  simpa using ends

end RowAccount

/-- What was told of an execution accounts for its log: steps were added to the one that was there, as columns return
them, and whenever the log was told, it was what the log was then. -/
structure LogAccount (c : Columns) (id : Uuid) (first : List StepRow) (d : Dialogue) (last : List StepRow) : Prop where
  log : last = first ++ (d.records id).map c.step
  listed : ∀ rows ∈ d.listings id, rows <+: last
  grows : (d.listings id).Pairwise (· <+: ·)

namespace LogAccount

variable {c : Columns} {first last : List StepRow}

theorem refl (first : List StepRow) : LogAccount c id first [] first where
  log := (List.append_nil first).symm
  listed := by simp [Dialogue.listings]
  grows := List.Pairwise.nil

theorem quiet (h : LogAccount c id first d last) (recorded : l.recorded? id = none) (listed : l.listed? id = none) :
    LogAccount c id first (d ++ [l]) last := by
  have records : Dialogue.records id (d ++ [l]) = d.records id :=
    Dialogue.filterMap_snoc_none recorded
  have listings : Dialogue.listings id (d ++ [l]) = d.listings id :=
    Dialogue.filterMap_snoc_none listed
  constructor
  · rw [records]
    exact h.log
  · rw [listings]
    exact h.listed
  · rw [listings]
    exact h.grows

theorem record (h : LogAccount c id first d last) {step : StepRow} (told : l.recorded? id = some step)
    (listed : l.listed? id = none) : LogAccount c id first (d ++ [l]) (last ++ [c.step step]) := by
  have listings : Dialogue.listings id (d ++ [l]) = d.listings id :=
    Dialogue.filterMap_snoc_none listed
  constructor
  · rw [Dialogue.records, Dialogue.filterMap_snoc, told, h.log, List.append_assoc, List.map_append]
    rfl
  · rw [listings]
    exact fun rows member => (h.listed rows member).trans (List.prefix_append ..)
  · rw [listings]
    exact h.grows

theorem list (h : LogAccount c id first d last) (recorded : l.recorded? id = none) (told : l.listed? id = some last) :
    LogAccount c id first (d ++ [l]) last := by
  have listings : Dialogue.listings id (d ++ [l]) = d.listings id ++ [last] := by
    rw [Dialogue.listings, Dialogue.filterMap_snoc, told]
    rfl
  constructor
  · rw [Dialogue.records, Dialogue.filterMap_snoc_none recorded]
    exact h.log
  · rw [listings, List.forall_mem_append, List.forall_mem_singleton]
    exact ⟨h.listed, List.prefix_refl last⟩
  · rw [listings, List.pairwise_append]
    exact ⟨h.grows, List.pairwise_singleton .., by simpa using h.listed⟩

end LogAccount

namespace Lives

variable {c : Columns} {h h' : Holding}

/-- Whatever calls are made, what is told of an execution accounts for its row. -/
theorem rowAccount (lives : Lives c id h d h') : RowAccount id h.row d h'.row := by
  induction lives with
  | nil => exact .refl _
  | snoc before next ih =>
      cases next with
      | foreign foreign => exact ih.quiet foreign.created foreign.started foreign.finished
      | created workflowId payload now => exact ih.create (if_pos rfl) rfl rfl rfl
      | started pending startedAt => exact ih.start rfl (if_pos rfl) rfl pending
      | finished running ends => exact ih.finish rfl rfl (if_pos rfl) running ends
      | recorded own => exact ih.quiet rfl rfl rfl
      | listed => exact ih.quiet rfl rfl rfl

/-- Whatever calls are made, what is told of an execution accounts for its log. -/
theorem logAccount (lives : Lives c id h d h') : LogAccount c id h.log d h'.log := by
  induction lives with
  | nil => exact .refl _
  | snoc before next ih =>
      cases next with
      | foreign foreign => exact ih.quiet foreign.recorded foreign.listed
      | created workflowId payload now => exact ih.quiet rfl rfl
      | started pending startedAt => exact ih.quiet rfl rfl
      | finished running ends => exact ih.quiet rfl rfl
      | recorded own => exact ih.record (if_pos own) rfl
      | listed => exact ih.list rfl (if_pos rfl)

/-- An execution that was not started before is ended only after it was started. -/
theorem started_of_finished (lives : Lives c id h d h') (unstarted : ∀ row, h.row = some row →
    row.status = ExecutionStatus.pending.name) : d.finishes id ≠ [] → d.starts id ≠ [] := by
  induction lives with
  | nil => simp [Dialogue.finishes]
  | @snoc d h' h'' l before next ih =>
      rw [Dialogue.finishes_snoc, Dialogue.starts_snoc]
      cases next with
      | finished running ends =>
          obtain ⟨base, found, became⟩ := before.rowAccount.present _ rfl
          obtain ⟨-, started⟩ := became.of_running before.rowAccount.ends_head running
          have pending : base.status = ExecutionStatus.pending.name := by
            rcases Option.or_eq_some_iff.mp found with there | ⟨-, added⟩
            · exact unstarted base there
            · exact before.rowAccount.pending base (List.mem_of_head? added)
          intro _ none
          exact started pending (List.head?_eq_none_iff.mpr (List.append_eq_nil_iff.mp none).1)
      | foreign foreign => simpa [foreign.finished, foreign.started] using ih
      | started => simp [Line.started?]
      | created | recorded | listed => simpa [Line.finished?, Line.started?] using ih

/-- That holds of every end: the start came before it. -/
theorem started_before (lives : Lives c id h d h') (unstarted : ∀ row, h.row = some row →
    row.status = ExecutionStatus.pending.name) {before after : Dialogue} (told : d = before ++ l :: after)
    (finished : l.finished? id ≠ none) : before.starts id ≠ [] := by
  rw [told, List.append_cons] at lives
  obtain ⟨_, upTo⟩ := lives.before
  have started := upTo.started_of_finished unstarted
  rw [Dialogue.finishes_snoc, Dialogue.starts_snoc] at started
  have noStart : l.started? id = none := by
    unfold Line.started?
    split
    · exact absurd rfl finished
    · rfl
  rw [noStart, Option.toList_none, List.append_nil] at started
  obtain ⟨f, ended⟩ := Option.ne_none_iff_exists'.mp finished
  exact started (by simp [ended])

end Lives

end Accounts

end WorkflowEngine
