/-
Module: WorkflowEngine.Proofs.Abandonment
Layer: Proofs
Purpose: Runs for which nobody waits any more.  A run that was begun pauses or is over, and whatever comes in between,
  it goes on to the same end (`Underway`).  So a caller that stops waiting, whenever it does, leaves a run that ends as
  if it had been waited for (`abandoned_run_unaffected`); what callers go through themselves, they take with them
  (`Scheduler.awaitWithin_inline_dropped`).
Imports: WorkflowEngine.Proofs.ScannedRuns, WorkflowEngine.Proofs.Turns, WorkflowEngine.Scheduler
Trusted boundary: none
Main exports: Underway, Attended, Happening, Scheduler.await_alone, Scheduler.awaitWithin_inline_dropped, Unaffected,
  abandoned_run_unaffected
-/
import WorkflowEngine.Proofs.ScannedRuns
import WorkflowEngine.Proofs.Turns
import WorkflowEngine.Scheduler

namespace WorkflowEngine

namespace Scheduler

/-! ## A process that is alone -/

section Alone

variable {σ α β : Type} [Store σ] {env : Environment} {s : Scheduler σ α}

theorem wakeUntil_alone (asleep : s.sleeping = []) (limit : Instant) (fuel : Nat) : s.wakeUntil env limit fuel = s := by
  cases fuel with
  | zero => rfl
  | succ fuel => simp [wakeUntil, asleep]

theorem elapse_alone (asleep : s.sleeping = []) (limit : Instant) :
    s.elapse env limit = { s with world := { s.world with now := limit } } := by
  rw [elapse, wakeUntil_alone asleep]

/-- While nobody sleeps, a process that is driven runs as if it were alone. -/
theorem drive_alone (p : Process β) (asleep : s.sleeping = []) :
    drive env p s = ((p.run env s.world).1, { s with world := (p.run env s.world).2 }) := by
  induction p generalizing s with
  | done b => rfl
  | ask r next ih =>
      simp only [drive, Process.run]
      split
      · rename_i told
        simp only [told]
      · rename_i told
        simp only [told]
        exact ih _ asleep
      · rename_i told
        simp only [told]
        rw [elapse_alone (by exact asleep)]
        exact ih _ asleep

end Alone

/-! ## Turns -/

section Turns

variable {α : Type} {env : Environment} {s : Scheduler MemoryStore α} {i j : Nat} {p : Process α}

theorem turn_fresh : (s.turn env i p).fresh = s.fresh := by
  unfold turn
  split <;> rfl

theorem turn_now (faultless : env.Faultless) : (s.turn env i p).world.now = s.world.now := by
  unfold turn
  split
  · exact Process.advance_now faultless (by assumption)
  · exact Process.advance_now faultless (by assumption)

theorem turn_ended (other : i ≠ j) : (s.turn env i p).ended.lookup j = s.ended.lookup j := by
  unfold turn
  split
  · have differs : (j == i) = false := by simpa using Ne.symm other
    simp only [List.lookup_cons, differs]
  · rfl

/-- An idle process ends in its turn. -/
theorem turn_idle {a : α} (idle : p.Idle env s.world a) :
    ∃ v : World MemoryStore, v.uncounted = s.world.uncounted ∧
      s.turn env i p = { s with world := v, ended := (i, some a) :: s.ended } := by
  obtain ⟨v, reaches, same⟩ := idle
  refine ⟨v, same, ?_⟩
  simp only [turn, reaches.advance_eq, Process.advance]

/-- Gives every one of some processes a turn. -/
def turns (env : Environment) (l : List (Nat × Process α)) (s : Scheduler MemoryStore α) :
    Scheduler MemoryStore α :=
  l.foldl (fun s q => s.turn env q.1 q.2) s

theorem settle_eq : s.settle env = turns env s.fresh { s with fresh := [] } := rfl

theorem turns_cons {q : Nat × Process α} {l : List (Nat × Process α)} :
    turns env (q :: l) s = turns env l (s.turn env q.1 q.2) := rfl

theorem turns_fresh (l : List (Nat × Process α)) : (turns env l s).fresh = s.fresh := by
  induction l generalizing s with
  | nil => rfl
  | cons q rest ih => exact ih.trans turn_fresh

theorem turns_now (faultless : env.Faultless) (l : List (Nat × Process α)) :
    (turns env l s).world.now = s.world.now := by
  induction l generalizing s with
  | nil => rfl
  | cons q rest ih => exact ih.trans (turn_now faultless)

theorem turns_ended {l : List (Nat × Process α)} (others : ∀ q ∈ l, q.1 ≠ j) :
    (turns env l s).ended.lookup j = s.ended.lookup j := by
  induction l generalizing s with
  | nil => rfl
  | cons q rest ih =>
      rw [List.forall_mem_cons] at others
      exact (ih others.2).trans (turn_ended others.1)

end Turns

end Scheduler

/-! ## Runs that are underway -/

/-- How a run stands that was begun, and that will have come to the end of a world `o` if it is let: it pauses, or it is
over. -/
inductive Underway (env : Environment) (id : Uuid) (o : World MemoryStore) {α : Type} :
    World MemoryStore → List (Sleeper α) → Prop where
  | paused {w : World MemoryStore} {i : Nat} {wake : Instant} {rest : Process α} (later : w.now < wake)
      (begun : (w.store.holdingOf id).Begun id) (conducted : rest.WellConducted)
      (comes : (rest.run env { w with now := wake }).2.uncounted = o.uncounted) :
      Underway env id o w [⟨i, wake, rest⟩]
  | ended {w : World MemoryStore} (begun : (w.store.holdingOf id).Begun id) (store : w.store = o.store)
      (late : o.now ≤ w.now) : Underway env id o w []

section Underway

variable {α : Type} {env : Environment} {id : Uuid} {o w v : World MemoryStore} {l : List (Sleeper α)}
  {s : Scheduler MemoryStore α} {i : Nat} {p : Process α}

theorem Underway.begun (h : Underway env id o w l) : (w.store.holdingOf id).Begun id := by
  cases h with
  | paused _ begun | ended begun => exact begun

/-- Calls that leave nothing but their count do not matter. -/
theorem Underway.uncounted (faultless : env.Faultless) (h : Underway env id o w l) (same : v.uncounted = w.uncounted) :
    Underway env id o v l := by
  have now := World.now_of_uncounted same
  have store := World.store_of_uncounted same
  cases h with
  | @paused i wake rest later begun conducted comes =>
      refine .paused (now ▸ later) (store ▸ begun) conducted ?_
      have woken : ({ v with now := wake } : World MemoryStore).uncounted =
          ({ w with now := wake } : World MemoryStore).uncounted :=
        congrArg (fun u : World MemoryStore => { u with now := wake }) same
      exact (rest.run_uncounted faultless woken).2.trans comes
  | ended begun left late => exact .ended (store ▸ begun) (store.trans left) (now ▸ late)

/-- A run is over at the time at which it ends. -/
theorem Underway.over_at_end (faultless : env.Faultless) (h : Underway env id o w l) (late : o.now ≤ w.now) :
    w.store = o.store := by
  cases h with
  | ended _ store => exact store
  | @paused i wake rest later _ _ comes =>
      have ends := Process.run_now_le faultless rest { w with now := wake }
      rw [World.now_of_uncounted comes] at ends
      exact absurd (Nat.lt_of_lt_of_le later ends) (Nat.not_lt_of_le late)

namespace Scheduler

/-- The turn in which a run is begun, or goes on. -/
theorem turn_underway (faultless : env.Faultless) {q : Process α} (asleep : s.sleeping = [])
    (reaches : Process.Reaches env p s.world q v) (begun : (v.store.holdingOf id).Begun id)
    (conducted : q.WellConducted) (comes : (p.run env s.world).2.uncounted = o.uncounted) :
    Underway env id o (s.turn env i p).world (s.turn env i p).sleeping := by
  rw [reaches.run_eq] at comes
  simp only [turn, reaches.advance_eq]
  cases advanced : q.advance env v with
  | mk progress u =>
      obtain ⟨begun, onward⟩ := conducted.advance faultless begun advanced
      cases progress with
      | finished result =>
          rw [Process.run_of_finished advanced] at comes
          simp only [asleep]
          exact .ended begun (World.store_of_uncounted comes) (Nat.le_of_eq (World.now_of_uncounted comes).symm)
      | paused ms rest =>
          obtain ⟨positive, conducted⟩ := onward ms rest rfl
          rw [Process.run_of_paused advanced] at comes
          simp only [asleep]
          exact .paused (Nat.lt_add_of_pos_right positive) begun conducted comes

/-- Waking what sleeps until some time takes a run on, and no process gets its first turn by it. -/
theorem wakeUntil_underway (faultless : env.Faultless) {limit : Instant} (fuel : Nat)
    (underway : Underway env id o s.world s.sleeping) (early : s.world.now ≤ limit)
    (enough : limit - s.world.now ≤ fuel) :
    let after := s.wakeUntil env limit fuel
    Underway env id o after.world after.sleeping ∧ after.world.now ≤ limit ∧
      (∀ p ∈ after.sleeping, limit < p.wake) ∧ after.fresh = s.fresh := by
  induction fuel generalizing s with
  | zero =>
      refine ⟨underway, early, fun p member => ?_, rfl⟩
      have now : s.world.now = limit := Nat.le_antisymm early (Nat.sub_eq_zero_iff_le.mp (Nat.le_zero.mp enough))
      obtain ⟨world, fresh, sleeping, ended, spawned⟩ := s
      cases underway with
      | ended => cases member
      | paused later =>
          rw [List.mem_singleton.mp member, ← now]
          exact later
  | succ fuel ih =>
      obtain ⟨world, fresh, sleeping, ended, spawned⟩ := s
      cases underway with
      | ended begun store late => exact ⟨.ended begun store late, early, nofun, rfl⟩
      | @paused i wake rest later begun conducted comes =>
          simp only [wakeUntil, List.map_cons, List.map_nil, List.min?_singleton]
          split
          · rename_i beyond
            refine ⟨.paused later begun conducted comes, early, fun p member => ?_, rfl⟩
            rw [List.mem_singleton.mp member]
            exact beyond
          · rename_i within
            have due : [(⟨i, wake, rest⟩ : Sleeper α)].partition (fun p => p.wake ≤ wake) =
                ([⟨i, wake, rest⟩], []) := by
              simp [List.partition, List.partition.loop]
            simp only [due, List.foldl_cons, List.foldl_nil]
            let woken : Scheduler MemoryStore α := ⟨{ world with now := wake }, fresh, [], ended, spawned⟩
            have turned : Underway env id o (woken.turn env i rest).world (woken.turn env i rest).sleeping :=
              turn_underway faultless rfl (.refl ..) begun conducted comes
            have now : (woken.turn env i rest).world.now = wake := turn_now faultless
            have left : limit - (woken.turn env i rest).world.now ≤ fuel := by
              calc limit - (woken.turn env i rest).world.now = limit - wake := by rw [now]
                _ ≤ limit - (world.now + 1) := Nat.sub_le_sub_left later limit
                _ = limit - world.now - 1 := Nat.sub_add_eq ..
                _ ≤ fuel := Nat.sub_le_of_le_add enough
            obtain ⟨underway, early, beyond, same⟩ := ih turned (now ▸ Nat.le_of_not_lt within) left
            exact ⟨underway, early, beyond, same.trans turn_fresh⟩

/-- While time passes, a run goes on. -/
theorem elapse_underway (faultless : env.Faultless) {limit : Instant} (underway : Underway env id o s.world s.sleeping)
    (early : s.world.now ≤ limit) :
    let after := s.elapse env limit
    Underway env id o after.world after.sleeping ∧ after.world.now = limit ∧ after.fresh = s.fresh := by
  obtain ⟨woken, inTime, beyond, same⟩ :=
    wakeUntil_underway faultless (limit - s.world.now) underway early (Nat.le_refl _)
  refine ⟨?_, rfl, same⟩
  simp only [elapse]
  generalize s.wakeUntil env limit (limit - s.world.now) = after at woken inTime beyond
  obtain ⟨world, fresh, sleeping, ended, spawned⟩ := after
  cases woken with
  | ended begun store late => exact .ended begun store (Nat.le_trans late inTime)
  | paused later begun conducted comes => exact .paused (beyond _ (List.mem_singleton_self _)) begun conducted comes

/-- While it is waited for until a deadline, a run goes on. -/
theorem driveUntil_underway (faultless : env.Faultless) {deadline : Instant} (asleep : s.sleeping = [])
    (begun : (s.world.store.holdingOf id).Begun id) (conducted : p.WellConducted)
    (comes : (p.run env s.world).2.uncounted = o.uncounted) (early : s.world.now ≤ deadline) :
    let after := (driveUntil env deadline (some i) p s).2
    Underway env id o after.world after.sleeping ∧ after.fresh = s.fresh := by
  induction p generalizing s with
  | done a =>
      refine ⟨?_, rfl⟩
      simp only [driveUntil, asleep]
      exact .ended begun (World.store_of_uncounted comes) (Nat.le_of_eq (World.now_of_uncounted comes).symm)
  | ask r next ih =>
      have ⟨_, d, allowed, _⟩ := conducted
      simp only [driveUntil, leave]
      simp only [Process.run] at comes
      split
      · rename_i broke
        exact absurd broke (faultless.refuses.answer_ne_none r s.world _)
      · rename_i a v told
        have still := World.answer_begun faultless allowed told begun
        have now := (World.answer_takes faultless told).2
        rw [told] at comes
        exact ih a asleep still (conducted.next a) comes (now ▸ early)
      · rename_i a ms v told
        have still := World.answer_begun faultless allowed told begun
        have now := (World.answer_takes faultless told).2
        rw [told] at comes
        split
        · have paused : Underway env id o v (s.sleeping ++ [⟨i, v.now + (ms + 1), next a⟩]) := by
            rw [asleep]
            exact .paused (Nat.lt_add_of_pos_right (Nat.succ_pos ms)) still (conducted.next a) comes
          have inTime : v.now ≤ deadline := now ▸ early
          obtain ⟨underway, -, same⟩ := elapse_underway
            (s := { s with world := v, sleeping := s.sleeping ++ [⟨i, v.now + (ms + 1), next a⟩] })
            faultless paused inTime
          exact ⟨underway, same⟩
        · rename_i within
          rw [elapse_alone (by exact asleep)]
          exact ih a asleep still (conducted.next a) comes (Nat.le_of_not_lt within)

end Scheduler

end Underway

/-! ## Runs that were asked for -/

/-- A process that begins an execution in its first turn if the store is still that of a given world, and that is turned
away at once if the execution was begun before. -/
structure Process.Begins {α : Type} (env : Environment) (id : Uuid) (w : World MemoryStore)
    (p : Process α) : Prop where
  conducted : p.WellConducted
  opens : ∀ v : World MemoryStore, v.store = w.store →
    ∃ q u, p.Reaches env v q u ∧ (u.store.holdingOf id).Begun id
  late : ∀ v : World MemoryStore, (v.store.holdingOf id).Begun id → ∃ a, p.Idle env v a

/-- How things stand with a run that was asked for.  Either it has not had a turn, and all is as it was, or it is
underway.  The flag is set if it is known to be underway. -/
inductive Stands (env : Environment) (id : Uuid) (w : World MemoryStore) {α : Type} (p : Process α) :
    Bool → Scheduler MemoryStore α → Prop where
  | waiting {s : Scheduler MemoryStore α} (asked : s.fresh ≠ []) (asleep : s.sleeping = [])
      (same : s.world.uncounted = w.uncounted) : Stands env id w p false s
  | underway {known : Bool} {s : Scheduler MemoryStore α}
      (underway : Underway env id (p.run env w).2 s.world s.sleeping) : Stands env id w p known s

/-- Nothing but the run, maybe several times over, has yet to have a first turn. -/
structure Attended (env : Environment) (id : Uuid) (w : World MemoryStore) {α : Type} (p : Process α) (known : Bool)
    (s : Scheduler MemoryStore α) : Prop where
  numbered : ∀ q ∈ s.fresh, q.1 < s.spawned
  again : ∀ q ∈ s.fresh, q.2 = p
  stands : Stands env id w p known s

section Attended

variable {α : Type} {env : Environment} {id : Uuid} {w : World MemoryStore} {p : Process α} {known : Bool}
  {s : Scheduler MemoryStore α}

namespace Scheduler

/-- Where a run is underway, first turns of the same run leave it as it is. -/
theorem turns_underway (faultless : env.Faultless) (begins : p.Begins env id w) {o : World MemoryStore}
    {l : List (Nat × Process α)} (again : ∀ q ∈ l, q.2 = p) (underway : Underway env id o s.world s.sleeping) :
    Underway env id o (turns env l s).world (turns env l s).sleeping := by
  induction l generalizing s with
  | nil => exact underway
  | cons q rest ih =>
      rw [List.forall_mem_cons] at again
      obtain ⟨a, idle⟩ := begins.late s.world underway.begun
      rw [← again.1] at idle
      obtain ⟨v, same, turned⟩ := turn_idle (i := q.1) idle
      rw [turns_cons, turned]
      exact ih again.2 (underway.uncounted faultless same)

/-- By its first turn, a run gets underway. -/
theorem turns_stands (faultless : env.Faultless) (begins : p.Begins env id w) {l : List (Nat × Process α)}
    (again : ∀ q ∈ l, q.2 = p) (asked : l ≠ []) (asleep : s.sleeping = [])
    (same : s.world.uncounted = w.uncounted) :
    Underway env id (p.run env w).2 (turns env l s).world (turns env l s).sleeping := by
  obtain ⟨q, rest, rfl⟩ := List.exists_cons_of_ne_nil asked
  rw [List.forall_mem_cons] at again
  obtain ⟨onward, v, reaches, begun⟩ := begins.opens s.world (World.store_of_uncounted same)
  rw [turns_cons, again.1]
  exact turns_underway faultless begins again.2 <|
    turn_underway faultless asleep reaches begun (reaches.wellConducted begins.conducted)
      (p.run_uncounted faultless same).2

/-- When every process has had a turn, the run is underway. -/
theorem settle_underway (faultless : env.Faultless) (begins : p.Begins env id w) (h : Attended env id w p known s) :
    Underway env id (p.run env w).2 (s.settle env).world (s.settle env).sleeping := by
  rw [settle_eq]
  cases h.stands with
  | waiting asked asleep same => exact turns_stands faultless begins h.again asked asleep same
  | underway underway => exact turns_underway faultless begins h.again underway

theorem settle_fresh : (s.settle env).fresh = [] := by
  rw [settle_eq, turns_fresh]

theorem settle_now (faultless : env.Faultless) : (s.settle env).world.now = s.world.now := by
  rw [settle_eq, turns_now faultless]

end Scheduler

/-- A run that is asked for in a world without processes. -/
theorem Attended.asked (p : Process α) (w : World MemoryStore) :
    Attended env id w p false ((Scheduler.ofWorld w).spawnFirst p).2 where
  numbered := by simp [Scheduler.spawnFirst, Scheduler.ofWorld]
  again := by simp [Scheduler.spawnFirst, Scheduler.ofWorld]
  stands := .waiting (List.cons_ne_nil _ _) rfl rfl

theorem Attended.of_underway (fresh : s.fresh = [])
    (underway : Underway env id (p.run env w).2 s.world s.sleeping) : Attended env id w p known s where
  numbered := by simp [fresh]
  again := by simp [fresh]
  stands := .underway underway

theorem Attended.weaken (h : Attended env id w p true s) : Attended env id w p known s where
  numbered := h.numbered
  again := h.again
  stands := by
    cases h.stands with
    | underway underway => exact .underway underway

/-- Calls that leave nothing but their count do not matter. -/
theorem Attended.uncounted (faultless : env.Faultless) (h : Attended env id w p known s) {v : World MemoryStore}
    (same : v.uncounted = s.world.uncounted) : Attended env id w p known { s with world := v } where
  numbered := h.numbered
  again := h.again
  stands := by
    cases h.stands with
    | waiting asked asleep before => exact .waiting asked asleep (same.trans before)
    | underway underway => exact .underway (underway.uncounted faultless same)

/-- The run is started once more. -/
theorem Attended.spawnFirst (h : Attended env id w p known s) : Attended env id w p known (s.spawnFirst p).2 where
  numbered := by
    rw [Scheduler.spawnFirst, List.forall_mem_cons]
    exact ⟨Nat.lt_succ_self _, fun other member => Nat.lt_succ_of_lt (h.numbered other member)⟩
  again := by
    rw [Scheduler.spawnFirst, List.forall_mem_cons]
    exact ⟨rfl, h.again⟩
  stands := by
    cases h.stands with
    | waiting _ asleep same => exact .waiting (List.cons_ne_nil _ _) asleep same
    | underway underway => exact .underway underway

namespace Scheduler

/-- When the only process that sleeps is waited for, none is left. -/
theorem none_left {sleeper found : Sleeper α} {j : Nat} (looked : [sleeper].find? (·.id = j) = some found) :
    found = sleeper ∧ [sleeper].filter (fun q => q.id ≠ j) = [] := by
  obtain rfl := List.mem_singleton.mp (List.mem_of_find?_eq_some looked)
  have own : found.id = j := by simpa using List.find?_some looked
  exact ⟨rfl, by simp [own]⟩

/-- Waiting for any process to end leaves the run underway. -/
theorem join_attended (faultless : env.Faultless) (begins : p.Begins env id w) (h : Attended env id w p known s)
    (j : Nat) : Attended env id w p true (s.join env j).2 := by
  have underway := settle_underway faultless begins h
  have fresh : (s.settle env).fresh = [] := settle_fresh
  unfold join
  generalize s.settle env = settled at underway fresh
  obtain ⟨world, _, sleeping, ended, spawned⟩ := settled
  cases fresh
  simp only
  split
  · exact .of_underway rfl underway
  · split
    · exact .of_underway rfl underway
    · rename_i sleeper found
      cases underway with
      | ended => cases found
      | @paused i wake rest later begun conducted comes =>
          obtain ⟨rfl, left⟩ := none_left found
          simp only [left]
          rw [elapse_alone (by rfl), drive_alone _ (by rfl)]
          refine .of_underway rfl (.ended (conducted.run_begun faultless begun) ?_ ?_)
          · exact World.store_of_uncounted comes
          · exact Nat.le_of_eq (World.now_of_uncounted comes).symm

/-- Waiting for any process to end, or for some time to pass, takes a run on. -/
theorem joinWithin_attended (faultless : env.Faultless) (begins : p.Begins env id w) (h : Attended env id w p known s)
    {ms : Nat} (positive : 0 < ms) (j : Nat) : Attended env id w p true (s.joinWithin env ms j).2 := by
  have underway := settle_underway faultless begins h
  have fresh : (s.settle env).fresh = [] := settle_fresh
  have now : (s.settle env).world.now = s.world.now := settle_now faultless
  unfold joinWithin
  rw [if_neg (Nat.pos_iff_ne_zero.mp positive)]
  generalize s.settle env = settled at underway fresh now
  obtain ⟨world, _, sleeping, ended, spawned⟩ := settled
  cases fresh
  have early : world.now ≤ s.world.now + ms := Nat.le_trans (Nat.le_of_eq now) (Nat.le_add_right ..)
  simp only
  split
  · exact .of_underway rfl underway
  · split
    · exact .of_underway rfl underway
    · rename_i sleeper found
      split
      · obtain ⟨onward, -, same⟩ :=
          elapse_underway (s := ⟨world, [], sleeping, ended, spawned⟩) faultless underway early
        exact .of_underway same onward
      · rename_i within
        cases underway with
        | ended => cases found
        | @paused i wake rest later begun conducted comes =>
            obtain ⟨rfl, left⟩ := none_left found
            simp only [left]
            rw [elapse_alone (by rfl)]
            obtain ⟨onward, same⟩ := driveUntil_underway (i := j)
              (s := ⟨{ world with now := wake }, [], [], ended, spawned⟩) faultless rfl begun conducted comes
              (Nat.le_of_not_lt within)
            exact .of_underway same onward

/-- While time passes, a run goes on. -/
theorem sleep_attended (faultless : env.Faultless) (begins : p.Begins env id w) (h : Attended env id w p known s)
    {ms : Nat} (positive : 0 < ms) :
    Attended env id w p true (s.sleep env ms) ∧ (s.sleep env ms).world.now = s.world.now + ms := by
  have underway := settle_underway faultless begins h
  have fresh : (s.settle env).fresh = [] := settle_fresh
  have now : (s.settle env).world.now = s.world.now := settle_now faultless
  unfold sleep
  rw [if_neg (Nat.pos_iff_ne_zero.mp positive)]
  simp only
  have early : (s.settle env).world.now ≤ (s.settle env).world.now + ms := Nat.le_add_right ..
  obtain ⟨onward, passed, same⟩ := elapse_underway faultless underway early
  exact ⟨.of_underway (same.trans fresh) onward, passed.trans (congrArg (· + ms) now)⟩

end Scheduler

end Attended

/-! ## Callers -/

namespace Scheduler

section Answers

variable {α : Type} {env : Environment} {w : World MemoryStore} {p : Process α} {s : Scheduler MemoryStore α}

/-- The first turn of a process that has the world to itself: it ends, or it sleeps and then goes on. -/
theorem settle_alone (env : Environment) (p : Process α) (w : World MemoryStore) :
    ((ofWorld w).spawnFirst p).2.settle env = ⟨(p.run env w).2, [], [], [(0, (p.run env w).1)], 1⟩ ∨
      ∃ v ms rest, ((ofWorld w).spawnFirst p).2.settle env = ⟨v, [], [⟨0, v.now + ms, rest⟩], [], 1⟩ ∧
        p.run env w = rest.run env (v.later ms) := by
  simp only [spawnFirst, ofWorld, settle, List.foldl_cons, List.foldl_nil, turn]
  cases advanced : p.advance env w with
  | mk progress v =>
      cases progress with
      | finished result =>
          rw [Process.run_of_finished advanced]
          exact .inl rfl
      | paused ms rest => exact .inr ⟨v, ms, rest, rfl, Process.run_of_paused advanced⟩

theorem join_alone (env : Environment) (p : Process α) (w : World MemoryStore) :
    (join env 0 ((ofWorld w).spawnFirst p).2).1 = (p.run env w).1 ∧
      (join env 0 ((ofWorld w).spawnFirst p).2).2.world = (p.run env w).2 := by
  unfold join
  rcases settle_alone env p w with settled | ⟨v, ms, rest, settled, ran⟩
  · rw [settled]
    exact ⟨rfl, rfl⟩
  · rw [settled, ran]
    change (drive env rest (elapse env (v.now + ms) ⟨v, [], [], [], 1⟩)).1 = _ ∧
      (drive env rest (elapse env (v.now + ms) ⟨v, [], [], [], 1⟩)).2.world = _
    rw [elapse_alone rfl, drive_alone rest rfl]
    exact ⟨rfl, rfl⟩

theorem goThrough_alone (env : Environment) (p : Process α) (w : World MemoryStore) :
    ((ofWorld w : Scheduler MemoryStore α).goThrough env p).1 = (p.run env w).1 ∧
      ((ofWorld w : Scheduler MemoryStore α).goThrough env p).2.world = (p.run env w).2 := by
  simp only [goThrough, ofWorld]
  cases advanced : p.advance env w with
  | mk progress v =>
      cases progress with
      | finished result =>
          rw [Process.run_of_finished advanced]
          exact ⟨rfl, rfl⟩
      | paused ms rest =>
          rw [Process.run_of_paused advanced]
          change (drive env rest (elapse env (v.now + ms) (⟨v, [], [], [], 0⟩ : Scheduler MemoryStore α))).1 = _ ∧
            (drive env rest (elapse env (v.now + ms) (⟨v, [], [], [], 0⟩ : Scheduler MemoryStore α))).2.world = _
          rw [elapse_alone rfl, drive_alone rest rfl]
          exact ⟨rfl, rfl⟩

/-- A caller that has the world to itself waits as if it were alone. -/
theorem await_alone (env : Environment) (c : Awaited α) (w : World MemoryStore) :
    ((ofWorld w).await env c).1 = (c.run env w).1 ∧ ((ofWorld w).await env c).2.world = (c.run env w).2 := by
  cases c with
  | inline p =>
      rw [Awaited.run_inline]
      exact goThrough_alone env p w
  | spawned task interrupted =>
      obtain ⟨told, world⟩ := join_alone env task w
      refine ⟨?_, world⟩
      change some ((join env 0 ((ofWorld w).spawnFirst task).2).1.getD (interrupted env.breakdown)) =
        ((task.run env w).1 <|> some (interrupted env.breakdown))
      rw [told]
      cases (task.run env w).1 <;> rfl

/-- If a process ends while it is waited for, it tells what it does alone. -/
theorem driveUntil_alone {deadline : Instant} {task : Option Nat} (p : Process α) (asleep : s.sleeping = []) :
    (driveUntil env deadline task p s).1 = none ∨
      (driveUntil env deadline task p s).1 = some (p.run env s.world).1 := by
  induction p generalizing s with
  | done a => exact .inr rfl
  | ask r next ih =>
      simp only [driveUntil, Process.run]
      split
      · rename_i told
        right
        simp only [told]
      · rename_i told
        simp only [told]
        exact ih _ asleep
      · rename_i told
        simp only [told]
        split
        · exact .inl rfl
        · rw [elapse_alone (by exact asleep)]
          exact ih _ asleep

theorem joinWithin_alone (env : Environment) (ms : Nat) (p : Process α) (w : World MemoryStore) :
    (joinWithin env ms 0 ((ofWorld w).spawnFirst p).2).1 = none ∨
      (joinWithin env ms 0 ((ofWorld w).spawnFirst p).2).1 = some (p.run env w).1 := by
  unfold joinWithin
  split
  · exact .inl rfl
  · rcases settle_alone env p w with settled | ⟨v, pause, rest, settled, ran⟩
    · rw [settled]
      exact .inr rfl
    · rw [settled, ran]
      simp only [List.lookup_nil, decide_true, List.find?_cons_of_pos]
      split
      · exact .inl rfl
      · rw [elapse_alone (by rfl)]
        exact driveUntil_alone rest rfl

/-- A caller that stops waiting is told nothing, or what it would be told anyway. -/
theorem awaitWithin_spawned_alone (env : Environment) (ms : Nat) (task : Process α) (interrupted : String → α)
    (w : World MemoryStore) :
    ((ofWorld w).awaitWithin env ms (.spawned task interrupted)).1 = none ∨
      ((ofWorld w).awaitWithin env ms (.spawned task interrupted)).1 =
        some ((Awaited.spawned task interrupted).run env w).1 := by
  change (joinWithin env ms 0 ((ofWorld w).spawnFirst task).2).1.map _ = none ∨
    (joinWithin env ms 0 ((ofWorld w).spawnFirst task).2).1.map _ =
      some ((task.run env w).1 <|> some (interrupted env.breakdown))
  rcases joinWithin_alone env ms task w with told | told
  · rw [told]
    exact .inl rfl
  · rw [told]
    right
    cases (task.run env w).1 <;> rfl

/-- A process that is dropped at a deadline leaves nothing that could still get a turn. -/
theorem driveUntil_dropped {deadline : Instant} (p : Process α) (fresh : s.fresh = []) (asleep : s.sleeping = []) :
    (driveUntil env deadline none p s).2.fresh = [] ∧ (driveUntil env deadline none p s).2.sleeping = [] := by
  induction p generalizing s with
  | done a => exact ⟨fresh, asleep⟩
  | ask r next ih =>
      simp only [driveUntil, leave]
      split
      · exact ⟨fresh, asleep⟩
      · exact ih _ fresh asleep
      · split
        · rw [elapse_alone (by exact asleep)]
          exact ⟨fresh, asleep⟩
        · rw [elapse_alone (by exact asleep)]
          exact ih _ fresh asleep

/-- What a caller goes through itself ends with the caller, unlike a task: once the caller has stopped waiting, the
store stays as it is, however much time passes. -/
theorem awaitWithin_inline_dropped (env : Environment) (ms : Nat) (p : Process α) (w : World MemoryStore)
    (later : Nat) :
    let gone := ((ofWorld w).awaitWithin env ms (.inline p)).2
    (gone.sleep env later).world.store = gone.world.store := by
  intro gone
  have nothing : gone.fresh = [] ∧ gone.sleeping = [] := by
    simp only [gone, awaitWithin, goThroughWithin, ofWorld]
    split
    · exact ⟨rfl, rfl⟩
    · split
      · exact ⟨rfl, rfl⟩
      · simp only [settle, List.foldl_nil]
        split
        · rw [elapse_alone rfl]
          exact ⟨rfl, rfl⟩
        · rw [elapse_alone rfl]
          exact driveUntil_dropped _ rfl rfl
  obtain ⟨fresh, asleep⟩ := nothing
  have settled : gone.settle env = { gone with fresh := [] } := by rw [settle, fresh, List.foldl_nil]
  unfold sleep
  split
  · rfl
  · simp only [settled]
    rw [elapse_alone (by exact asleep)]

/-- A run that is not spawned stays behind as running. -/
example :
    let gone := (ofWorld (.start loopStore)).awaitWithin .calm 60000
      (.inline ((Executor.standard 3).scanRun messageExecution.id).run)
    ((gone.2.sleep .calm 600000).world.store.executions.find? messageExecution.id).map (·.status) =
      some "running" := by
  decide +kernel

/-- A task that is idle ends as soon as it is waited for. -/
theorem lookup_idle {a : α} (numbered : ∀ q ∈ s.fresh, q.1 < s.spawned) (idle : p.Idle env s.world a) :
    ((s.spawnFirst p).2.settle env).ended.lookup s.spawned = some (some a) := by
  obtain ⟨v, -, turned⟩ := turn_idle (s := { s with fresh := [], spawned := s.spawned + 1 }) (i := s.spawned) idle
  rw [settle_eq, spawnFirst, turns_cons, turned,
    turns_ended fun q member => Nat.ne_of_lt (numbered q member)]
  simp

theorem await_idle {a : α} (numbered : ∀ q ∈ s.fresh, q.1 < s.spawned) (idle : p.Idle env s.world a)
    (interrupted : String → α) : (s.await env (.spawned p interrupted)).1 = some a := by
  change some ((join env s.spawned (s.spawnFirst p).2).1.getD _) = some a
  simp only [join, lookup_idle numbered idle, Option.getD_some]

theorem awaitWithin_idle {a : α} (numbered : ∀ q ∈ s.fresh, q.1 < s.spawned) (idle : p.Idle env s.world a)
    (interrupted : String → α) {ms : Nat} (positive : 0 < ms) :
    (s.awaitWithin env ms (.spawned p interrupted)).1 = some (some a) := by
  change (joinWithin env ms s.spawned (s.spawnFirst p).2).1.map _ = some (some a)
  simp only [joinWithin, if_neg (Nat.pos_iff_ne_zero.mp positive), lookup_idle numbered idle, Option.map_some,
    Option.getD_some]

/-- A caller that goes through what is idle is done at once. -/
theorem goThrough_idle {a : α} (idle : p.Idle env s.world a) :
    ∃ v : World MemoryStore, v.uncounted = s.world.uncounted ∧
      s.await env (.inline p) = (some a, { s with world := v }) ∧
      ∀ ms, s.awaitWithin env ms (.inline p) = (some (some a), { s with world := v }) := by
  obtain ⟨v, reaches, same⟩ := idle
  refine ⟨v, same, ?_, fun ms => ?_⟩
  · simp only [await, goThrough, reaches.advance_eq, Process.advance]
  · simp only [awaitWithin, goThroughWithin, reaches.advance_eq, Process.advance]

end Answers

end Scheduler

/-- What happens after a caller stopped waiting: time passes, or another caller comes, who waits for an answer or stops
waiting, too. -/
inductive Happening where
  | pause (ms : Nat)
  | call (bound : Option Nat) (demand : Demand)

namespace Happening

/-- Whoever comes looks at executions, or wants to run the one with an id. -/
def Concerns (id : Uuid) : Happening → Prop
  | .call _ (.run text) => ∀ other, Executor.readId text = .ok other → other = id
  | .call _ demand => demand.Looks
  | .pause _ => True

/-- What happens, happens. -/
def occur (env : Environment) (x : Executor) (s : Scheduler MemoryStore (Except EngineError Reply)) :
    Happening → Scheduler MemoryStore (Except EngineError Reply)
  | .pause ms => s.sleep env ms
  | .call none demand => (s.await env (x.serve demand).run).2
  | .call (some ms) demand => (s.awaitWithin env ms (x.serve demand).run).2

end Happening

section Abandonment

variable {env : Environment} {x : Executor} {w : World MemoryStore} {e : Execution} {text : String}

/-- The run of a pending execution begins it. -/
theorem Executor.runTask_begins (x : Executor) (faultless : env.Faultless)
    (there : w.store.executions.find? e.id = some e.row) (pending : e.status = .pending) :
    Process.Begins env e.id w (x.runTask e.id) where
  conducted := by
    refine ⟨fun _ _ => True, [], ?_⟩
    rw [runTask, ExceptT.run_map]
    exact Process.Keeps.bind runAttached_keeps fun _ _ _ => trivial
  opens v same := by
    rw [← same] at there
    exact x.run_opens faultless there pending
  late v begun := by
    obtain ⟨late, there, own, status⟩ := begun
    rw [← own] at there ⊢
    exact ⟨_, x.idle_late faultless there status⟩

/-- Whoever comes wants to run the execution again, or goes through something that only reads. -/
theorem Executor.serve_concerned (x : Executor) {id : Uuid} {demand : Demand} {bound : Option Nat}
    (concerns : (Happening.call bound demand).Concerns id) :
    (∃ interrupted, (x.serve demand).run = .spawned (x.runTask id) interrupted) ∨
      ∃ p, (x.serve demand).run = .inline p ∧ p.Reads := by
  cases demand with
  | create => cases concerns
  | get | steps => exact .inr (serve_reads trivial)
  | run text =>
      cases read : readId text with
      | error err =>
          refine .inr ⟨.done (.error err), ?_, trivial⟩
          simp only [serve, runNamed, read]
          rfl
      | ok id =>
          cases concerns id read
          exact .inl ⟨_, serve_run read⟩

variable {known : Bool} {s : Scheduler MemoryStore (Except EngineError Reply)} {id : Uuid}

/-- Whatever happens, the run is attended to as before. -/
theorem Happening.occur_attended (faultless : env.Faultless) (begins : Process.Begins env id w (x.runTask id))
    (h : Attended env id w (x.runTask id) known s) {happening : Happening} (concerns : happening.Concerns id) :
    Attended env id w (x.runTask id) known (happening.occur env x s) := by
  cases happening with
  | pause ms =>
      rcases Nat.eq_zero_or_pos ms with rfl | positive
      · exact h
      · exact (Scheduler.sleep_attended faultless begins h positive).1.weaken
  | call bound demand =>
      rcases x.serve_concerned concerns with ⟨interrupted, served⟩ | ⟨p, served, reads⟩
      · cases bound with
        | none =>
            rw [occur, served]
            exact (Scheduler.join_attended faultless begins h.spawnFirst _).weaken
        | some ms =>
            rw [occur, served]
            rcases Nat.eq_zero_or_pos ms with rfl | positive
            · exact h.spawnFirst
            · exact (Scheduler.joinWithin_attended faultless begins h.spawnFirst positive _).weaken
      · obtain ⟨a, idle⟩ := reads.idle faultless s.world
        obtain ⟨v, same, waited, bounded⟩ := Scheduler.goThrough_idle idle
        cases bound with
        | none =>
            rw [occur, served, waited]
            exact h.uncounted faultless same
        | some ms =>
            rw [occur, served, bounded]
            exact h.uncounted faultless same

theorem Happening.foldl_attended (faultless : env.Faultless) (begins : Process.Begins env id w (x.runTask id))
    {later : List Happening} (concerns : ∀ h ∈ later, h.Concerns id)
    (h : Attended env id w (x.runTask id) known s) :
    Attended env id w (x.runTask id) known (later.foldl (occur env x) s) := by
  induction later generalizing s with
  | nil => exact h
  | cons happening rest ih =>
      rw [List.forall_mem_cons] at concerns
      exact ih concerns.2 (occur_attended faultless begins h concerns.1)

/-- What is held of an execution whose run is underway. -/
theorem Attended.begun {α : Type} {id : Uuid} {p : Process α} {s : Scheduler MemoryStore α}
    (h : Attended env id w p true s) : (s.world.store.holdingOf id).Begun id := by
  cases h.stands with
  | underway underway => exact underway.begun

/-- An execution whose run was asked for was begun if it is not pending any more. -/
theorem Attended.begun_of_late {α : Type} {id : Uuid} {p : Process α} {s : Scheduler MemoryStore α}
    (h : Attended env id w p known s) {base row : ExecutionRow} (there : w.store.executions.find? id = some base)
    (pending : base.status = ExecutionStatus.pending.name) (found : s.world.store.executions.find? id = some row)
    (late : row.status ≠ ExecutionStatus.pending.name) : (s.world.store.holdingOf id).Begun id := by
  cases h.stands with
  | underway underway => exact underway.begun
  | waiting _ _ same =>
      rw [World.store_of_uncounted same, there] at found
      cases found
      exact absurd pending late

/-- What comes of the run of a pending execution for which a caller stopped waiting, next to what comes of it if the
caller waits.  The run is carried through, and the caller that stopped waiting was told the same or nothing.  Once the
time has come at which the run ended that was waited for, the stores hold the same.  Whoever wants to run the execution
again when it is not pending any more is turned away. -/
structure Unaffected (env : Environment) (x : Executor) (base : ExecutionRow) (first : MemoryStore)
    (waited : Option (Except EngineError Reply) × Scheduler MemoryStore (Except EngineError Reply))
    (told : Option (Option (Except EngineError Reply)))
    (after : Scheduler MemoryStore (Except EngineError Reply)) : Prop where
  ended : ∃ summary, waited.1 = some (.ok (.summary summary)) ∧
    Accomplished env first x base waited.2.world.store (.ok summary)
  told : told = none ∨ told = some waited.1
  same : ∀ ms, 0 < ms → waited.2.world.now ≤ after.world.now + ms →
    (after.sleep env ms).world.store = waited.2.world.store
  refused : ∀ row, after.world.store.executions.find? base.id = some row →
    row.status ≠ ExecutionStatus.pending.name → ∀ text, Executor.readId text = .ok base.id →
      (after.await env (x.serve (.run text)).run).1 = some (.error (.alreadyStarted base.id row.status)) ∧
        ∀ ms, 0 < ms → (after.awaitWithin env ms (x.serve (.run text)).run).1 =
          some (some (.error (.alreadyStarted base.id row.status)))

/-- A caller that stops waiting does not change the run.  However long it waited, and whoever comes then to look at
executions or to run the same one, the run ends as it does if it is waited for.  If the caller waited at all, the
execution is not pending any more. -/
theorem abandoned_run_unaffected (x : Executor) (faultless : env.Faultless) {base : ExecutionRow}
    (there : w.store.executions.find? base.id = some base) (pending : base.status = ExecutionStatus.pending.name)
    (named : Executor.readId text = .ok base.id) (bound : Nat) {later : List Happening}
    (concerns : ∀ h ∈ later, h.Concerns base.id) :
    let run := (x.serve (.run text)).run
    let abandoned := (Scheduler.ofWorld w).awaitWithin env bound run
    let after := later.foldl (Happening.occur env x) abandoned.2
    Unaffected env x base w.store ((Scheduler.ofWorld w).await env run) abandoned.1 after ∧
      (0 < bound → ∃ row, after.world.store.executions.find? base.id = some row ∧
        row.status ≠ ExecutionStatus.pending.name) := by
  intro run abandoned after
  obtain ⟨e, rfl, status⟩ := ExecutionRow.exists_execution pending
  have begins : (x.runTask e.id).Begins env e.id w := x.runTask_begins faultless there status
  have spawned : run = .spawned (x.runTask e.id) fun report => .error (.interrupted e.id report) :=
    Executor.serve_run named
  have asked : Attended env e.id w (x.runTask e.id) false ((Scheduler.ofWorld w).spawnFirst (x.runTask e.id)).2 :=
    .asked (x.runTask e.id) w
  have attended : Attended env e.id w (x.runTask e.id) (decide (0 < bound)) after := by
    apply Happening.foldl_attended faultless begins concerns
    simp only [abandoned, spawned]
    rcases Nat.eq_zero_or_pos bound with rfl | positive
    · exact asked
    · rw [decide_eq_true positive]
      exact Scheduler.joinWithin_attended faultless begins asked positive _
  obtain ⟨told, world⟩ := Scheduler.await_alone env run w
  have ran : run.run env w = (x.runTask e.id).run env w := by
    rw [Awaited.run_unbroken faultless.refuses, spawned]
    rfl
  refine ⟨?_, fun positive => ?_⟩
  · constructor
    · obtain ⟨r, result, accomplished⟩ := x.run_accomplished faultless there pending named
      obtain ⟨summary, rfl⟩ := accomplished.eq_ok
      rw [Executor.runNamed_run faultless.refuses named] at result accomplished
      have served := ran.trans (Task.run_map (f := Reply.summary) (Prod.ext result rfl))
      refine ⟨summary, told.trans (congrArg Prod.fst served), ?_⟩
      rw [world]
      exact (congrArg Prod.snd served) ▸ accomplished
    · rw [told]
      simp only [abandoned, spawned]
      exact Scheduler.awaitWithin_spawned_alone ..
    · intro ms positive late
      obtain ⟨slept, now⟩ := Scheduler.sleep_attended faultless begins attended positive
      rw [world, ran] at late ⊢
      cases slept.stands with
      | underway underway => exact underway.over_at_end faultless (now ▸ late)
    · intro row found late text named
      obtain ⟨e', held, own, begun⟩ := attended.begun_of_late there pending found late
      cases found.symm.trans held
      have idle := x.idle_late faultless (own ▸ held) begun
      rw [own] at idle
      rw [Executor.serve_run named]
      exact ⟨Scheduler.await_idle attended.numbered idle _, fun ms positive =>
        Scheduler.awaitWithin_idle attended.numbered idle _ positive⟩
  · rw [decide_eq_true positive] at attended
    obtain ⟨e', held, -, late⟩ := attended.begun
    exact ⟨e'.row, held, fun same => late (ExecutionStatus.name_inj.mp same)⟩

/-- Others who come after a caller has stopped waiting. -/
def impatientCallers : List Happening :=
  [.pause 1000, .call none (.run messageExecution.id.render), .call (some 5) (.get messageExecution.id),
    .call (some 0) (.run messageExecution.id.render), .call none (.steps messageExecution.id), .pause 400000]

theorem abandoned_run_unaffected_loop :
    let x := Executor.standard 3
    let run := (x.serve (.run messageExecution.id.render)).run
    let abandoned := (Scheduler.ofWorld (.start loopStore)).awaitWithin .calm 60000 run
    let after := impatientCallers.foldl (Happening.occur .calm x) abandoned.2
    Unaffected .calm x messageExecution loopStore ((Scheduler.ofWorld (.start loopStore)).await .calm run) abandoned.1
        after ∧
      (0 < 60000 → ∃ row, after.world.store.executions.find? messageExecution.id = some row ∧
        row.status ≠ ExecutionStatus.pending.name) := by
  have again : ∀ other, Executor.readId messageExecution.id.render = .ok other → other = messageExecution.id := by
    intro other read
    rw [readId_message] at read
    exact (Except.ok.inj read).symm
  have concerns : ∀ h ∈ impatientCallers, h.Concerns messageExecution.id := by
    simp only [impatientCallers, List.forall_mem_cons]
    exact ⟨trivial, again, trivial, again, trivial, trivial, nofun⟩
  have there : (World.start loopStore).store.executions.find? messageExecution.id = some messageExecution :=
    loopStore_holds
  exact abandoned_run_unaffected (Executor.standard 3) Environment.calm_faultless there rfl readId_message 60000
    concerns

end Abandonment

end WorkflowEngine
