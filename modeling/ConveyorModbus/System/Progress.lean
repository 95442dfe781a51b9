import ConveyorModbus.System.Abstraction
import ConveyorModbus.System.Replay

/-!
# What the webhook monitor waits for

A round of the monitor passes many await points: the pool permit, recycling,
each connection attempt and the delay after it, the Modbus call, and the
webhook post.  Every one of them but the last ends by itself: by an internal
step, by a deadline the program has armed, or, for the permit, by the same
argument about the task that has it.  The post is awaited without a deadline.
-/

namespace ConveyorModbus

open Effects Program Counting

/-!
## Steps that depend on nobody outside
-/

/-- The steps that need no answer of a PLC or a webhook server: internal steps
and the expiry of `connect_timeout`, `reconnect_delay` or `operation_timeout`. -/
def Label.independent : Label -> Bool
  | runtime _ => true
  | acquire _ => true
  | popIdle _ _ => true
  | popEmpty _ => true
  | disconnected _ _ => true
  | recycled _ => true
  | connectTimeout _ => true
  | slept _ => true
  | created _ => true
  | send _ => true
  | operationTimeout _ => true
  | release _ => true
  | post _ => true
  | spawn _ => false
  | startRound => false
  | connected _ => false
  | refused _ _ => false
  | answer _ _ => false
  | transportError _ _ => false
  | posted _ _ => false
  | cancel _ => false

def Task.permitOf (task : Task) : Option Nat :=
  match task.program, task.phase with
  | _, .dropped => none
  | perform (.get _) _, .ready => none
  | perform (.get pool) _, _ => some pool.id
  | perform (.call _ object _) _, _ => some object.pool.id
  | perform (.release object) _, _ => some object.pool.id
  | _, _ => none

def Task.waitsFor (task : Task) : Option Nat :=
  match task.program, task.phase with
  | perform (.get pool) _, .ready => some pool.id
  | _, _ => none

/-- Some independent step of task `j` is enabled. -/
def Moves (d : Deployment) (s : State) (j : Nat) : Prop :=
  exists l s', Step d s l s' ∧ l.task = some j ∧ l.independent = true

/-- Task `i`, or a task with the permit it waits for, can move by itself. -/
def Advances (d : Deployment) (s : State) (i : Nat) : Prop :=
  Moves d s i ∨
    exists (task other : Task) (j p : Nat), s.tasks[i]? = some task ∧
      task.waitsFor = some p ∧ s.tasks[j]? = some other ∧
      other.permitOf = some p ∧ Moves d s j

def MonitorAdvances (d : Deployment) (s : State) : Prop :=
  forall (i : Nat) (task : Task), s.tasks[i]? = some task ->
    task.kind = .round -> ¬ task.Finished -> Advances d s i

def MonitorAwaitsWebhook (s : State) : Prop :=
  exists (i : Nat) (task : Task), s.tasks[i]? = some task ∧
    task.kind = .round ∧ task.phase = .posting

/-!
## Phases and programs
-/

/-- Rounds are never dropped, and a webhook is awaited at a post. -/
structure TaskShape (task : Task) : Prop where
  kept : task.kind = .round -> task.phase ≠ .dropped
  posting : task.phase = .posting ->
    exists url payload k, task.program = perform (.post url payload) k

theorem shape_resume (task : Task) (e : ServiceEffect) (r : e.Reply)
    (k : e.Reply -> ServiceProgram TaskOutput) :
    TaskShape (task.resume e r k) :=
  ⟨fun _ h => Phase.noConfusion h, fun h => Phase.noConfusion h⟩

theorem shape_enter {task : Task} {phase : Phase} (hdropped : phase ≠ .dropped)
    (hposting : phase ≠ .posting) : TaskShape (task.enter phase) :=
  ⟨fun _ => hdropped, fun h => absurd h hposting⟩

theorem shape_dropped {task : Task} {request : ConveyorRequest}
    (hkind : task.kind = .handler request) :
    TaskShape (task.enter .dropped) := by
  refine ⟨fun hround => ?_, fun h => Phase.noConfusion h⟩
  rw [show (task.enter .dropped).kind = task.kind from rfl, hkind] at hround
  cases hround

def Shaped (s : State) : Prop :=
  forall task, task ∈ s.tasks -> TaskShape task

theorem shaped_setTask {s t : State} (h : Shaped s) (htasks : t.tasks = s.tasks)
    {i : Nat} {task' : Task} (htask : TaskShape task') :
    Shaped (t.setTask i task') := by
  intro task hmem
  rcases List.mem_or_eq_of_mem_set hmem with hbefore | rfl
  · rw [htasks] at hbefore
    exact h task hbefore
  · exact htask

theorem shaped_addTask {s : State} (h : Shaped s) (conveyor : ConveyorConfig)
    (kind : TaskKind) : Shaped (s.addTask (Task.start conveyor kind)) := by
  intro task hmem
  simp only [State.addTask, List.mem_append, List.mem_singleton] at hmem
  rcases hmem with hbefore | rfl
  · exact h task hbefore
  · exact ⟨fun _ hphase => Phase.noConfusion hphase,
      fun hphase => Phase.noConfusion hphase⟩

theorem shaped_step {d : Deployment} {s s' : State} {l : Label} (h : Shaped s)
    (hstep : Step d s l s') : Shaped s' := by
  cases hstep with
  | spawn => exact shaped_addTask h _ _
  | startRound => exact shaped_addTask h _ _
  | runtimeHit => exact shaped_setTask h rfl (shape_resume _ _ _ _)
  | runtimeMiss => exact shaped_setTask h rfl (shape_resume _ _ _ _)
  | acquire => exact shaped_setTask h rfl (shape_enter (by simp) (by simp))
  | popIdle => exact shaped_setTask h rfl (shape_enter (by simp) (by simp))
  | popEmpty => exact shaped_setTask h rfl (shape_enter (by simp) (by simp))
  | disconnected =>
      exact shaped_setTask h rfl (shape_enter (by simp) (by simp))
  | recycleOk => exact shaped_setTask h rfl (shape_resume _ _ _ _)
  | recycleErr => exact shaped_setTask h rfl (shape_enter (by simp) (by simp))
  | connected => exact shaped_setTask h rfl (shape_enter (by simp) (by simp))
  | refused => exact shaped_setTask h rfl (shape_enter (by simp) (by simp))
  | connectTimeout =>
      exact shaped_setTask h rfl (shape_enter (by simp) (by simp))
  | slept => exact shaped_setTask h rfl (shape_enter (by simp) (by simp))
  | createOk => exact shaped_setTask h rfl (shape_resume _ _ _ _)
  | createErr => exact shaped_setTask h rfl (shape_resume _ _ _ _)
  | send => exact shaped_setTask h rfl (shape_enter (by simp) (by simp))
  | answer => exact shaped_setTask h rfl (shape_resume _ _ _ _)
  | transportError => exact shaped_setTask h rfl (shape_resume _ _ _ _)
  | operationTimeout => exact shaped_setTask h rfl (shape_resume _ _ _ _)
  | release => exact shaped_setTask h rfl (shape_resume _ _ _ _)
  | post htask hprogram hphase =>
      exact shaped_setTask h rfl
        ⟨fun _ hdropped => Phase.noConfusion hdropped,
          fun _ => ⟨_, _, _, hprogram⟩⟩
  | posted => exact shaped_setTask h rfl (shape_resume _ _ _ _)
  | cancelWaiting htask hkind =>
      exact shaped_setTask h rfl (shape_dropped hkind)
  | cancelGetting htask hkind =>
      exact shaped_setTask h rfl (shape_dropped hkind)
  | cancelCall htask hkind => exact shaped_setTask h rfl (shape_dropped hkind)

theorem reachable_shaped {d : Deployment} {s : State} (h : Reachable d s) :
    Shaped s := by
  apply h.invariant
  · rintro s rfl task htask
    cases htask
  · intro s l s' _ hshaped hstep
    exact shaped_step hshaped hstep

/-!
## Tasks that can move
-/

section Moves

variable {d : Deployment} {s : State} {j : Nat} {task : Task}

theorem moves_getting (hwired : Wired d s) (htask : s.tasks[j]? = some task)
    {pool : Pool} {k : Except PoolError Object -> ServiceProgram TaskOutput}
    (hprogram : task.program = perform (.get pool) k)
    (hready : task.phase ≠ .ready) (hdropped : task.phase ≠ .dropped) :
    Moves d s j := by
  have htaskWired := hwired.tasks task (List.mem_of_getElem? htask)
  rcases htaskWired.handle_of_get hprogram with ⟨slots, hslots, _⟩
  rcases htaskWired.holding_of_get hprogram with ⟨runtime, hholding, _⟩
  have hphase := htaskWired.phase
  rw [hholding] at hphase
  cases hwhere : task.phase with
  | ready => exact absurd hwhere hready
  | dropped => exact absurd hwhere hdropped
  | popping =>
      cases hidle : slots.idle with
      | nil =>
          exact ⟨_, _, Step.popEmpty htask hprogram hwhere hslots hidle, rfl,
            rfl⟩
      | cons connection rest =>
          exact ⟨_, _, Step.popIdle htask hprogram hwhere hslots
            (n := 0) (by rw [hidle]; rfl), rfl, rfl⟩
  | recycling connection rest =>
      rw [hwhere] at hphase
      rcases hphase with ⟨_, hrest⟩
      cases hrest with
      | accepted hstatus =>
          exact ⟨_, _, Step.recycleOk htask hprogram hwhere, rfl, rfl⟩
      | refused hstatus =>
          exact ⟨_, _, Step.recycleErr htask hprogram hwhere, rfl, rfl⟩
      | closing hstatus hnext =>
          exact ⟨.disconnected j (.ok ()), _,
            Step.disconnected htask hprogram hwhere, rfl, rfl⟩
  | creating rest =>
      rw [hwhere] at hphase
      rcases hphase with ⟨opening, hrest⟩
      cases rest with
      | ret result =>
          cases result with
          | ok connection =>
              exact ⟨_, _, Step.createOk htask hprogram hwhere, rfl, rfl⟩
          | error err =>
              exact ⟨_, _, Step.createErr htask hprogram hwhere hslots, rfl,
                rfl⟩
      | perform e rest =>
          cases e with
          | connect connectTimeout addr =>
              exact ⟨_, _, Step.connectTimeout htask hprogram hwhere, rfl, rfl⟩
          | sleep delay =>
              exact ⟨_, _, Step.slept htask hprogram hwhere, rfl, rfl⟩
          | disconnect context => cases opening <;> exact hrest.left.elim
  | inFlight =>
      rw [hwhere] at hphase
      exact hphase.elim
  | posting =>
      rw [hwhere] at hphase
      exact hphase.elim

theorem phase_of_fresh (hwired : Wired d s) (htask : s.tasks[j]? = some task)
    {object : Object} (hholding : task.holding = .fresh object)
    (hdropped : task.phase ≠ .dropped) :
    task.phase = .ready ∨ task.phase = .inFlight := by
  have hphase := (hwired.tasks task (List.mem_of_getElem? htask)).phase
  rw [hholding] at hphase
  cases hwhere : task.phase with
  | ready => exact Or.inl rfl
  | inFlight => exact Or.inr rfl
  | dropped => exact absurd hwhere hdropped
  | popping => rw [hwhere] at hphase; exact hphase.elim
  | recycling connection rest => rw [hwhere] at hphase; exact hphase.elim
  | creating rest => rw [hwhere] at hphase; exact hphase.elim
  | posting => rw [hwhere] at hphase; exact hphase.elim

theorem phase_of_used (hwired : Wired d s) (htask : s.tasks[j]? = some task)
    {object : Object} (hholding : task.holding = .used object)
    (hdropped : task.phase ≠ .dropped) : task.phase = .ready := by
  have hphase := (hwired.tasks task (List.mem_of_getElem? htask)).phase
  rw [hholding] at hphase
  cases hwhere : task.phase with
  | ready => rfl
  | dropped => exact absurd hwhere hdropped
  | popping => rw [hwhere] at hphase; exact hphase.elim
  | recycling connection rest => rw [hwhere] at hphase; exact hphase.elim
  | creating rest => rw [hwhere] at hphase; exact hphase.elim
  | inFlight => rw [hwhere] at hphase; exact hphase.elim
  | posting => rw [hwhere] at hphase; exact hphase.elim

theorem moves_owning (hwired : Wired d s) (htask : s.tasks[j]? = some task)
    {object : Object} (hholding : task.holding = .fresh object ∨
      task.holding = .used object)
    (hdropped : task.phase ≠ .dropped) : Moves d s j := by
  have htaskWired := hwired.tasks task (List.mem_of_getElem? htask)
  have hdisciplined := htaskWired.disciplined
  rcases hholding with hfresh | hused
  · rw [hfresh] at hdisciplined
    rcases head_of_fresh hdisciplined with ⟨request, k, hprogram⟩
    have hcalling := phase_of_fresh hwired htask hfresh hdropped
    exact ⟨_, _, Step.operationTimeout htask hprogram hcalling, rfl, rfl⟩
  · rw [hused] at hdisciplined
    rcases head_of_used hdisciplined with ⟨k, hprogram⟩
    rcases (htaskWired.object_of_release hprogram).left with ⟨slots, hslots, _⟩
    have hready := phase_of_used hwired htask hused hdropped
    exact ⟨_, _, Step.release htask hprogram hready hslots, rfl, rfl⟩

theorem moves_between (hwired : Wired d s) (htask : s.tasks[j]? = some task)
    (hholding : task.holding = .nothing) (hdropped : task.phase ≠ .dropped)
    (hposting : task.phase ≠ .posting) (hrunning : ¬ task.Finished) :
    Moves d s j := by
  have htaskWired := hwired.tasks task (List.mem_of_getElem? htask)
  have hdisciplined := htaskWired.disciplined
  have hphase := htaskWired.phase
  rw [hholding] at hdisciplined hphase
  have hready : task.phase = .ready := by
    cases hwhere : task.phase with
    | ready => rfl
    | dropped => exact absurd hwhere hdropped
    | posting => exact absurd hwhere hposting
    | popping => rw [hwhere] at hphase; exact hphase.elim
    | recycling connection rest => rw [hwhere] at hphase; exact hphase.elim
    | creating rest => rw [hwhere] at hphase; exact hphase.elim
    | inFlight => rw [hwhere] at hphase; exact hphase.elim
  rcases head_of_nothing hdisciplined with
    ⟨output, hprogram⟩ | ⟨address, slaveId, k, hprogram⟩ |
      ⟨url, payload, k, hprogram⟩
  · exact absurd ⟨output, hprogram⟩ hrunning
  · cases hlookup : s.service.lookup address slaveId with
    | some runtime =>
        exact ⟨_, _, Step.runtimeHit htask hprogram hready hlookup, rfl, rfl⟩
    | none =>
        exact ⟨_, _, Step.runtimeMiss htask hprogram hready hlookup rfl, rfl,
          rfl⟩
  · exact ⟨_, _, Step.post htask hprogram hready, rfl, rfl⟩

end Moves

/-!
## Permits
-/

section Permits

variable {d : Deployment} {s : State}

theorem permitOf_get {task : Task} {pool : Pool}
    {k : Except PoolError Object -> ServiceProgram TaskOutput}
    (hprogram : task.program = perform (.get pool) k)
    (hready : task.phase ≠ .ready) (hdropped : task.phase ≠ .dropped) :
    task.permitOf = some pool.id := by
  unfold Task.permitOf
  rw [hprogram]
  cases hwhere : task.phase <;> simp_all

theorem permitOf_call {task : Task} {operationTimeout : Duration}
    {object : Object} {request : ModbusRequest}
    {k : CallResult request.Answer -> ServiceProgram TaskOutput}
    (hprogram : task.program =
      perform (.call operationTimeout object request) k)
    (hdropped : task.phase ≠ .dropped) :
    task.permitOf = some object.pool.id := by
  unfold Task.permitOf
  rw [hprogram]
  cases hwhere : task.phase <;> simp_all

theorem permitOf_release {task : Task} {object : Object}
    {k : Unit -> ServiceProgram TaskOutput}
    (hprogram : task.program = perform (.release object) k)
    (hdropped : task.phase ≠ .dropped) :
    task.permitOf = some object.pool.id := by
  unfold Task.permitOf
  rw [hprogram]
  cases hwhere : task.phase <;> simp_all

theorem claim_of_holding_nothing {task : Task}
    (hholding : task.holding = .nothing) : task.claim = .nothing := by
  rw [Task.claim, hholding]
  cases task.phase <;> rfl

theorem claim_of_owning {task : Task} {object : Object}
    (hholding : task.holding = .fresh object ∨ task.holding = .used object)
    (hdropped : task.phase ≠ .dropped) :
    task.claim = .holding object.token ∨ task.claim = .waiting object.token := by
  rcases hholding with hholding | hholding <;> rw [Task.claim, hholding] <;>
    cases hwhere : task.phase
  all_goals first
    | exact absurd hwhere hdropped
    | exact Or.inl rfl
    | exact Or.inr rfl

theorem owner_pool {task : Task} {object : Object} {p : Nat}
    (hholding : task.holding = .fresh object ∨ task.holding = .used object)
    (hdropped : task.phase ≠ .dropped) (hpermit : 0 < task.claim.permits p) :
    object.pool.id = p := by
  have hone : task.claim.permits p = if object.pool.id = p then 1 else 0 := by
    rcases claim_of_owning hholding hdropped with hclaim | hclaim <;>
      rw [hclaim] <;> rfl
  by_contra hne
  rw [hone, if_neg hne] at hpermit
  cases hpermit

/-- A client of the abstract pool with a permit is a task inside `pool.get()` or
one with a connection of the pool. -/
theorem holder_cases (hwired : Wired d s) {j p : Nat} {task : Task}
    (htask : s.tasks[j]? = some task) (hpermit : 0 < task.claim.permits p) :
    task.phase ≠ .dropped ∧
      ((exists pool k, task.program = perform (.get pool) k ∧
        task.phase ≠ .ready ∧ pool.id = p) ∨
      (exists object, (task.holding = .fresh object ∨
        task.holding = .used object) ∧ object.pool.id = p)) := by
  have htaskWired := hwired.tasks task (List.mem_of_getElem? htask)
  have hdropped : task.phase ≠ .dropped := by
    intro hwhere
    rw [Task.claim, hwhere] at hpermit
    cases task.holding <;> cases hpermit
  refine ⟨hdropped, ?_⟩
  cases hholding : task.holding with
  | nothing =>
      rw [claim_of_holding_nothing hholding] at hpermit
      cases hpermit
  | looked runtime =>
      have hdisciplined := htaskWired.disciplined
      rw [hholding] at hdisciplined
      rcases head_of_looked hdisciplined with ⟨k, hprogram⟩
      have hready : task.phase ≠ .ready := by
        intro hwhere
        rw [claim_eq hholding hwhere] at hpermit
        cases hpermit
      have hone : task.claim.permits p =
          if runtime.pool.id = p then 1 else 0 := by
        rcases claim_of_get htaskWired hprogram hready hdropped with
          hclaim | hclaim | ⟨token, hclaim, htoken⟩
        · rw [hclaim]
          rfl
        · rw [hclaim]
          rfl
        · rw [hclaim, <- htoken]
          rfl
      have hpool : runtime.pool.id = p := by
        by_contra hne
        rw [hone, if_neg hne] at hpermit
        cases hpermit
      exact Or.inl ⟨runtime.pool, k, hprogram, hready, hpool⟩
  | fresh object =>
      exact Or.inr ⟨object, Or.inl rfl,
        owner_pool (Or.inl hholding) hdropped hpermit⟩
  | used object =>
      exact Or.inr ⟨object, Or.inr rfl,
        owner_pool (Or.inr hholding) hdropped hpermit⟩

theorem holder_moves (hwired : Wired d s) {j p : Nat} {task : Task}
    (htask : s.tasks[j]? = some task) (hpermit : 0 < task.claim.permits p) :
    task.permitOf = some p ∧ Moves d s j := by
  rcases holder_cases hwired htask hpermit with
    ⟨hdropped, ⟨pool, k, hprogram, hready, rfl⟩ | ⟨object, hholding, rfl⟩⟩
  · exact ⟨permitOf_get hprogram hready hdropped,
      moves_getting hwired htask hprogram hready hdropped⟩
  · have hdisciplined :=
      (hwired.tasks task (List.mem_of_getElem? htask)).disciplined
    refine ⟨?_, moves_owning hwired htask hholding hdropped⟩
    rcases hholding with hfresh | hused
    · rw [hfresh] at hdisciplined
      rcases head_of_fresh hdisciplined with ⟨request, k, hprogram⟩
      exact permitOf_call hprogram hdropped
    · rw [hused] at hdisciplined
      rcases head_of_used hdisciplined with ⟨k, hprogram⟩
      exact permitOf_release hprogram hdropped

theorem exists_holder (hs : Reachable d s) {p : Nat} {slots : PoolState}
    (hslots : s.pools[p]? = some slots) (hnone : slots.permits = 0) :
    exists (j : Nat) (task : Task), s.tasks[j]? = some task ∧
      0 < task.claim.permits p := by
  have hshelf := custodies_shelf hslots
  have hcapacity := (reachable_wired hs).shelf_capacity hshelf
  rcases ConnectionPool.exists_holder (reachable_custodies hs) hshelf hnone
    (by omega) with ⟨j, custody, hclient, hpermit⟩
  simp only [State.custodies, List.getElem?_map, Option.map_eq_some_iff]
    at hclient
  rcases hclient with ⟨task, htask, rfl⟩
  exact ⟨j, task, htask, hpermit⟩

theorem advances_waiting (hs : Reachable d s) {i : Nat} {task : Task}
    (htask : s.tasks[i]? = some task) {pool : Pool}
    {k : Except PoolError Object -> ServiceProgram TaskOutput}
    (hprogram : task.program = perform (.get pool) k)
    (hready : task.phase = .ready) : Advances d s i := by
  have hwired := reachable_wired hs
  have htaskWired := hwired.tasks task (List.mem_of_getElem? htask)
  have hhandle := htaskWired.handle_of_get hprogram
  rcases hhandle with ⟨slots, hslots, hpool⟩
  rcases Nat.eq_zero_or_pos slots.permits with hnone | hfree
  · rcases exists_holder hs hslots hnone with ⟨j, other, hother, hpermit⟩
    rcases holder_moves hwired hother hpermit with ⟨hpermitOf, hmoves⟩
    refine Or.inr ⟨task, other, j, pool.id, htask, ?_, hother, hpermitOf,
      hmoves⟩
    unfold Task.waitsFor
    rw [hprogram, hready]
  · exact Or.inl ⟨_, _, Step.acquire htask hprogram hready hslots hfree, rfl,
      rfl⟩

end Permits

/-!
## The monitor
-/

section Monitor

variable {d : Deployment} {s : State}

theorem round_advances (hs : Reachable d s) {i : Nat} {task : Task}
    (htask : s.tasks[i]? = some task) (hround : task.kind = .round)
    (hrunning : ¬ task.Finished) (hposting : task.phase ≠ .posting) :
    Advances d s i := by
  have hwired := reachable_wired hs
  have hmem := List.mem_of_getElem? htask
  have htaskWired := hwired.tasks task hmem
  have hdisciplined := htaskWired.disciplined
  have hdropped := (reachable_shaped hs task hmem).kept hround
  cases hholding : task.holding with
  | nothing =>
      exact Or.inl
        (moves_between hwired htask hholding hdropped hposting hrunning)
  | looked runtime =>
      rw [hholding] at hdisciplined
      rcases head_of_looked hdisciplined with ⟨k, hprogram⟩
      by_cases hready : task.phase = .ready
      · exact advances_waiting hs htask hprogram hready
      · exact Or.inl
          (moves_getting hwired htask hprogram hready hdropped)
  | fresh object =>
      exact Or.inl (moves_owning hwired htask (Or.inl hholding) hdropped)
  | used object =>
      exact Or.inl (moves_owning hwired htask (Or.inr hholding) hdropped)

/-- While it awaits a webhook a task has no step of its own. -/
theorem not_advances_of_posting {i : Nat} {task : Task}
    (htask : s.tasks[i]? = some task) (hposting : task.phase = .posting) :
    ¬ Advances d s i := by
  have hsame : forall {other : Task}, s.tasks[i]? = some other ->
      other.phase = .posting := by
    intro other hother
    rw [htask, Option.some.injEq] at hother
    rw [<- hother]
    exact hposting
  rintro (⟨l, s', hstep, hl, hindependent⟩ |
    ⟨task', other, j, p, htask', hwaits, _⟩)
  · cases hstep <;> simp only [Label.task, Option.some.injEq, reduceCtorEq,
      Label.independent] at hl hindependent <;> subst hl <;>
      simp_all
  · have hphase := hsame htask'
    unfold Task.waitsFor at hwaits
    rw [hphase] at hwaits
    split at hwaits <;> simp_all

theorem monitorAdvances_of_reachable (hs : Reachable d s) :
    MonitorAdvances d s <-> ¬ MonitorAwaitsWebhook s := by
  constructor
  · rintro hadvances ⟨i, task, htask, hround, hposting⟩
    have hshape := reachable_shaped hs task (List.mem_of_getElem? htask)
    rcases hshape.posting hposting with ⟨url, payload, k, hprogram⟩
    have hrunning : ¬ task.Finished := by
      intro h
      rcases h with ⟨output, hreturned⟩
      rw [hprogram] at hreturned
      cases hreturned
    exact not_advances_of_posting htask hposting
      (hadvances i task htask hround hrunning)
  · intro hawaits i task htask hround hrunning
    apply round_advances hs htask hround hrunning
    intro hposting
    exact hawaits ⟨i, task, htask, hround, hposting⟩

def NothingPosted (_ : State) (l : Label) : Prop :=
  forall i, l ≠ .post i

theorem not_posting_step {s' : State} {l : Label} (hstep : Step d s l s')
    (hl : NothingPosted s l)
    (h : forall task, task ∈ s.tasks -> task.phase ≠ .posting) :
    forall task, task ∈ s'.tasks -> task.phase ≠ .posting := by
  have hset : forall {t : State} {i : Nat} {task' : Task},
      t.tasks = s.tasks -> task'.phase ≠ .posting ->
      forall task, task ∈ (t.setTask i task').tasks -> task.phase ≠ .posting := by
    intro t i task' htasks hphase task hmem
    rcases List.mem_or_eq_of_mem_set hmem with hbefore | rfl
    · exact h task (htasks ▸ hbefore)
    · exact hphase
  have hadd : forall (kind : TaskKind),
      forall task, task ∈ (s.addTask (Task.start d.conveyor kind)).tasks ->
        task.phase ≠ .posting := by
    intro kind task hmem
    simp only [State.addTask, List.mem_append, List.mem_singleton] at hmem
    rcases hmem with hbefore | rfl
    · exact h task hbefore
    · exact fun hphase => Phase.noConfusion hphase
  cases hstep
  case spawn => exact hadd _
  case startRound => exact hadd _
  case post => exact absurd rfl (hl _)
  all_goals exact hset rfl (fun hphase => Phase.noConfusion hphase)

theorem not_posting_of_nothingPosted
    (h : ((machine d).restrict NothingPosted).Reachable s) :
    ¬ MonitorAwaitsWebhook s := by
  have hnone : forall task, task ∈ s.tasks -> task.phase ≠ .posting := by
    induction h with
    | init hs =>
        intro task htask
        rw [show _ = State.initial d.modbus from hs] at htask
        cases htask
    | step _ hstep ih => exact not_posting_step hstep.left hstep.right ih
  intro h
  rcases h with ⟨i, task, htask, _, hposting⟩
  exact hnone task (List.mem_of_getElem? htask) hposting

end Monitor

/-- A webhook server that accepts a notification and never answers it leaves
the monitor without any step of its own. -/
theorem monitor_stalls :
    ¬ forall (d : Deployment) (s : State), Reachable d s ->
      MonitorAdvances d s := by
  intro hclaim
  have hreplay : (replay lineDeployment (State.initial lineDeployment.modbus)
      ([.startRound] ++ connectLabels 0 ++
        [.send 0, .answer 0 (.values [6]), .release 0, .post 0])).any
      (fun s => s.tasks[0]?.any (fun task => task.kind.isRound &&
        !task.isOver && task.phase.isPosting)) = true := by
    decide
  rcases exists_of_replay hreplay with ⟨s, hs, hbad⟩
  rcases (Option.any_eq_true _ _).mp hbad with ⟨task, htask, hstuck⟩
  simp only [Bool.and_eq_true, Bool.not_eq_true'] at hstuck
  rcases hstuck with ⟨⟨hround, hover⟩, hposting⟩
  exact not_advances_of_posting htask (Phase.posting_of_isPosting hposting)
    (hclaim lineDeployment s (replay_reachable hs) 0 task htask
      (TaskKind.round_of_isRound hround) (Task.not_finished_of_isOver hover))

/-- In every reachable state the monitor advances exactly if it does not await
the answer of a webhook server; in a run without posts it always does. -/
theorem monitorAdvances_iff {d : Deployment} {s : State}
    (hs : Reachable d s) :
    (MonitorAdvances d s <-> ¬ MonitorAwaitsWebhook s) ∧
      (((machine d).restrict NothingPosted).Reachable s ->
        MonitorAdvances d s) :=
  ⟨monitorAdvances_of_reachable hs, fun hquiet =>
    (monitorAdvances_of_reachable hs).mpr (not_posting_of_nothingPosted hquiet)⟩

/-- The monitor waits for the only permit, which a handler holds in flight. -/
theorem monitorAdvances_permit :
    exists s task, Reachable lineDeployment s ∧ s.tasks[1]? = some task ∧
      task.kind = .round ∧ task.waitsFor = some 0 ∧
      MonitorAdvances lineDeployment s := by
  have hreplay : (replay lineDeployment (State.initial lineDeployment.modbus)
      ([.spawn (.write { source := "A1", destination := "B1" })] ++
        connectLabels 0 ++ [.send 0, .startRound, .runtime 1])).any
      (fun s => s.tasks[1]?.any (fun task => task.kind.isRound &&
        task.waitsFor == some 0)) = true := by
    decide
  rcases exists_of_replay hreplay with ⟨s, hs, hgood⟩
  rcases (Option.any_eq_true _ _).mp hgood with ⟨task, htask, hwaits⟩
  rw [Bool.and_eq_true, beq_iff_eq] at hwaits
  have hquiet : forall (t : State) (l : Label),
      l ∈ ([.spawn (.write { source := "A1", destination := "B1" })] ++
        connectLabels 0 ++ [.send 0, .startRound, .runtime 1]) ->
      NothingPosted t l := by
    intro t l hl i hpost
    simp [hpost, connectLabels] at hl
  have hrun := (replay_run hs).restrict hquiet
  exact ⟨s, task, replay_reachable hs, htask,
    TaskKind.round_of_isRound hwaits.left, hwaits.right,
    (monitorAdvances_iff (replay_reachable hs)).right
      (hrun.reachable (Transition.System.Reachable.init rfl))⟩

end ConveyorModbus
