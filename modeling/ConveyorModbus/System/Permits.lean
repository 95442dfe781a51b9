import ConveyorModbus.System.Progress
import ConveyorModbus.System.Serving

/-!
# Permits come free

A task with a permit can give it back by its own steps: it finishes taking a
connection, makes its call and drops the connection, or fails to connect.  So a
request that waits for a permit can still be served to its end.
-/

namespace ConveyorModbus

open Counting Effects Program

/-- A run by the steps of task `j` alone, after which pool `p` has a permit and
no more stale connections than before. -/
structure Frees (d : Deployment) (j p : Nat) (s s' : State) : Prop where
  own : OwnRun d j s s'
  service : s'.service = s.service
  others : forall i, i ≠ j -> s'.tasks[i]? = s.tasks[i]?
  free : exists slots, s'.pools[p]? = some slots ∧ 0 < slots.permits
  idle : s'.staleIdle p ≤ s.staleIdle p

section Frees

variable {d : Deployment} {s t s' : State} {j p : Nat} {task' : Task} {l : Label}

theorem setTask_others (htasks : t.tasks = s.tasks) {i : Nat} (hne : i ≠ j) :
    (t.setTask j task').tasks[i]? = s.tasks[i]? := by
  rw [State.setTask, htasks, List.getElem?_set_ne (Ne.symm hne)]

theorem Frees.last (hstep : Step d s l (t.setTask j task'))
    (hl : l.task = some j) (htasks : t.tasks = s.tasks)
    (hservice : t.service = s.service)
    (hfree : exists slots, t.pools[p]? = some slots ∧ 0 < slots.permits)
    (hidle : t.staleIdle p ≤ s.staleIdle p) :
    Frees d j p s (t.setTask j task') where
  own := OwnRun.step hstep hl (OwnRun.refl _)
  service := hservice
  others _ hne := setTask_others htasks hne
  free := hfree
  idle := hidle

theorem Frees.step (hstep : Step d s l (t.setTask j task'))
    (hl : l.task = some j) (htasks : t.tasks = s.tasks)
    (hservice : t.service = s.service)
    (hidle : t.staleIdle p ≤ s.staleIdle p)
    (h : Frees d j p (t.setTask j task') s') : Frees d j p s s' where
  own := OwnRun.step hstep hl h.own
  service := h.service.trans hservice
  others i hne := (h.others i hne).trans (setTask_others htasks hne)
  free := h.free
  idle := Nat.le_trans h.idle hidle

end Frees

/-!
## With a connection
-/

section Connection

variable {d : Deployment} {s : State} {j : Nat} {task : Task} {object : Object}

theorem used_frees (hs : Reachable d s) (htask : s.tasks[j]? = some task)
    (hholding : task.holding = .used object) (hphase : task.phase = .ready) :
    exists s', Frees d j object.pool.id s s' := by
  have hwired := (reachable_wired hs).tasks task (List.mem_of_getElem? htask)
  have hdisciplined := hwired.disciplined
  rw [hholding] at hdisciplined
  rcases head_of_used hdisciplined with ⟨k, hprogram⟩
  rcases (hwired.object_of_release hprogram).left with ⟨slots, hslots, _⟩
  have hrelease := Step.release (d := d) htask hprogram hphase hslots
  have hquiet := staleOn_eq_zero
    ((reachable_staleInvariant hs).used j task object htask hholding hphase)
  refine ⟨_, Frees.last hrelease rfl rfl rfl ?_
    (staleIdle_giveBack hslots hquiet _)⟩
  refine ⟨slots.giveBack object.connection, ?_, Nat.succ_pos _⟩
  rw [getElem?_setPool hslots, if_pos rfl]

/-- A call can always end by its timeout. -/
theorem fresh_frees (hs : Reachable d s) (htask : s.tasks[j]? = some task)
    (hholding : task.holding = .fresh object)
    (hphase : task.phase = .ready ∨ task.phase = .inFlight) :
    exists s', Frees d j object.pool.id s s' := by
  have hwired := (reachable_wired hs).tasks task (List.mem_of_getElem? htask)
  have hdisciplined := hwired.disciplined
  rw [hholding] at hdisciplined
  rcases head_of_fresh hdisciplined with ⟨request, k, hprogram⟩
  have htimeout := Step.operationTimeout (d := d) htask hprogram hphase
  have hused : (task.resume (.call object.connection.operationTimeout object
      request) (CallResult.timedOut task.phase.isInFlight) k).holding =
        .used object.markUnhealthy := by
    rw [Task.holding_resume]
    rfl
  rcases used_frees (Transition.System.Reachable.step hs htimeout)
    (getElem?_setTask htask rfl _) hused rfl with ⟨s', hfrees⟩
  exact ⟨s', Frees.step htimeout rfl rfl rfl (Nat.le_refl _) hfrees⟩

end Connection

/-!
## Inside `pool.get()`
-/

section Getting

variable {d : Deployment} {s : State} {j : Nat} {task : Task} {pool : Pool}
  {k : Except PoolError Object -> ServiceProgram TaskOutput}

theorem yielded_frees (hs : Reachable d s) (htask : s.tasks[j]? = some task)
    {connection : ManagedConnection} {t : State} {l : Label}
    (hstep : Step d s l (t.setTask j
      (task.resume (.get pool) (.ok { pool, connection }) k)))
    (hl : l.task = some j) (htasks : t.tasks = s.tasks)
    (hservice : t.service = s.service)
    (hidle : t.staleIdle pool.id ≤ s.staleIdle pool.id) :
    exists s', Frees d j pool.id s s' := by
  have hfresh : (task.resume (.get pool) (.ok { pool, connection })
      k).holding = .fresh { pool, connection } := by
    rw [Task.holding_resume]
    cases task.holding <;> rfl
  rcases fresh_frees (Transition.System.Reachable.step hs hstep)
    (getElem?_setTask htask htasks _) hfresh (Or.inl rfl) with ⟨s', hfrees⟩
  exact ⟨s', Frees.step hstep hl htasks hservice hidle hfrees⟩

theorem creating_frees
    (rest : NetProgram (Except ManagerError ManagedConnection))
    (hs : Reachable d s) (htask : s.tasks[j]? = some task)
    (hprogram : task.program = perform (.get pool) k)
    (hphase : task.phase = .creating rest) :
    exists s', Frees d j pool.id s s' := by
  -- the induction is on what is left of `create`
  induction rest generalizing s task with
  | ret result =>
      cases result with
      | ok connection =>
          exact yielded_frees hs htask
            (Step.createOk htask hprogram hphase) rfl rfl rfl (Nat.le_refl _)
      | error err =>
          have hwired :=
            (reachable_wired hs).tasks task (List.mem_of_getElem? htask)
          rcases hwired.handle_of_get hprogram with ⟨slots, hslots, _⟩
          have hcreated := Step.createErr (d := d) htask hprogram hphase hslots
          refine ⟨_, Frees.last hcreated rfl rfl rfl ?_
            (staleIdle_setPool_le hslots slots.returnPermit (Nat.le_refl _) _)⟩
          refine ⟨slots.returnPermit, ?_, Nat.succ_pos _⟩
          rw [getElem?_setPool hslots, if_pos rfl]
  | perform e rest ih =>
      have hnext : forall (t : State) (l : Label) (r : e.Reply),
          Step d s l (t.setTask j (task.enter (.creating (rest r)))) ->
          l.task = some j -> t.tasks = s.tasks -> t.service = s.service ->
          t.staleIdle pool.id ≤ s.staleIdle pool.id ->
          exists s', Frees d j pool.id s s' := by
        intro t l r hstep hl htasks hservice hidle
        rcases ih r (Transition.System.Reachable.step hs hstep)
          (getElem?_setTask htask htasks _) hprogram rfl with ⟨s', hfrees⟩
        exact ⟨s', Frees.step hstep hl htasks hservice hidle hfrees⟩
      cases e with
      | connect connectTimeout addr =>
          exact hnext _ _ _ (Step.connected htask hprogram hphase) rfl rfl rfl
            (Nat.le_refl _)
      | sleep delay =>
          exact hnext _ _ _ (Step.slept htask hprogram hphase) rfl rfl rfl
            (Nat.le_refl _)
      | disconnect context =>
          have hwired :=
            (reachable_wired hs).tasks task (List.mem_of_getElem? htask)
          rcases hwired.holding_of_get hprogram with ⟨runtime, hholding, _⟩
          have hopening := hwired.phase
          rw [hholding, hphase] at hopening
          rcases hopening with ⟨opening, hrest⟩
          cases opening <;> exact hrest.left.elim

/-- The permit comes free from here, if it does from `popping` with this queue. -/
theorem recycling_frees {idle : List ManagedConnection}
    (hpopping : forall {s : State} {task : Task} {slots : PoolState},
      Reachable d s -> s.tasks[j]? = some task ->
      task.program = perform (.get pool) k -> task.phase = .popping ->
      s.pools[pool.id]? = some slots -> slots.idle = idle ->
      exists s', Frees d j pool.id s s')
    {connection : ManagedConnection}
    {rest : NetProgram (Except RecycleError Unit × ManagedConnection)}
    (hrest : pool.manager.Recycling connection rest) {slots : PoolState}
    (hs : Reachable d s) (htask : s.tasks[j]? = some task)
    (hprogram : task.program = perform (.get pool) k)
    (hphase : task.phase = .recycling connection rest)
    (hslots : s.pools[pool.id]? = some slots) (hidle : slots.idle = idle) :
    exists s', Frees d j pool.id s s' := by
  induction hrest generalizing s task with
  | accepted hstatus =>
      exact yielded_frees hs htask
        (Step.recycleOk htask hprogram hphase) rfl rfl rfl (Nat.le_refl _)
  | closing hstatus hnext ih =>
      rename_i next
      have hclosed : Step d s (.disconnected j (.ok ())) _ :=
        Step.disconnected htask hprogram hphase
      have hrecycling := getElem?_setTask htask rfl
        (task.enter (.recycling connection (next (.ok ()))))
      rcases ih (.ok ()) (Transition.System.Reachable.step hs hclosed)
        hrecycling hprogram rfl hslots with ⟨s', hfrees⟩
      exact ⟨s', Frees.step hclosed rfl rfl rfl (Nat.le_refl _) hfrees⟩
  | refused hstatus =>
      have hdiscarded := Step.recycleErr (d := d) htask hprogram hphase
      have hagain := getElem?_setTask htask rfl (task.enter .popping)
      rcases hpopping (Transition.System.Reachable.step hs hdiscarded) hagain
        hprogram rfl hslots hidle with ⟨s', hfrees⟩
      exact ⟨s', Frees.step hdiscarded rfl rfl rfl (Nat.le_refl _) hfrees⟩

theorem popping_frees (idle : List ManagedConnection) {slots : PoolState}
    (hs : Reachable d s) (htask : s.tasks[j]? = some task)
    (hprogram : task.program = perform (.get pool) k)
    (hphase : task.phase = .popping)
    (hslots : s.pools[pool.id]? = some slots) (hidle : slots.idle = idle) :
    exists s', Frees d j pool.id s s' := by
  -- the induction is on the idle queue
  induction idle generalizing s task slots with
  | nil =>
      have hpop := Step.popEmpty (d := d) htask hprogram hphase hslots hidle
      have hcreating := getElem?_setTask htask rfl
        (task.enter (.creating (pool.manager.create SocketAddr.fromStr)))
      rcases creating_frees _ (Transition.System.Reachable.step hs hpop)
        hcreating hprogram rfl with ⟨s', hfrees⟩
      exact ⟨s', Frees.step hpop rfl rfl rfl (Nat.le_refl _) hfrees⟩
  | cons connection idle ih =>
      have hhead : slots.idle[0]? = some connection := by
        rw [hidle]
        rfl
      have hpop := Step.popIdle (d := d) htask hprogram hphase hslots hhead
      have hrecycling := getElem?_setTask
        (t := s.setPool pool.id (slots.removeIdle 0)) htask rfl
        (task.enter (.recycling connection (pool.manager.recycle connection)))
      have hslots' : (s.setPool pool.id (slots.removeIdle 0)).pools[pool.id]? =
          some (slots.removeIdle 0) := by
        rw [getElem?_setPool hslots, if_pos rfl]
      have hrest : (slots.removeIdle 0).idle = idle := by
        simp [PoolState.removeIdle, hidle]
      rcases recycling_frees ih
        (ModbusManager.recycle_recycling pool.manager connection)
        (Transition.System.Reachable.step hs hpop) hrecycling hprogram rfl
        hslots' hrest with ⟨s', hfrees⟩
      exact ⟨s', Frees.step hpop rfl rfl rfl
        (Nat.le.intro (staleIdle_removeIdle hslots hhead)) hfrees⟩

theorem getting_frees (hs : Reachable d s) (htask : s.tasks[j]? = some task)
    (hprogram : task.program = perform (.get pool) k)
    (hready : task.phase ≠ .ready) (hdropped : task.phase ≠ .dropped) :
    exists s', Frees d j pool.id s s' := by
  have hwired := (reachable_wired hs).tasks task (List.mem_of_getElem? htask)
  rcases hwired.handle_of_get hprogram with ⟨slots, hslots, _⟩
  rcases hwired.holding_of_get hprogram with ⟨runtime, hholding, hpool⟩
  have hphase := hwired.phase
  rw [hholding] at hphase
  cases hwhere : task.phase with
  | ready => exact absurd hwhere hready
  | dropped => exact absurd hwhere hdropped
  | popping => exact popping_frees _ hs htask hprogram hwhere hslots rfl
  | recycling connection rest =>
      rw [hwhere] at hphase
      rcases hphase with ⟨_, hrest⟩
      rw [hpool] at hrest
      exact recycling_frees (popping_frees slots.idle) hrest hs htask hprogram
        hwhere hslots rfl
  | creating rest => exact creating_frees rest hs htask hprogram hwhere
  | inFlight =>
      rw [hwhere] at hphase
      exact hphase.elim
  | posting =>
      rw [hwhere] at hphase
      exact hphase.elim

end Getting

/-!
## Every holder
-/

section Holders

variable {d : Deployment} {s : State}

theorem holder_frees (hs : Reachable d s) {j p : Nat} {task : Task}
    (htask : s.tasks[j]? = some task) (hpermit : 0 < task.claim.permits p) :
    exists s', Frees d j p s s' := by
  have hwired := reachable_wired hs
  rcases holder_cases hwired htask hpermit with
    ⟨hdropped, ⟨pool, k, hprogram, hready, rfl⟩ | ⟨object, hholding, rfl⟩⟩
  · exact getting_frees hs htask hprogram hready hdropped
  · rcases hholding with hfresh | hused
    · exact fresh_frees hs htask hfresh
        (phase_of_fresh hwired htask hfresh hdropped)
    · exact used_frees hs htask hused
        (phase_of_used hwired htask hused hdropped)

theorem FreePermit.of_freed {address : String} {slaveId : UInt8}
    {runtime : ModbusRuntime}
    (hlookup : s.service.lookup address slaveId = some runtime)
    (hfree : exists slots, s.pools[runtime.pool.id]? = some slots ∧
      0 < slots.permits) : FreePermit s address slaveId := by
  intro other slots hother hslots
  rcases hfree with ⟨freed, hfreed, hpos⟩
  rw [hlookup, Option.some.injEq] at hother
  rw [<- hother, hfreed, Option.some.injEq] at hslots
  rw [<- hslots]
  exact hpos

/-- A permit of the target is free, or another task can free one of its own. -/
theorem freePermit_or_holder (hs : Reachable d s) {i : Nat} {task : Task}
    (htask : s.tasks[i]? = some task) (hclaim : task.claim = .nothing)
    (address : String) (slaveId : UInt8) :
    FreePermit s address slaveId ∨
      exists j holder runtime s', i ≠ j ∧
        s.service.lookup address slaveId = some runtime ∧
        s.tasks[j]? = some holder ∧ holder.permitOf = some runtime.pool.id ∧
        Frees d j runtime.pool.id s s' := by
  by_cases hfree : FreePermit s address slaveId
  · exact Or.inl hfree
  · simp only [FreePermit, not_forall] at hfree
    rcases hfree with ⟨runtime, slots, hlookup, hslots, hnone⟩
    rcases exists_holder hs hslots (by omega) with ⟨j, holder, hholder, hpermit⟩
    have hne : i ≠ j := by
      rintro rfl
      rw [htask, Option.some.injEq] at hholder
      rw [<- hholder, hclaim] at hpermit
      cases hpermit
    rcases holder_frees hs hholder hpermit with ⟨s', hfrees⟩
    exact Or.inr ⟨j, holder, runtime, s', hne, hlookup, hholder,
      (holder_moves (reachable_wired hs) hholder hpermit).left, hfrees⟩

/-- From every reachable state a free permit of the target can be reached
without a step of the waiting task `i`. -/
theorem reaches_freePermit (hs : Reachable d s) {i : Nat} {task : Task}
    (htask : s.tasks[i]? = some task) (hclaim : task.claim = .nothing)
    (address : String) (slaveId : UInt8) :
    exists ls s', (machine d).Run s ls s' ∧ s'.tasks[i]? = some task ∧
      FreePermit s' address slaveId := by
  rcases freePermit_or_holder hs htask hclaim address slaveId with
    hfree | ⟨j, holder, runtime, s', hne, hlookup, _, _, hfrees⟩
  · exact ⟨[], s, Transition.System.Run.nil s, htask, hfree⟩
  · rcases hfrees.own with ⟨ls, hrun, _⟩
    refine ⟨ls, s', hrun, (hfrees.others i hne).trans htask, ?_⟩
    rw [<- hfrees.service] at hlookup
    exact FreePermit.of_freed hlookup hfrees.free

end Holders

/-!
## Stale connections are used up
-/

section Stale

variable {d : Deployment} {s : State} {request : ConveyorRequest} {plan : Plan}
  {runtime : ModbusRuntime}

/-- A task may take any idle connection, and can have it failed. -/
theorem taken_frees (hs : Reachable d s) {j : Nat} {task : Task} {pool : Pool}
    {k : Except PoolError Object -> ServiceProgram TaskOutput}
    (htask : s.tasks[j]? = some task)
    (hprogram : task.program = perform (.get pool) k)
    (hphase : task.phase = .ready) {slots : PoolState}
    (hslots : s.pools[pool.id]? = some slots) (hfree : 0 < slots.permits)
    {n : Nat} {connection : ManagedConnection}
    (hidle : slots.idle[n]? = some connection)
    (hstatus : connection.status = true) :
    exists s', Frees d j pool.id s s' ∧
      s'.staleIdle pool.id + s.staleOn connection ≤ s.staleIdle pool.id := by
  have hacquire := Step.acquire (d := d) htask hprogram hphase hslots hfree
  have hpopping := getElem?_setTask (t := s.setPool pool.id slots.takePermit)
    htask rfl (task.enter .popping)
  have htaken : (s.setPool pool.id slots.takePermit).pools[pool.id]? =
      some slots.takePermit := by
    rw [getElem?_setPool hslots, if_pos rfl]
  have hpop := Step.popIdle (d := d) hpopping hprogram rfl htaken hidle
  rw [ModbusManager.recycle_of_status hstatus] at hpop
  have hrecycling := getElem?_setTask
    (t := (State.setTask _ j _).setPool pool.id (slots.takePermit.removeIdle n))
    hpopping rfl
    ((task.enter .popping).enter (.recycling connection (ret (.ok (), connection))))
  have hgot := Transition.System.Reachable.step
    (Transition.System.Reachable.step hs hacquire) hpop
  rcases yielded_frees hgot hrecycling
    (Step.recycleOk hrecycling hprogram rfl) rfl rfl rfl (Nat.le_refl _) with
    ⟨s', hfrees⟩
  have hbefore : (s.setPool pool.id slots.takePermit).staleIdle pool.id ≤
      s.staleIdle pool.id :=
    staleIdle_setPool_le hslots slots.takePermit (Nat.le_refl _) _
  have hspent : ((s.setPool pool.id slots.takePermit).setPool pool.id
      (slots.takePermit.removeIdle n)).staleIdle pool.id +
        s.staleOn connection =
          (s.setPool pool.id slots.takePermit).staleIdle pool.id :=
    staleIdle_removeIdle htaken hidle
  have hafter : s'.staleIdle pool.id ≤
      ((s.setPool pool.id slots.takePermit).setPool pool.id
        (slots.takePermit.removeIdle n)).staleIdle pool.id := hfrees.idle
  refine ⟨s', Frees.step hacquire rfl rfl rfl hbefore
    (Frees.step hpop rfl rfl rfl (Nat.le.intro hspent) hfrees), ?_⟩
  omega

/-- With a free permit, one more request to the target fails and has a stale
connection discarded. -/
theorem stale_spent (hs : Reachable d s) {request : ConveyorRequest}
    {plan : Plan} (hplan : request.plan d.conveyor = some plan)
    {runtime : ModbusRuntime}
    (hlookup : s.service.lookup plan.device plan.slaveId = some runtime)
    (hfree : FreePermit s plan.device plan.slaveId)
    (hstale : 0 < s.staleIdle runtime.pool.id) :
    exists ls s', (machine d).Run s (.spawn request :: ls) s' ∧
      s'.service = s.service ∧
      (forall (i : Nat) (task : Task), s.tasks[i]? = some task ->
        s'.tasks[i]? = some task) ∧
      FreePermit s' plan.device plan.slaveId ∧
      s'.staleIdle runtime.pool.id < s.staleIdle runtime.pool.id := by
  rcases ((reachable_wired hs).pools.built _ _ hlookup).right with
    ⟨slots, hslots, _⟩
  rw [staleIdle_eq hslots] at hstale
  rcases exists_of_total_pos _ hstale with ⟨connection, hmem, hpos⟩
  rcases List.getElem?_of_mem hmem with ⟨n, hidle⟩
  have hstatus : connection.status = true := by
    by_contra hno
    rw [State.staleOn, if_neg (fun h => hno h.left)] at hpos
    cases hpos
  rcases handler_starts hplan with ⟨k, hfirst, _, _⟩
  have hspawned : Reachable d
      (s.addTask (Task.start d.conveyor (.handler request))) :=
    Transition.System.Reachable.step hs Step.spawn
  have hstarted := getElem?_addTask s
    (Task.start d.conveyor (.handler request))
  have hhit := Step.runtimeHit (d := d) hstarted hfirst rfl hlookup
  have hlooked := getElem?_setTask hstarted rfl
    ((Task.start d.conveyor (.handler request)).resume
      (.runtime plan.device plan.slaveId) runtime
      (fun runtime => perform (.get runtime.pool) (k runtime)))
  rcases taken_frees (Transition.System.Reachable.step hspawned hhit) hlooked
    rfl rfl hslots (hfree runtime slots hlookup hslots) hidle hstatus with
    ⟨s', hfrees, hspent⟩
  rcases hfrees.own with ⟨ls, hrun, _⟩
  have hservice : s'.service = s.service := hfrees.service
  refine ⟨_, s', Transition.System.Run.cons Step.spawn
    (Transition.System.Run.cons hhit hrun), hservice, ?_, ?_, ?_⟩
  · intro i task htask
    have hi : i < s.tasks.length := (List.getElem?_eq_some_iff.mp htask).1
    rw [hfrees.others i (Nat.ne_of_lt hi), State.setTask,
      List.getElem?_set_ne (Nat.ne_of_gt hi)]
    exact getElem?_concat_of_some htask _
  · rw [<- hservice] at hlookup
    exact FreePermit.of_freed hlookup hfrees.free
  · have hsame : s'.staleIdle runtime.pool.id + s.staleOn connection ≤
        s.staleIdle runtime.pool.id := hspent
    omega

/-- The stale connections of the target can be used up while task `i` waits. -/
theorem reaches_quietIdle (hs : Reachable d s) {i : Nat} {task : Task}
    (htask : s.tasks[i]? = some task) {request : ConveyorRequest} {plan : Plan}
    (hplan : request.plan d.conveyor = some plan)
    (hfree : FreePermit s plan.device plan.slaveId) :
    exists ls s', (machine d).Run s ls s' ∧ s'.tasks[i]? = some task ∧
      FreePermit s' plan.device plan.slaveId ∧
      QuietIdle s' plan.device plan.slaveId := by
  cases hlookup : s.service.lookup plan.device plan.slaveId with
  | none =>
      exact ⟨[], s, Transition.System.Run.nil s, htask, hfree,
        fun runtime h => by rw [hlookup] at h; cases h⟩
  | some runtime =>
      induction hcount : s.staleIdle runtime.pool.id using
        Nat.strong_induction_on generalizing s with
      | _ count ih =>
          by_cases hnone : s.staleIdle runtime.pool.id = 0
          · exact ⟨[], s, Transition.System.Run.nil s, htask, hfree,
              QuietIdle.of_lookup hlookup hnone⟩
          · rcases stale_spent hs hplan hlookup hfree (Nat.pos_of_ne_zero hnone)
              with ⟨ls, t, hrun, hservice, hothers, hfreed, hless⟩
            rw [<- hservice] at hlookup
            rcases ih _ (hcount ▸ hless) (hrun.reachable hs) (hothers i task htask)
              hfreed hlookup rfl with ⟨ls', s', hrun', hafter⟩
            exact ⟨_, s', hrun.append hrun', hafter⟩

end Stale

/-- A handler of a plan for a parsable address can always be run to a successful
end. -/
theorem handler_reaches_end {d : Deployment} {s : State} (hs : Reachable d s)
    {request : ConveyorRequest} {plan : Plan} {addr : SocketAddr}
    (hplan : request.plan d.conveyor = some plan)
    (hparse : SocketAddr.fromStr plan.device = some addr) :
    exists ls s' task runtime object answer,
      (machine d).Run s (.spawn request :: ls) s' ∧
      s'.tasks[s.tasks.length]? = some task ∧
      task.kind = .handler request ∧
      task.program = ret (.response (plan.respond (.ok answer))) ∧
      task.log =
        ModbusService.connectionEvents plan.device plan.slaveId runtime
            (.ok object) ++
          ModbusService.callEvents object plan.request
            (CallResult.replied (.ok answer)) := by
  have hspawned : Reachable d
      (s.addTask (Task.start d.conveyor (.handler request))) :=
    Transition.System.Reachable.step hs Step.spawn
  have hstarted := getElem?_addTask s
    (Task.start d.conveyor (.handler request))
  rcases reaches_freePermit hspawned hstarted rfl plan.device plan.slaveId with
    ⟨freeing, t, hfreeing, hwaiting, hfree⟩
  have ht := hfreeing.reachable hspawned
  rcases reaches_quietIdle ht hwaiting hplan hfree with
    ⟨spending, u, hspending, hstill, hfree', hquiet⟩
  rcases handler_served (hspending.reachable ht) hstill hplan hparse hfree'
    hquiet with
    ⟨s', task, runtime, object, answer, ⟨serving, hserving, _⟩, htask, hend⟩
  exact ⟨_, s', task, runtime, object, answer, Transition.System.Run.cons
    Step.spawn (hfreeing.append (hspending.append hserving)), htask, hend⟩

end ConveyorModbus
