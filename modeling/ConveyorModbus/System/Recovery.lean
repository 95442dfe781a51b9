import ConveyorModbus.System.Abstraction
import ConveyorModbus.System.Replay

/-!
# Recovery from broken connections

An operation that ends in a transport error or a timeout is the last one on its
connection, and a connection no operation failed on passes recycling.  So
whatever happens at a device, the connections a pool has at some instant fail
at most as many operations as the pool has places.
-/

namespace ConveyorModbus

open Effects Program Counting

/-!
## The operations that failed

The log of a task holds its finished calls.  The history `failed` of the state
lists the same failures in the order they happened.
-/

def failedOn : ServiceEvent -> Option Object
  | ⟨.call _ object _, result⟩ =>
      if result.outcome.answered then none else some object
  | _ => none

/-- The connections on which an operation of the task ended in a transport
error or a timeout. -/
def Task.failedCalls (task : Task) : List Object :=
  task.log.filterMap failedOn

theorem failedCalls_resume (task : Task) (e : ServiceEffect) (r : e.Reply)
    (k : e.Reply -> ServiceProgram TaskOutput) :
    (task.resume e r k).failedCalls =
      task.failedCalls ++ (failedOn ⟨e, r⟩).toList := by
  simp only [Task.failedCalls, Task.resume, List.filterMap_append]
  cases h : failedOn ⟨e, r⟩ <;> simp [h]

def State.loggedFailures (w : Object -> Nat) (s : State) : Nat :=
  total (fun task => total w task.failedCalls) s.tasks

def FailuresLogged (s : State) : Prop :=
  forall w, total w s.failed = s.loggedFailures w

section Logged

variable {s : State} {i : Nat} {task task' : Task}

theorem logged_same (h : FailuresLogged s) (htask : s.tasks[i]? = some task)
    {t : State} (htasks : t.tasks = s.tasks) (hfailed : t.failed = s.failed)
    (hcalls : task'.failedCalls = task.failedCalls) :
    FailuresLogged (t.setTask i task') := by
  intro w
  have hset := total_set (fun task => total w task.failedCalls) htask task'
  have hbefore := h w
  simp only [State.loggedFailures, State.setTask, htasks] at hbefore ⊢
  rw [show total w t.failed = total w s.failed by rw [hfailed]]
  rw [hcalls] at hset
  omega

theorem logged_resume (h : FailuresLogged s) (htask : s.tasks[i]? = some task)
    {t : State} (htasks : t.tasks = s.tasks) (hfailed : t.failed = s.failed)
    {e : ServiceEffect} {r : e.Reply}
    {k : e.Reply -> ServiceProgram TaskOutput}
    (hevent : failedOn ⟨e, r⟩ = none) :
    FailuresLogged (t.setTask i (task.resume e r k)) := by
  apply logged_same h htask htasks hfailed
  rw [failedCalls_resume, hevent]
  exact List.append_nil _

theorem logged_failure (h : FailuresLogged s) (htask : s.tasks[i]? = some task)
    {object : Object} {e : ServiceEffect} {r : e.Reply}
    {k : e.Reply -> ServiceProgram TaskOutput}
    (hevent : failedOn ⟨e, r⟩ = some object) :
    FailuresLogged ((s.recordFailure object).setTask i (task.resume e r k)) := by
  intro w
  have hset := total_set (fun task => total w task.failedCalls) htask
    (task.resume e r k)
  have hbefore := h w
  have hfailed : total w (s.recordFailure object).failed =
      total w s.failed + w object := by
    simp [State.recordFailure]
  simp only [failedCalls_resume, hevent, total_append, Option.toList_some,
    total_cons, total_nil] at hset
  simp only [State.loggedFailures, State.setTask] at hbefore ⊢
  show total w (s.recordFailure object).failed =
    total (fun task => total w task.failedCalls)
      (s.tasks.set i (task.resume e r k))
  omega

theorem logged_addTask (h : FailuresLogged s) (conveyor : ConveyorConfig)
    (kind : TaskKind) :
    FailuresLogged (s.addTask (Task.start conveyor kind)) := by
  intro w
  have hbefore := h w
  simp only [State.loggedFailures, State.addTask, total_append, total_cons,
    total_nil] at hbefore ⊢
  have hnone : (Task.start conveyor kind).failedCalls = [] := rfl
  rw [hnone, total_nil]
  exact hbefore

end Logged

theorem failuresLogged_step {d : Deployment} {s s' : State} {l : Label}
    (h : FailuresLogged s) (hstep : Step d s l s') : FailuresLogged s' := by
  cases hstep with
  | spawn => exact logged_addTask h _ _
  | startRound => exact logged_addTask h _ _
  | runtimeHit htask => exact logged_resume h htask rfl rfl rfl
  | runtimeMiss htask => exact logged_resume h htask rfl rfl rfl
  | acquire htask => exact logged_same h htask rfl rfl rfl
  | popIdle htask => exact logged_same h htask rfl rfl rfl
  | popEmpty htask => exact logged_same h htask rfl rfl rfl
  | disconnected htask => exact logged_same h htask rfl rfl rfl
  | recycleOk htask => exact logged_resume h htask rfl rfl rfl
  | recycleErr htask => exact logged_same h htask rfl rfl rfl
  | connected htask => exact logged_same h htask rfl rfl rfl
  | refused htask => exact logged_same h htask rfl rfl rfl
  | connectTimeout htask => exact logged_same h htask rfl rfl rfl
  | slept htask => exact logged_same h htask rfl rfl rfl
  | createOk htask => exact logged_resume h htask rfl rfl rfl
  | createErr htask => exact logged_resume h htask rfl rfl rfl
  | send htask => exact logged_same h htask rfl rfl rfl
  | answer htask => exact logged_resume h htask rfl rfl rfl
  | transportError htask => exact logged_failure h htask rfl
  | operationTimeout htask => exact logged_failure h htask rfl
  | release htask => exact logged_resume h htask rfl rfl rfl
  | post htask => exact logged_same h htask rfl rfl rfl
  | posted htask => exact logged_resume h htask rfl rfl rfl
  | cancelWaiting htask => exact logged_same h htask rfl rfl rfl
  | cancelGetting htask => exact logged_same h htask rfl rfl rfl
  | cancelCall htask => exact logged_same h htask rfl rfl rfl

theorem reachable_failuresLogged {d : Deployment} {s : State}
    (h : Reachable d s) : FailuresLogged s := by
  apply h.invariant
  · rintro s rfl w
    rfl
  · intro s l s' _ hlogged hstep
    exact failuresLogged_step hlogged hstep

/-- The history and the logs hold the same failures. -/
theorem mem_failed_iff {d : Deployment} {s : State} (h : Reachable d s)
    (object : Object) :
    object ∈ s.failed <->
      exists task, task ∈ s.tasks ∧ object ∈ task.failedCalls := by
  let w := fun other => if other = object then 1 else 0
  have hself : w object = 1 := if_pos rfl
  have hfound : forall other, 0 < w other -> other = object := by
    intro other hpos
    by_contra hne
    simp [w, hne] at hpos
  have hlogged := reachable_failuresLogged h w
  constructor
  · intro hfailed
    have hle := weight_le_total w hfailed
    rcases exists_of_total_pos (fun task => total w task.failedCalls)
      (l := s.tasks) (by unfold State.loggedFailures at hlogged; omega) with
      ⟨task, htask, hpos⟩
    rcases exists_of_total_pos w hpos with ⟨other, hother, hone⟩
    exact ⟨task, htask, hfound other hone ▸ hother⟩
  · intro h
    rcases h with ⟨task, htask, hobject⟩
    have hcalls := weight_le_total w hobject
    have htasks := weight_le_total (fun task => total w task.failedCalls) htask
    unfold State.loggedFailures at hlogged
    rcases exists_of_total_pos w (l := s.failed) (by omega) with
      ⟨other, hother, hpos⟩
    exact hfound other hpos ▸ hother

def NeverFailed (s : State) (stream : Nat) : Prop :=
  forall task, task ∈ s.tasks -> forall failed, failed ∈ task.failedCalls ->
    failed.connection.context.stream ≠ stream

theorem neverFailed_iff {d : Deployment} {s : State} (h : Reachable d s)
    (stream : Nat) :
    NeverFailed s stream <-> forall failed, failed ∈ s.failed ->
      failed.connection.context.stream ≠ stream := by
  constructor
  · intro hnever failed hfailed
    rcases (mem_failed_iff h failed).mp hfailed with ⟨task, htask, hcall⟩
    exact hnever task htask failed hcall
  · intro hnever task htask failed hfailed
    exact hnever failed ((mem_failed_iff h failed).mpr ⟨task, htask, hfailed⟩)

section Operations

variable {address : String} {slaveId : UInt8} {registerAddress : UInt16}
  {l : List ServiceEvent}

theorem operate_failed_iff {T : Type} {request : ModbusRequest}
    {finish : CallOutcome request.Answer -> Except ModbusError T}
    (hfinish : forall outcome, (exists err, finish outcome = .error err ∧
      ModbusService.isTransport err = true) <-> outcome.answered = false)
    {out : Except ModbusError T}
    (h : Returns (ModbusService.operate address slaveId request finish) l out) :
    (exists err, out = .error err ∧ ModbusService.isTransport err = true) <->
      exists object, object ∈ l.filterMap failedOn := by
  rcases ModbusService.operate_returns_iff.mp h with
    ⟨runtime, err, rfl, rfl⟩ | ⟨runtime, object, result, rfl, rfl⟩
  · simp [ModbusService.connectionEvents, failedOn, ModbusService.isTransport]
  · rw [hfinish]
    cases hanswered : result.outcome.answered <;>
      simp [ModbusService.connectionEvents, ModbusService.callEvents, failedOn,
        hanswered]

end Operations

/-!
## Connections that failed
-/

theorem failed_stream_ne {d : Deployment} {s : State} (hs : Reachable d s)
    {i : Nat} {object : Object}
    (hclient : s.custodies.clients[i]? = some (.holding object.token))
    (hhealthy : object.token.healthy = true) :
    forall failed, failed ∈ s.failed ->
      failed.connection.context.stream ≠
        object.connection.context.stream := by
  intro failed hfailed heq
  have hinv := ConnectionPool.reachable_streamInvariant (reachable_custodies hs)
  have hgone := hinv.failed_gone failed.token (List.mem_map_of_mem hfailed)
  have hle := ConnectionPool.weigh_client_le
    (w := ConnectionPool.healthyOn failed.token.stream) hclient
  have hone : ConnectionPool.healthyOn failed.token.stream object.token = 1 := by
    have hstatus : object.connection.status = true := hhealthy
    simp [ConnectionPool.healthyOn, hstatus, Object.token, heq]
  rw [ConnectionPool.Custody.weigh_holding] at hle
  omega

theorem send_neverFailed {d : Deployment} {s s' : State} {i : Nat}
    (hs : Reachable d s) (hstep : Step d s (.send i) s') :
    exists task operationTimeout object request k,
      s.tasks[i]? = some task ∧
      task.program = perform (.call operationTimeout object request) k ∧
      NeverFailed s object.connection.context.stream := by
  cases hstep with
  | send htask hprogram hphase =>
      rename_i task operationTimeout object request k
      have hwired := (reachable_wired hs).tasks task
        (List.mem_of_getElem? htask)
      have hclient := custodies_client htask
      rw [claim_eq (hwired.holding_of_call hprogram) hphase] at hclient
      exact ⟨task, operationTimeout, object, request, k, htask, hprogram,
        (neverFailed_iff hs _).mpr (failed_stream_ne hs hclient
          (hwired.object_of_call hprogram).right.right)⟩

theorem idle_healthy {d : Deployment} {s : State} (hs : Reachable d s)
    {n : Nat} {slots : PoolState} (hslots : s.pools[n]? = some slots)
    {connection : ManagedConnection} (hidle : connection ∈ slots.idle)
    (hnever : NeverFailed s connection.context.stream) :
    connection.status = true := by
  rw [neverFailed_iff hs] at hnever
  have hzero := ConnectionPool.unhealthyOn_eq_zero (reachable_custodies hs)
    (n := connection.context.stream) (by
      intro token htoken
      rcases List.mem_map.mp htoken with ⟨failed, hfailed, rfl⟩
      exact hnever failed hfailed)
  have hshelf := List.mem_of_getElem? (custodies_shelf hslots)
  have htoken : Object.token { pool := slots.pool, connection } ∈
      slots.shelf.idle :=
    List.mem_map_of_mem (f := fun connection =>
      Object.token { pool := slots.pool, connection }) hidle
  have hle := weight_le_total
    (fun shelf => total (ConnectionPool.unhealthyOn connection.context.stream)
      shelf.idle) hshelf
  have hle' := weight_le_total
    (ConnectionPool.unhealthyOn connection.context.stream) htoken
  cases hstatus : connection.status with
  | true => rfl
  | false =>
      have hone : ConnectionPool.unhealthyOn connection.context.stream
          (Object.token { pool := slots.pool, connection }) = 1 := by
        simp [ConnectionPool.unhealthyOn, Object.token, hstatus]
      unfold ConnectionPool.weigh at hzero
      omega

/-!
## Failures after an instant
-/

def failedOnOld (address : String) (slaveId : UInt8) (streams : Nat)
    (object : Object) : Nat :=
  if object.connection.addr = address ∧ object.connection.slaveId = slaveId ∧
      object.connection.context.stream < streams then 1 else 0

def State.failuresOnOld (s : State) (address : String) (slaveId : UInt8)
    (streams : Nat) : Nat :=
  s.loggedFailures (failedOnOld address slaveId streams)

theorem failedOnOld_pos {address : String} {slaveId : UInt8} {streams : Nat}
    {object : Object} (h : 0 < failedOnOld address slaveId streams object) :
    object.connection.addr = address ∧ object.connection.slaveId = slaveId ∧
      object.connection.context.stream < streams := by
  by_contra hnot
  simp [failedOnOld, hnot] at h

theorem failedOnOld_le_one (address : String) (slaveId : UInt8) (streams : Nat)
    (object : Object) : failedOnOld address slaveId streams object ≤ 1 := by
  unfold failedOnOld
  split <;> omega

theorem step_failed {d : Deployment} {s s' : State} {l : Label}
    (hstep : Step d s l s') :
    exists newFailed, s'.failed = s.failed ++ newFailed := by
  cases hstep
  case transportError => exact ⟨[_], rfl⟩
  case operationTimeout => exact ⟨[_], rfl⟩
  all_goals exact ⟨[], (List.append_nil _).symm⟩

theorem run_failed {d : Deployment} {s s' : State} {ls : List Label}
    (hrun : (machine d).Run s ls s') :
    exists later, s'.failed = s.failed ++ later := by
  induction hrun with
  | nil s => exact ⟨[], (List.append_nil _).symm⟩
  | cons hstep _ ih =>
      rcases step_failed hstep with ⟨newFailed, hnew⟩
      rcases ih with ⟨later, hlater⟩
      exact ⟨newFailed ++ later, by rw [hlater, hnew, List.append_assoc]⟩

section Failures

variable {d : Deployment} {s s' : State} {ls : List Label} {later : List Object}

theorem failures_of_pool_le (hs : Reachable d s)
    (hrun : (machine d).Run s ls s') (hlater : s'.failed = s.failed ++ later)
    (p : Nat) :
    total (fun object => ConnectionPool.healthyBelow p s.streams object.token)
      later ≤ max 1 d.modbus.poolMaxSize := by
  rcases (machine_abstraction d).run hs hrun with ⟨actions, hactions⟩
  rcases ConnectionPool.failed_le_capacity (reachable_custodies hs) hactions
    (fun shelf hshelf =>
      Nat.le_of_eq ((reachable_wired hs).shelf_capacity (p := p) hshelf))
    with ⟨newFailed, hfailed, hle⟩
  have hsame : newFailed = later.map Object.token := by
    have happend : s'.failed.map Object.token =
        s.failed.map Object.token ++ newFailed := hfailed
    rw [hlater, List.map_append] at happend
    exact (List.append_cancel_left happend).symm
  rw [hsame, total_map] at hle
  exact hle

theorem failedOnOld_le (hs : Reachable d s) (hrun : (machine d).Run s ls s')
    (hlater : s'.failed = s.failed ++ later) (address : String)
    (slaveId : UInt8) :
    total (failedOnOld address slaveId s.streams) later ≤
      max 1 d.modbus.poolMaxSize := by
  have hwired := reachable_wired (hrun.reachable hs)
  have hmem : forall object, object ∈ later -> object ∈ s'.failed := by
    intro object hobject
    rw [hlater]
    exact List.mem_append_right s.failed hobject
  rcases Nat.eq_zero_or_pos (total (failedOnOld address slaveId s.streams)
    later) with hzero | hpos
  · omega
  -- All these failures happened in the pool of one of them.
  rcases exists_of_total_pos _ hpos with ⟨first, hfirst, hcountedFirst⟩
  rcases hwired.failed first (hmem first hfirst) with
    ⟨hhandleFirst, hownsFirst, _⟩
  have hold := failedOnOld_pos hcountedFirst
  refine Nat.le_trans (total_mono ?_)
    (failures_of_pool_le hs hrun hlater first.pool.id)
  intro object hobject
  rcases hwired.failed object (hmem object hobject) with
    ⟨hhandle, howns, hstatus⟩
  rcases Nat.eq_zero_or_pos (failedOnOld address slaveId s.streams object)
    with hnot | hcounted
  · omega
  have hcond := failedOnOld_pos hcounted
  have hpool : object.pool = first.pool := by
    apply hwired.pool_unique hhandle hhandleFirst
    · rw [<- howns.addr, <- hownsFirst.addr, hcond.left, hold.left]
    · rw [<- howns.slaveId, <- hownsFirst.slaveId, hcond.right.left,
        hold.right.left]
  have hone : ConnectionPool.healthyBelow first.pool.id s.streams
      object.token = 1 := by
    simp [ConnectionPool.healthyBelow, Object.token, hstatus, hpool,
      hcond.right.right]
  have hle := failedOnOld_le_one address slaveId s.streams object
  omega

/-- What happens after an instant fails a bounded number of the connections
the target had then. -/
theorem failuresOnOld_le (hs : Reachable d s) (hrun : (machine d).Run s ls s')
    (address : String) (slaveId : UInt8) :
    s'.failuresOnOld address slaveId s.streams ≤
      s.failuresOnOld address slaveId s.streams +
        max 1 d.modbus.poolMaxSize := by
  rcases run_failed hrun with ⟨later, hlater⟩
  have hle := failedOnOld_le hs hrun hlater address slaveId
  have hbefore := reachable_failuresLogged hs
    (failedOnOld address slaveId s.streams)
  have hafter := reachable_failuresLogged (hrun.reachable hs)
    (failedOnOld address slaveId s.streams)
  rw [hlater, total_append] at hafter
  unfold State.failuresOnOld
  omega

end Failures

/-- No request is sent on a connection an operation has failed on, connections
without a failure are reused, and after any instant at most
`max 1 pool_max_size` operations fail on the connections a target had then;
the failures counted are those of the operations that end in a transport
error. -/
theorem broken_connection_fails_once {d : Deployment} {s : State}
    (hs : Reachable d s) :
    (forall (i : Nat) (s' : State), Step d s (.send i) s' ->
      exists task operationTimeout object request k,
        s.tasks[i]? = some task ∧
        task.program = perform (.call operationTimeout object request) k ∧
        NeverFailed s object.connection.context.stream) ∧
    (forall (n : Nat) (slots : PoolState) (connection : ManagedConnection),
      s.pools[n]? = some slots -> connection ∈ slots.idle ->
      NeverFailed s connection.context.stream ->
      slots.pool.manager.recycle connection = ret (.ok (), connection)) ∧
    (forall (ls : List Label) (s' : State), (machine d).Run s ls s' ->
      forall (address : String) (slaveId : UInt8),
        s'.failuresOnOld address slaveId s.streams ≤
          s.failuresOnOld address slaveId s.streams +
            max 1 d.modbus.poolMaxSize) ∧
    (forall (address : String) (slaveId : UInt8)
      (registerAddress value : UInt16) (l : List ServiceEvent)
      (out : Except ModbusError Unit),
      Returns (ModbusService.writeSingleRegister address slaveId
        registerAddress value) l out ->
      ((exists err, out = .error err ∧ ModbusService.isTransport err = true) <->
        exists object, object ∈ l.filterMap failedOn)) ∧
    (forall (address : String) (slaveId : UInt8)
      (registerAddress quantity : UInt16) (l : List ServiceEvent)
      (out : Except ModbusError (List UInt16)),
      Returns (ModbusService.readHoldingRegisters address slaveId
        registerAddress quantity) l out ->
      ((exists err, out = .error err ∧ ModbusService.isTransport err = true) <->
        exists object, object ∈ l.filterMap failedOn)) := by
  refine ⟨fun i s' hstep => send_neverFailed hs hstep, ?_,
    fun ls s' hrun address slaveId => failuresOnOld_le hs hrun address slaveId,
    ?_, ?_⟩
  · intro n slots connection hslots hidle hnever
    exact ModbusManager.recycle_of_status (idle_healthy hs hslots hidle hnever)
  · intro address slaveId registerAddress value l out h
    rw [ModbusService.writeSingleRegister_eq_operate] at h
    refine operate_failed_iff ?_ h
    exact ModbusService.writeResult_transport address registerAddress value
  · intro address slaveId registerAddress quantity l out h
    rw [ModbusService.readHoldingRegisters_eq_operate] at h
    refine operate_failed_iff ?_ h
    exact ModbusService.readResult_transport address registerAddress quantity

/-- A write times out, the next operation discards the connection and sends on
a new one. -/
theorem broken_connection_fails_once_timeout :
    exists s s', Step lineDeployment s (.send 1) s' ∧
      s.failuresOnOld "10.0.0.5:502" 1 s.streams = 1 ∧
      (exists task operationTimeout object request k,
        s.tasks[1]? = some task ∧
        task.program = perform (.call operationTimeout object request) k ∧
        NeverFailed s object.connection.context.stream) ∧
      s'.failuresOnOld "10.0.0.5:502" 1 s.streams ≤ 1 + max 1 1 := by
  have hreplay : (replay lineDeployment (State.initial lineDeployment.modbus)
      ([.spawn (.write { source := "A1", destination := "B1" })] ++
        connectLabels 0 ++ [.send 0, .operationTimeout 0, .release 0,
        .spawn (.canPutdown { location := "B1" }), .runtime 1, .acquire 1,
        .popIdle 1 0, .disconnected 1 (.ok ()), .recycled 1, .popEmpty 1,
        .connected 1, .created 1])).any
      (fun s => (advance lineDeployment s (.send 1)).isSome &&
        s.failuresOnOld "10.0.0.5:502" 1 s.streams == 1) = true := by
    decide
  rcases exists_of_replay hreplay with ⟨s, hs, hgood⟩
  rw [Bool.and_eq_true, Option.isSome_iff_exists, beq_iff_eq] at hgood
  rcases hgood with ⟨⟨s', hadvance⟩, hone⟩
  have hstep := advance_sound hadvance
  rcases broken_connection_fails_once (replay_reachable hs) with
    ⟨hsend, _, hfailures, _, _⟩
  have hrun : (machine lineDeployment).Run s [.send 1] s' :=
    Transition.System.Run.cons hstep (Transition.System.Run.nil s')
  have hle := hfailures [.send 1] s' hrun "10.0.0.5:502" 1
  rw [hone] at hle
  exact ⟨s, s', hstep, hone, hsend 1 s' hstep, hle⟩

end ConveyorModbus
