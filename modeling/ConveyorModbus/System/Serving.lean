import ConveyorModbus.System.Plan
import ConveyorModbus.System.Quiet
import ConveyorModbus.System.Replay

/-!
# Serving a request

A request whose plan names a parsable address can be served to the end by the
steps of its own handler, as long as a permit of the pool is free, no stale
reply is ahead of its idle connections and the device connects and replies.
Idle connections that were flagged are discarded on the way, so the induction
is on the idle queue.
-/

namespace ConveyorModbus

open Counting Effects Program

def OwnRun (d : Deployment) (i : Nat) (s s' : State) : Prop :=
  exists ls, (machine d).Run s ls s' ∧ forall l, l ∈ ls -> l.task = some i

namespace OwnRun

variable {d : Deployment} {i : Nat} {s t u : State}

theorem refl (s : State) : OwnRun d i s s :=
  ⟨[], Transition.System.Run.nil s, by simp⟩

theorem step {l : Label} (hstep : Step d s l t) (hl : l.task = some i)
    (h : OwnRun d i t u) : OwnRun d i s u := by
  rcases h with ⟨ls, hrun, hls⟩
  refine ⟨l :: ls, Transition.System.Run.cons hstep hrun, ?_⟩
  intro l' hl'
  rcases List.mem_cons.mp hl' with rfl | hrest
  · exact hl
  · exact hls l' hrest

theorem trans (h : OwnRun d i s t) (h' : OwnRun d i t u) : OwnRun d i s u := by
  rcases h with ⟨ls, hrun, hls⟩
  rcases h' with ⟨ls', hrun', hls'⟩
  refine ⟨ls ++ ls', hrun.append hrun', ?_⟩
  intro l hl
  rcases List.mem_append.mp hl with hfirst | hsecond
  · exact hls l hfirst
  · exact hls' l hsecond

end OwnRun

theorem getElem?_setTask {s t : State} {i : Nat} {task : Task}
    (htask : s.tasks[i]? = some task) (htasks : t.tasks = s.tasks)
    (task' : Task) : (t.setTask i task').tasks[i]? = some task' := by
  rw [State.setTask, htasks, getElem?_set_of_some htask, if_pos rfl]

theorem getElem?_addTask (s : State) (task : Task) :
    (s.addTask task).tasks[s.tasks.length]? = some task :=
  List.getElem?_concat_length

/-!
## Yielding a connection
-/

theorem create_connects {parse : String -> Option SocketAddr}
    {manager : ModbusManager} {addr : SocketAddr}
    (hparse : parse manager.addr = some addr) :
    exists rest, manager.create parse =
        perform (.connect manager.connectTimeout addr) rest ∧
      forall context, rest (.ok (.ok context)) =
        ret (.ok (manager.established context)) := by
  have hattempts : exists attempts,
      List.range' 1 (max manager.maxConnectAttempts 1) = 1 :: attempts := by
    rcases Nat.exists_eq_add_of_le (Nat.le_max_right manager.maxConnectAttempts 1)
      with ⟨more, hmore⟩
    rw [hmore, Nat.add_comm]
    exact ⟨_, List.range'_succ⟩
  rcases hattempts with ⟨attempts, hattempts⟩
  unfold ModbusManager.create ModbusManager.parseSocketAddr
  rw [hparse]
  simp only [hattempts]
  exact ⟨_, rfl, fun context => rfl⟩

/-- Whatever connection of the pool a permit holder is given, no stale reply is
ahead on it. -/
structure Quiet (s : State) (slots : PoolState) : Prop where
  fresh : s.stale s.streams = 0
  idle : forall connection, connection ∈ slots.idle ->
    connection.status = true -> s.stale connection.context.stream = 0

theorem get_served {d : Deployment} {i : Nat} {pool : Pool} {addr : SocketAddr}
    (hparse : SocketAddr.fromStr pool.manager.addr = some addr)
    {k : Except PoolError Object -> ServiceProgram TaskOutput}
    {s : State} {task : Task} {slots : PoolState}
    (htask : s.tasks[i]? = some task)
    (hprogram : task.program = perform (.get pool) k)
    (hphase : task.phase = .popping)
    (hslots : s.pools[pool.id]? = some slots) (hquiet : Quiet s slots) :
    exists s' object slots', OwnRun d i s s' ∧
      s'.tasks[i]? = some (task.resume (.get pool) (.ok object) k) ∧
      object.pool = pool ∧ s'.pools[pool.id]? = some slots' ∧
      s'.stale object.connection.context.stream = 0 := by
  induction hidle : slots.idle generalizing s task slots with
  | nil =>
      rcases create_connects hparse with ⟨rest, hcreate, hconnected⟩
      have hpop := Step.popEmpty (d := d) htask hprogram hphase hslots hidle
      rw [hcreate] at hpop
      have hcreating := getElem?_setTask htask rfl (task.enter (.creating
        (perform (.connect pool.manager.connectTimeout addr) rest)))
      have hconnect := Step.connected (d := d) hcreating hprogram rfl
      rw [hconnected] at hconnect
      have hopened := getElem?_setTask (t := (s.setTask i _).openStream)
        hcreating rfl (task.enter (.creating (ret (.ok
          (pool.manager.established (Context.attach s.streams))))))
      have hcreated := Step.createOk (d := d) hopened hprogram rfl
      refine ⟨_, { pool := pool
                   connection :=
                    pool.manager.established (Context.attach s.streams) }, slots,
        OwnRun.step hpop rfl (OwnRun.step hconnect rfl
          (OwnRun.step hcreated rfl (OwnRun.refl _))), ?_, rfl, hslots,
        hquiet.fresh⟩
      exact getElem?_setTask hopened rfl _
  | cons connection idle ih =>
      have hhead : slots.idle[0]? = some connection := by rw [hidle]; rfl
      have hpop := Step.popIdle (d := d) htask hprogram hphase hslots hhead
      have hrecycling := getElem?_setTask
        (t := s.setPool pool.id (slots.removeIdle 0)) htask rfl
        (task.enter (.recycling connection (pool.manager.recycle connection)))
      have hslots' : (s.setPool pool.id (slots.removeIdle 0)).pools[pool.id]? =
          some (slots.removeIdle 0) := by
        rw [getElem?_setPool hslots, if_pos rfl]
      cases hstatus : connection.status with
      | true =>
          rw [ModbusManager.recycle_of_status hstatus] at hpop hrecycling
          have hrecycled := Step.recycleOk (d := d) hrecycling hprogram rfl
          refine ⟨_, { pool := pool, connection := connection },
            slots.removeIdle 0, OwnRun.step hpop rfl
              (OwnRun.step hrecycled rfl (OwnRun.refl _)), ?_, rfl, hslots',
            hquiet.idle connection (List.mem_of_getElem? hhead) hstatus⟩
          exact getElem?_setTask hrecycling rfl _
      | false =>
          have hrecycle : pool.manager.recycle connection =
              perform (.disconnect connection.logDisconnect.context)
                (fun _ => ret (.error (.message "can't recycle"),
                  connection.logDisconnect)) := by
            simp [ModbusManager.recycle, hstatus, Net.disconnect]
          rw [hrecycle] at hpop hrecycling
          have hclosed : Step d _ (.disconnected i (.ok ())) _ :=
            Step.disconnected hrecycling hprogram rfl
          have hrefused := getElem?_setTask hrecycling rfl
            (task.enter (.recycling connection
              (ret (.error (.message "can't recycle"),
                connection.logDisconnect))))
          have hdiscarded := Step.recycleErr (d := d) hrefused hprogram rfl
          have hpopping := getElem?_setTask hrefused rfl (task.enter .popping)
          have hrest : (slots.removeIdle 0).idle = idle := by
            simp [PoolState.removeIdle, hidle]
          have hothers : forall other, other ∈ (slots.removeIdle 0).idle ->
              other.status = true -> s.stale other.context.stream = 0 := by
            intro other hother
            rw [hrest] at hother
            apply hquiet.idle
            rw [hidle]
            exact List.mem_cons_of_mem _ hother
          rcases ih hpopping hprogram rfl hslots' ⟨hquiet.fresh, hothers⟩
            hrest with
            ⟨s', object, slots', hown, hgot, hpool, hafter⟩
          exact ⟨s', object, slots', OwnRun.step hpop rfl
            (OwnRun.step hclosed rfl (OwnRun.step hdiscarded rfl hown)),
            hgot, hpool, hafter⟩

theorem acquire_served {d : Deployment} {i : Nat} {pool : Pool}
    {addr : SocketAddr}
    (hparse : SocketAddr.fromStr pool.manager.addr = some addr)
    {k : Except PoolError Object -> ServiceProgram TaskOutput}
    {s : State} {task : Task} {slots : PoolState}
    (htask : s.tasks[i]? = some task)
    (hprogram : task.program = perform (.get pool) k)
    (hphase : task.phase = .ready)
    (hslots : s.pools[pool.id]? = some slots) (hfree : 0 < slots.permits)
    (hquiet : Quiet s slots) :
    exists s' object slots', OwnRun d i s s' ∧
      s'.tasks[i]? = some (task.resume (.get pool) (.ok object) k) ∧
      object.pool = pool ∧ s'.pools[pool.id]? = some slots' ∧
      s'.stale object.connection.context.stream = 0 := by
  have hacquire := Step.acquire (d := d) htask hprogram hphase hslots hfree
  have hpopping := getElem?_setTask
    (t := s.setPool pool.id slots.takePermit) htask rfl (task.enter .popping)
  have htaken : (s.setPool pool.id slots.takePermit).pools[pool.id]? =
      some slots.takePermit := by
    rw [getElem?_setPool hslots, if_pos rfl]
  rcases get_served hparse hpopping hprogram rfl htaken
    ⟨hquiet.fresh, hquiet.idle⟩ with
    ⟨s', object, slots', hown, hgot, hobject, hslots'⟩
  exact ⟨s', object, slots', OwnRun.step hacquire rfl hown, hgot, hobject,
    hslots'⟩

/-!
## The other steps of an operation
-/

/-- The pool of the target has a permit left, or is yet to be built. -/
def FreePermit (s : State) (address : String) (slaveId : UInt8) : Prop :=
  forall runtime slots, s.service.lookup address slaveId = some runtime ->
    s.pools[runtime.pool.id]? = some slots -> 0 < slots.permits

/-- The target has no idle connection on which the next call fails. -/
def QuietIdle (s : State) (address : String) (slaveId : UInt8) : Prop :=
  forall runtime, s.service.lookup address slaveId = some runtime ->
    s.staleIdle runtime.pool.id = 0

theorem QuietIdle.of_lookup {s : State} {address : String} {slaveId : UInt8}
    {runtime : ModbusRuntime}
    (hlookup : s.service.lookup address slaveId = some runtime)
    (hnone : s.staleIdle runtime.pool.id = 0) : QuietIdle s address slaveId := by
  intro other hother
  rw [hlookup, Option.some.injEq] at hother
  rw [<- hother]
  exact hnone

theorem runtime_served {d : Deployment} {s : State} {i : Nat} {task : Task}
    {address : String} {slaveId : UInt8}
    {k : ModbusRuntime -> ServiceProgram TaskOutput} (hs : Reachable d s)
    (hfree : FreePermit s address slaveId)
    (hquiet : QuietIdle s address slaveId) (htask : s.tasks[i]? = some task)
    (hprogram : task.program = perform (.runtime address slaveId) k)
    (hphase : task.phase = .ready) :
    exists s' runtime slots, Step d s (.runtime i) s' ∧
      s'.tasks[i]? =
        some (task.resume (.runtime address slaveId) runtime k) ∧
      s'.pools[runtime.pool.id]? = some slots ∧ 0 < slots.permits ∧
      Quiet s' slots ∧ runtime.pool.manager.addr = address := by
  have hwired := reachable_wired hs
  have hfresh := (reachable_staleInvariant hs).fresh s.streams (Nat.le_refl _)
  cases hlookup : s.service.lookup address slaveId with
  | some runtime =>
      have hbuilt := hwired.pools.built _ _ hlookup
      rcases hbuilt.right with ⟨slots, hslots, _⟩
      refine ⟨_, runtime, slots,
        Step.runtimeHit htask hprogram hphase hlookup,
        getElem?_setTask htask rfl _, hslots,
        hfree runtime slots hlookup hslots,
        ⟨hfresh, fun _ => stale_of_staleIdle hslots (hquiet runtime hlookup)⟩,
        ?_⟩
      rw [hbuilt.left]
      rfl
  | none =>
      have hbuilt : (s.pools ++ [PoolState.build (buildModbusPool address
          slaveId s.service.config s.service.poolsBuilt)])[
            s.service.poolsBuilt]? =
          some (PoolState.build (buildModbusPool address slaveId
            s.service.config s.service.poolsBuilt)) := by
        rw [hwired.pools.counted, List.getElem?_append_right (Nat.le_refl _),
          Nat.sub_self]
        rfl
      exact ⟨_, _, _, Step.runtimeMiss htask hprogram hphase hlookup
        (ModbusService.entryOrInsert_of_none hlookup),
        getElem?_setTask htask rfl _, hbuilt,
        s.service.config.clampedPoolMaxSize_pos,
        ⟨hfresh, fun _ hnone => nomatch hnone⟩, rfl⟩

/-- A handler asks for the runtime, then for a connection; what comes next
depends on whether it gets one. -/
theorem handler_starts {d : Deployment} {request : ConveyorRequest} {plan : Plan}
    (hplan : request.plan d.conveyor = some plan) :
    exists k : ModbusRuntime -> Except PoolError Object ->
        ServiceProgram TaskOutput,
      (Task.start d.conveyor (.handler request)).program =
          perform (.runtime plan.device plan.slaveId)
            (fun runtime => perform (.get runtime.pool) (k runtime)) ∧
        (forall runtime object, k runtime (.ok object) =
          perform (.call object.connection.operationTimeout object plan.request)
            (fun result => perform (.release (object.afterCall result))
              (fun _ => ret (.response (plan.respond
                (plan.request.result plan.device result.outcome)))))) ∧
        forall runtime err, k runtime (.error err) =
          ret (.response (plan.respond
            (.error (.connectionPool plan.device err.text)))) :=
  ⟨_, handler_program_of_plan hplan, fun _ _ => rfl, fun _ _ => rfl⟩

theorem result_answered (address : String) (request : ModbusRequest)
    (answer : request.Answer) :
    request.result address (.ok (.ok (.ok answer))) = .ok answer := by
  cases request <;> rfl

theorem exists_reply (request : ModbusRequest) :
    exists (reply : ModbusReply) (answer : request.Answer),
      reply.answer request = some (.ok answer) := by
  cases request with
  | writeSingleRegister registerAddress value => exact ⟨.written, (), rfl⟩
  | readHoldingRegisters registerAddress quantity =>
      exact ⟨.values [], [], rfl⟩

section Call

variable {d : Deployment} {s : State} {i : Nat} {task : Task}
  {operationTimeout : Duration} {object : Object} {request : ModbusRequest}
  {k : CallResult request.Answer -> ServiceProgram TaskOutput}

theorem send_served (htask : s.tasks[i]? = some task)
    (hprogram : task.program =
      perform (.call operationTimeout object request) k)
    (hphase : task.phase = .ready) :
    exists s', Step d s (.send i) s' ∧
      s'.tasks[i]? = some (task.enter .inFlight) ∧ s'.pools = s.pools ∧
      s'.stale = s.stale :=
  ⟨_, Step.send htask hprogram hphase, getElem?_setTask htask rfl _, rfl, rfl⟩

theorem answer_served {reply : ModbusReply}
    {result : Except ExceptionCode request.Answer}
    (htask : s.tasks[i]? = some task)
    (hprogram : task.program =
      perform (.call operationTimeout object request) k)
    (hphase : task.phase = .inFlight)
    (hreply : reply.answer request = some result)
    (hquiet : s.stale object.connection.context.stream = 0) :
    exists s', Step d s (.answer i reply) s' ∧
      s'.tasks[i]? =
        some (task.resume (.call operationTimeout object request)
          (CallResult.replied result) k) ∧
      s'.pools = s.pools :=
  ⟨_, Step.answer htask hprogram hphase hreply hquiet,
    getElem?_setTask htask rfl _, rfl⟩

theorem call_served {out : CallResult request.Answer -> TaskOutput}
    {slots : PoolState} (htask : s.tasks[i]? = some task)
    (hprogram : task.program =
      perform (.call operationTimeout object request) k)
    (hk : forall result, k result =
      perform (.release (object.afterCall result)) (fun _ => ret (out result)))
    (hphase : task.phase = .ready)
    (hslots : s.pools[object.pool.id]? = some slots)
    (hquiet : s.stale object.connection.context.stream = 0) :
    exists s' ended answer, OwnRun d i s s' ∧ s'.tasks[i]? = some ended ∧
      ended.kind = task.kind ∧
      ended.program = ret (out (CallResult.replied (.ok answer))) ∧
      ended.log = task.log ++
        [⟨.call operationTimeout object request,
            CallResult.replied (.ok answer)⟩,
          ⟨.release object, ()⟩] := by
  rcases exists_reply request with ⟨reply, answer, hreply⟩
  rcases send_served (d := d) htask hprogram hphase with
    ⟨sent, hsend, hsent, hsentPools, hsentStale⟩
  rw [<- hsentStale] at hquiet
  rcases answer_served (d := d) hsent hprogram rfl hreply hquiet with
    ⟨answered, hanswer, hanswered, hansweredPools⟩
  rw [<- hsentPools, <- hansweredPools] at hslots
  have hrelease := Step.release (d := d) hanswered (hk _) rfl hslots
  refine ⟨_, _, answer, OwnRun.step hsend rfl (OwnRun.step hanswer rfl
    (OwnRun.step hrelease rfl (OwnRun.refl _))),
    getElem?_setTask hanswered rfl _, rfl, rfl, ?_⟩
  exact List.append_assoc _ _ _

end Call

/-!
## The whole request
-/

/-- A handler that has not begun can be run to a successful end. -/
theorem handler_served {d : Deployment} {s : State} (hs : Reachable d s)
    {i : Nat} {request : ConveyorRequest}
    (hstarted : s.tasks[i]? = some (Task.start d.conveyor (.handler request)))
    {plan : Plan} {addr : SocketAddr}
    (hplan : request.plan d.conveyor = some plan)
    (hparse : SocketAddr.fromStr plan.device = some addr)
    (hfree : FreePermit s plan.device plan.slaveId)
    (hquiet : QuietIdle s plan.device plan.slaveId) :
    exists s' task runtime object answer,
      OwnRun d i s s' ∧ s'.tasks[i]? = some task ∧
      task.kind = .handler request ∧
      task.program = ret (.response (plan.respond (.ok answer))) ∧
      task.log =
        ModbusService.connectionEvents plan.device plan.slaveId runtime
            (.ok object) ++
          ModbusService.callEvents object plan.request
            (CallResult.replied (.ok answer)) := by
  rcases handler_starts hplan with ⟨k, hfirst, hcalled, _⟩
  rcases runtime_served hs hfree hquiet hstarted hfirst rfl with
    ⟨looked, runtime, slots, hruntime, hlooked, hslots, hpermits, hoffered,
      hmanager⟩
  rw [<- hmanager] at hparse
  rcases acquire_served hparse hlooked rfl rfl hslots hpermits hoffered with
    ⟨got, object, slots', hget, hyielded, hobject, hslots', hnone⟩
  rw [<- hobject] at hslots'
  rcases call_served hyielded (hcalled runtime object) (fun _ => rfl) rfl
    hslots' hnone with ⟨s', ended, answer, hcall, hended, hkind, hreturned, hlog⟩
  refine ⟨s', ended, runtime, object, answer,
    OwnRun.step hruntime rfl (hget.trans hcall), hended, hkind, ?_, hlog⟩
  rw [hreturned]
  exact congrArg (fun result => ret (TaskOutput.response (plan.respond result)))
    (result_answered plan.device plan.request answer)

/-!
## A request at an address that does not parse
-/

theorem create_rejects {parse : String -> Option SocketAddr}
    {manager : ModbusManager} (hparse : parse manager.addr = none) :
    manager.create parse = ret (.error (.invalidAddress manager.addr)) := by
  unfold ModbusManager.create ModbusManager.parseSocketAddr
  rw [hparse]
  rfl

/-- The first request of a process whose device is no socket address ends in a
pool error. -/
theorem handler_refused {d : Deployment} {request : ConveyorRequest}
    {plan : Plan} (hplan : request.plan d.conveyor = some plan)
    (hparse : SocketAddr.fromStr plan.device = none) :
    exists s task runtime err, Reachable d s ∧ s.tasks[0]? = some task ∧
      task.kind = .handler request ∧
      task.program = ret (.response (plan.respond
        (.error (.connectionPool plan.device err.text)))) ∧
      task.log =
        ModbusService.connectionEvents plan.device plan.slaveId runtime
          (.error err) ∧
      err.cause = .invalidAddress plan.device := by
  rcases handler_starts hplan with ⟨k, hfirst, _, hrefused⟩
  have hinitial : Reachable d (State.initial d.modbus) :=
    Transition.System.Reachable.init rfl
  have hspawned : Reachable d ((State.initial d.modbus).addTask
      (Task.start d.conveyor (.handler request))) :=
    Transition.System.Reachable.step hinitial Step.spawn
  have hlookup : (State.initial d.modbus).service.lookup plan.device
      plan.slaveId = none := rfl
  have hlooked := Transition.System.Reachable.step hspawned
    (Step.runtimeMiss (i := 0) rfl hfirst rfl hlookup
      (ModbusService.entryOrInsert_of_none hlookup))
  have hacquired := Transition.System.Reachable.step hlooked
    (Step.acquire (i := 0) rfl rfl rfl rfl
      d.modbus.clampedPoolMaxSize_pos)
  have hcreating := Transition.System.Reachable.step hacquired
    (Step.popEmpty (i := 0) rfl rfl rfl rfl rfl)
  rw [create_rejects hparse] at hcreating
  have hended := Transition.System.Reachable.step hcreating
    (Step.createErr (i := 0) rfl rfl rfl rfl)
  refine ⟨_, _, _, _, hended, rfl, rfl, ?_, rfl, rfl⟩
  exact hrefused _ _

end ConveyorModbus
