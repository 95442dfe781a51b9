import ConveyorModbus.Library.ConnectionPool
import ConveyorModbus.System.Wiring

/-!
# The service as connection pools with clients

The running service is an instance of the abstract connection pools: its tasks
are the clients and its pools the shelves.  Every step of the machine is one
abstract step or none, so the results on the abstract pools hold of the
service.
-/

namespace ConveyorModbus

open Effects Program
open ConnectionPool (Token Custody Shelf)

/-!
## Tasks as clients
-/

def Object.token (object : Object) : Token where
  pool := object.pool.id
  stream := object.connection.context.stream
  healthy := object.connection.status

def claimCreating (pool : Pool) :
    NetProgram (Except ManagerError ManagedConnection) -> Custody
  | .ret (.ok connection) => .holding (Object.token { pool, connection })
  | _ => .slot pool.id

/-- What a task in a phase of its next effect has of the pools. -/
def Holding.claim : Holding -> Phase -> Custody
  | _, .dropped => .nothing
  | .looked runtime, .popping => .permit runtime.pool.id
  | .looked runtime, .recycling connection _ =>
      .holding (Object.token { pool := runtime.pool, connection })
  | .looked runtime, .creating rest => claimCreating runtime.pool rest
  | .fresh object, .inFlight => .waiting object.token
  | .fresh object, _ => .holding object.token
  | .used object, _ => .holding object.token
  | _, _ => .nothing

def Task.claim (task : Task) : Custody :=
  task.holding.claim task.phase

theorem claim_creating_of_connecting
    {parse : String -> Option SocketAddr} {runtime : ModbusRuntime}
    {rest : NetProgram (Except ManagerError ManagedConnection)}
    (h : Follows runtime.pool.manager.opening rest .connecting
      (runtime.pool.manager.Opened parse)) :
    (Holding.looked runtime).claim (.creating rest) = .slot runtime.pool.id := by
  cases rest with
  | ret result =>
      cases result with
      | error err => rfl
      | ok connection => exact h.elim
  | perform e k => rfl

theorem claim_creating_perform (runtime : ModbusRuntime) (e : NetEffect)
    (k : e.Reply -> NetProgram (Except ManagerError ManagedConnection)) :
    (Holding.looked runtime).claim (.creating (perform e k)) =
      .slot runtime.pool.id := rfl

/-!
## Pools as shelves
-/

def PoolState.shelf (slots : PoolState) : Shelf where
  capacity := slots.pool.maxSize
  free := slots.permits
  idle := slots.idle.map
    (fun connection => Object.token { pool := slots.pool, connection })

@[simp] theorem shelf_takePermit (slots : PoolState) :
    slots.takePermit.shelf = slots.shelf.takePermit := rfl

@[simp] theorem shelf_returnPermit (slots : PoolState) :
    slots.returnPermit.shelf = slots.shelf.returnPermit := rfl

@[simp] theorem shelf_removeIdle (slots : PoolState) (n : Nat) :
    (slots.removeIdle n).shelf = slots.shelf.remove n := by
  simp [PoolState.shelf, PoolState.removeIdle, Shelf.remove, List.eraseIdx_map]

theorem shelf_giveBack {slots : PoolState} {object : Object}
    (hpool : slots.pool = object.pool) :
    (slots.giveBack object.connection).shelf =
      slots.shelf.giveBack object.token := by
  simp [PoolState.shelf, PoolState.giveBack, Shelf.giveBack, hpool]

/-!
## The abstraction
-/

def State.custodies (s : State) : ConnectionPool.State where
  shelves := s.pools.map PoolState.shelf
  clients := s.tasks.map Task.claim
  streams := s.streams
  outstanding := s.outstanding
  failed := s.failed.map Object.token

section Fields

variable {s : State} {i n : Nat}

theorem custodies_client {task : Task} (htask : s.tasks[i]? = some task) :
    s.custodies.clients[i]? = some task.claim := by
  simp [State.custodies, htask]

theorem custodies_shelf {slots : PoolState} (hslots : s.pools[n]? = some slots) :
    s.custodies.shelves[n]? = some slots.shelf := by
  simp [State.custodies, hslots]

@[simp] theorem custodies_setTask (task : Task) :
    (s.setTask i task).custodies = s.custodies.setClient i task.claim := by
  simp [State.custodies, State.setTask, ConnectionPool.State.setClient]

@[simp] theorem custodies_setPool (slots : PoolState) :
    (s.setPool n slots).custodies = s.custodies.setShelf n slots.shelf := by
  simp [State.custodies, State.setPool, ConnectionPool.State.setShelf]

@[simp] theorem custodies_openStream :
    s.openStream.custodies = s.custodies.openStream := rfl

@[simp] theorem custodies_setStale (stream count : Nat) :
    (s.setStale stream count).custodies = s.custodies := rfl

@[simp] theorem custodies_setOutstanding (stream count : Nat) :
    (s.setOutstanding stream count).custodies =
      s.custodies.setOutstanding stream count := rfl

@[simp] theorem custodies_recordFailure (object : Object) :
    (s.recordFailure object).custodies =
      s.custodies.recordFailure object.token := by
  simp [State.custodies, State.recordFailure,
    ConnectionPool.State.recordFailure]

@[simp] theorem custodies_addTask (conveyor : ConveyorConfig) (kind : TaskKind) :
    (s.addTask (Task.start conveyor kind)).custodies =
      s.custodies.addClient := by
  simp [State.custodies, State.addTask, ConnectionPool.State.addClient,
    Task.claim, Holding.claim, Task.start, Task.holding, Typestate.run]

@[simp] theorem custodies_addPool (service : ModbusService) (pool : Pool) :
    (s.addPool service (PoolState.build pool)).custodies =
      s.custodies.addShelf pool.maxSize := by
  simp [State.custodies, State.addPool, ConnectionPool.State.addShelf,
    PoolState.shelf, PoolState.build]

theorem setClient_claim {t : State} {task : Task} {custody : Custody}
    (htask : t.tasks[i]? = some task) (hsame : custody = task.claim) :
    t.custodies.setClient i custody = t.custodies := by
  have hclient := custodies_client htask
  have hset : t.custodies.clients.set i custody = t.custodies.clients := by
    rw [hsame]
    rcases List.getElem?_eq_some_iff.mp hclient with ⟨hlt, hget⟩
    rw [<- hget]
    exact List.set_getElem_self hlt
  simp only [ConnectionPool.State.setClient, hset]

end Fields

/-!
## Claims of the tasks that move
-/

section Claims

variable {d : Deployment} {s : State} {task : Task}

theorem claim_eq {holding : Holding} {phase : Phase}
    (hholding : task.holding = holding) (hphase : task.phase = phase) :
    task.claim = holding.claim phase := by
  rw [Task.claim, hholding, hphase]

theorem claim_enter {holding : Holding} (hholding : task.holding = holding)
    (phase : Phase) : (task.enter phase).claim = holding.claim phase := by
  rw [<- hholding]
  rfl

theorem claim_resume {holding : Holding} (hholding : task.holding = holding)
    (e : ServiceEffect) (r : e.Reply)
    (k : e.Reply -> ServiceProgram TaskOutput) :
    (task.resume e r k).claim = (holding.next e r).claim .ready := by
  rw [Task.claim, Task.holding_resume, hholding]
  rfl

theorem client_eq {i : Nat} {holding : Holding} {phase : Phase}
    (htask : s.tasks[i]? = some task) (hholding : task.holding = holding)
    (hphase : task.phase = phase) :
    s.custodies.clients[i]? = some (holding.claim phase) := by
  rw [custodies_client htask, claim_eq hholding hphase]

theorem claim_of_call (hwired : TaskWired d s task)
    {operationTimeout : Duration} {object : Object} {request : ModbusRequest}
    {k : CallResult request.Answer -> ServiceProgram TaskOutput}
    (hprogram : task.program =
      perform (.call operationTimeout object request) k)
    (hphase : task.phase = .ready ∨ task.phase = .inFlight) :
    task.claim = .holding object.token ∨ task.claim = .waiting object.token := by
  have hholding := hwired.holding_of_call hprogram
  rcases hphase with hready | hflight
  · exact Or.inl (claim_eq hholding hready)
  · exact Or.inr (claim_eq hholding hflight)

theorem weigh_of_call (hwired : TaskWired d s task)
    {operationTimeout : Duration} {object : Object} {request : ModbusRequest}
    {k : CallResult request.Answer -> ServiceProgram TaskOutput}
    (hprogram : task.program =
      perform (.call operationTimeout object request) k)
    (hphase : task.phase = .ready ∨ task.phase = .inFlight)
    (w : Token -> Nat) : task.claim.weigh w = w object.token := by
  rcases claim_of_call hwired hprogram hphase with hclaim | hclaim
  · rw [hclaim, Custody.weigh_holding]
  · rw [hclaim, Custody.weigh_waiting]

theorem claim_of_get (hwired : TaskWired d s task) {pool : Pool}
    {k : Except PoolError Object -> ServiceProgram TaskOutput}
    (hprogram : task.program = perform (.get pool) k)
    (hready : task.phase ≠ .ready) (hdropped : task.phase ≠ .dropped) :
    task.claim = .permit pool.id ∨ task.claim = .slot pool.id ∨
      (exists token, task.claim = .holding token ∧ token.pool = pool.id) := by
  rcases hwired.holding_of_get hprogram with ⟨runtime, hholding, rfl⟩
  have hphase := hwired.phase
  rw [hholding] at hphase
  cases hwhere : task.phase with
  | ready => exact absurd hwhere hready
  | dropped => exact absurd hwhere hdropped
  | popping => exact Or.inl (claim_eq hholding hwhere)
  | recycling connection rest =>
      exact Or.inr (Or.inr ⟨_, claim_eq hholding hwhere, rfl⟩)
  | creating rest =>
      rw [claim_eq hholding hwhere]
      cases rest with
      | ret result =>
          cases result with
          | error err => exact Or.inr (Or.inl rfl)
          | ok connection => exact Or.inr (Or.inr ⟨_, rfl, rfl⟩)
      | perform e k => exact Or.inr (Or.inl rfl)
  | inFlight =>
      rw [hwhere] at hphase
      exact hphase.elim
  | posting =>
      rw [hwhere] at hphase
      exact hphase.elim

theorem token_markUnhealthy (object : Object) :
    object.markUnhealthy.token = object.token.fail := rfl

end Claims

/-!
## Steps
-/

/-- A step seen on the custodies: nothing, or one step of the pools, which is
a vanishing client only when a task is dropped in flight. -/
def Noticed (s s' : State) (l : Label) : Prop :=
  s'.custodies = s.custodies ∨
    exists a, ConnectionPool.Step s.custodies a s'.custodies ∧
      (a = .vanish -> exists i task, l = .cancel i ∧
        s.tasks[i]? = some task ∧ task.phase = .inFlight)

section Noticed

variable {d : Deployment} {s : State} {l : Label} {i : Nat} {task task' : Task}

theorem noticed_of_same {t : State} (htask : t.tasks[i]? = some task)
    (hbase : t.custodies = s.custodies) (hclaim : task'.claim = task.claim) :
    Noticed s (t.setTask i task') l := by
  refine Or.inl ?_
  rw [custodies_setTask, setClient_claim htask hclaim, hbase]

theorem noticed_enter {holding : Holding} {phase phase' : Phase}
    (htask : s.tasks[i]? = some task) (hholding : task.holding = holding)
    (hphase : task.phase = phase)
    (hsame : holding.claim phase' = holding.claim phase) :
    Noticed s (s.setTask i (task.enter phase')) l := by
  apply noticed_of_same htask rfl
  rw [claim_enter hholding, claim_eq hholding hphase, hsame]

theorem noticed_resume {holding : Holding} {phase : Phase} {e : ServiceEffect}
    {r : e.Reply} {k : e.Reply -> ServiceProgram TaskOutput}
    (htask : s.tasks[i]? = some task) (hholding : task.holding = holding)
    (hphase : task.phase = phase)
    (hsame : (holding.next e r).claim .ready = holding.claim phase) :
    Noticed s (s.setTask i (task.resume e r k)) l := by
  apply noticed_of_same htask rfl
  rw [claim_resume hholding, claim_eq hholding hphase, hsame]

theorem noticed_of_step {s' : State} {a : ConnectionPool.Action}
    (hstep : ConnectionPool.Step s.custodies a s'.custodies)
    (ha : a ≠ .vanish) : Noticed s s' l :=
  Or.inr ⟨a, hstep, fun h => absurd h ha⟩

theorem noticed_creating (hwired : TaskWired d s task)
    (htask : s.tasks[i]? = some task) {pool : Pool}
    {k : Except PoolError Object -> ServiceProgram TaskOutput}
    (hprogram : task.program = perform (.get pool) k) {e : NetEffect}
    {rest : e.Reply -> NetProgram (Except ManagerError ManagedConnection)}
    (hphase : task.phase = .creating (perform e rest)) {r : e.Reply}
    (hstill : forall manager : ModbusManager,
      manager.opening.next .connecting e r = .connecting) :
    Noticed s (s.setTask i (task.enter (.creating (rest r)))) l := by
  rcases hwired.holding_of_get hprogram with ⟨runtime, hholding, _⟩
  have hcreating := hwired.phase
  rw [hholding, hphase] at hcreating
  rcases hcreating with ⟨opening, hrest⟩
  refine noticed_of_same htask rfl ?_
  rw [claim_enter hholding, claim_eq hholding hphase, claim_creating_perform]
  cases opening with
  | connecting =>
      have hnext := hrest.right r
      rw [hstill] at hnext
      exact claim_creating_of_connecting hnext
  | opened context =>
      cases ModbusManager.eq_ret_of_opened hrest

theorem noticed_failure (hwired : TaskWired d s task)
    (htask : s.tasks[i]? = some task) {operationTimeout : Duration}
    {object : Object} {request : ModbusRequest}
    {k : CallResult request.Answer -> ServiceProgram TaskOutput}
    (hprogram : task.program =
      perform (.call operationTimeout object request) k)
    (hphase : task.phase = .ready ∨ task.phase = .inFlight)
    {result : CallResult request.Answer}
    (hresult : result.outcome.answered = false) :
    Noticed s ((s.recordFailure object).setTask i
      (task.resume (.call operationTimeout object request) result k)) l := by
  have hholding := hwired.holding_of_call hprogram
  have hobject := hwired.object_of_call hprogram
  have hused : object.afterCall result = object.markUnhealthy := by
    simp [Object.afterCall, hresult]
  have hclaim : (task.resume (.call operationTimeout object request)
      result k).claim = .holding object.token.fail := by
    rw [claim_resume hholding, <- token_markUnhealthy, <- hused]
    rfl
  have hclient := custodies_client htask
  refine noticed_of_step (a := .fail) ?_ (by decide)
  rw [custodies_setTask, custodies_recordFailure, hclaim]
  refine ConnectionPool.Step.fail ?_ hobject.right.right
  rcases claim_of_call hwired hprogram hphase with hheld | hwaits
  · exact Or.inl (hheld ▸ hclient)
  · exact Or.inr (hwaits ▸ hclient)

end Noticed

theorem step_noticed {d : Deployment} {s s' : State} {l : Label}
    (h : Wired d s) (hstep : Step d s l s') : Noticed s s' l := by
  cases hstep with
  | spawn =>
      refine noticed_of_step (a := .join) ?_ (by decide)
      rw [custodies_addTask]
      exact ConnectionPool.Step.join
  | startRound hfinished =>
      refine noticed_of_step (a := .join) ?_ (by decide)
      rw [custodies_addTask]
      exact ConnectionPool.Step.join
  | runtimeHit htask hprogram hphase hlookup =>
      rename_i i task address slaveId k runtime
      have hwired := h.tasks task (List.mem_of_getElem? htask)
      exact noticed_resume htask (hwired.holding_of_runtime hprogram) hphase rfl
  | runtimeMiss htask hprogram hphase hlookup hinsert =>
      rename_i i task address slaveId k runtime service
      have hwired := h.tasks task (List.mem_of_getElem? htask)
      have hholding := hwired.holding_of_runtime hprogram
      refine noticed_of_step (a := .build) ?_ (by decide)
      rw [custodies_setTask, setClient_claim
        (t := s.addPool service (PoolState.build runtime.pool)) htask,
        custodies_addPool]
      · exact ConnectionPool.Step.build
      · rw [claim_resume hholding, claim_eq hholding hphase]
        rfl
  | acquire htask hprogram hphase hslots hpermit =>
      rename_i i task pool k slots
      have hwired := h.tasks task (List.mem_of_getElem? htask)
      rcases hwired.holding_of_get hprogram with ⟨runtime, hholding, rfl⟩
      refine noticed_of_step (a := .acquire) ?_ (by decide)
      rw [custodies_setTask, custodies_setPool, shelf_takePermit,
        claim_enter hholding]
      have hclient := client_eq htask hholding hphase
      exact ConnectionPool.Step.acquire hclient (custodies_shelf hslots)
        hpermit
  | popIdle htask hprogram hphase hslots hidle =>
      rename_i i n task pool k slots connection
      have hwired := h.tasks task (List.mem_of_getElem? htask)
      have hpool := (hwired.handle_of_get hprogram).pool_eq hslots
      rcases hwired.holding_of_get hprogram with ⟨runtime, hholding, rfl⟩
      refine noticed_of_step (a := .pop) ?_ (by decide)
      rw [custodies_setTask, custodies_setPool, shelf_removeIdle,
        claim_enter hholding]
      have hclient := client_eq htask hholding hphase
      refine ConnectionPool.Step.pop hclient (custodies_shelf hslots) ?_
      simp [PoolState.shelf, hidle, hpool]
  | popEmpty htask hprogram hphase hslots hidle =>
      rename_i i task pool k slots
      have hwired := h.tasks task (List.mem_of_getElem? htask)
      rcases hwired.holding_of_get hprogram with ⟨runtime, hholding, rfl⟩
      refine noticed_of_step (a := .reserve) ?_ (by decide)
      rw [custodies_setTask, claim_enter hholding,
        claim_creating_of_connecting (ModbusManager.create_follows _ _)]
      have hclient := client_eq htask hholding hphase
      refine ConnectionPool.Step.reserve hclient (custodies_shelf hslots) ?_
      simp [PoolState.shelf, hidle]
  | disconnected htask hprogram hphase =>
      rename_i i task pool k connection context rest result
      have hwired := h.tasks task (List.mem_of_getElem? htask)
      rcases hwired.holding_of_get hprogram with ⟨runtime, hholding, rfl⟩
      exact noticed_enter htask hholding hphase rfl
  | recycleOk htask hprogram hphase =>
      rename_i i task pool k connection recycled
      have hwired := h.tasks task (List.mem_of_getElem? htask)
      rcases hwired.holding_of_get hprogram with ⟨runtime, hholding, rfl⟩
      have hrecycling := hwired.phase
      rw [hholding, hphase] at hrecycling
      cases hrecycling.right with
      | accepted hstatus =>
          exact noticed_resume htask hholding hphase rfl
  | recycleErr htask hprogram hphase =>
      rename_i i task pool k connection recycled err
      have hwired := h.tasks task (List.mem_of_getElem? htask)
      rcases hwired.holding_of_get hprogram with ⟨runtime, hholding, rfl⟩
      have hrecycling := hwired.phase
      rw [hholding, hphase] at hrecycling
      have hclient := client_eq htask hholding hphase
      cases hrecycling.right with
      | refused hstatus =>
          refine noticed_of_step (a := .discard) ?_ (by decide)
          rw [custodies_setTask, claim_enter hholding]
          exact ConnectionPool.Step.discard hclient hstatus
  | connected htask hprogram hphase =>
      rename_i i task pool k connectTimeout addr rest
      have hwired := h.tasks task (List.mem_of_getElem? htask)
      rcases hwired.holding_of_get hprogram with ⟨runtime, hholding, rfl⟩
      have hcreating := hwired.phase
      rw [hholding, hphase] at hcreating
      have hclient := client_eq htask hholding hphase
      rw [claim_creating_perform] at hclient
      rcases hcreating with ⟨opening, hrest⟩
      have hreturned := ModbusManager.eq_ret_of_opened
        (hrest.right (.ok (.ok (Context.attach s.streams))))
      refine noticed_of_step (a := .opened) ?_ (by decide)
      rw [custodies_setTask, custodies_openStream, claim_enter hholding,
        hreturned]
      exact ConnectionPool.Step.opened hclient
  | refused htask hprogram hphase =>
      exact noticed_creating (h.tasks _ (List.mem_of_getElem? htask)) htask
        hprogram hphase (fun _ => rfl)
  | connectTimeout htask hprogram hphase =>
      exact noticed_creating (h.tasks _ (List.mem_of_getElem? htask)) htask
        hprogram hphase (fun _ => rfl)
  | slept htask hprogram hphase =>
      exact noticed_creating (h.tasks _ (List.mem_of_getElem? htask)) htask
        hprogram hphase (fun _ => rfl)
  | createOk htask hprogram hphase =>
      rename_i i task pool k connection
      have hwired := h.tasks task (List.mem_of_getElem? htask)
      rcases hwired.holding_of_get hprogram with ⟨runtime, hholding, rfl⟩
      exact noticed_resume htask hholding hphase rfl
  | createErr htask hprogram hphase hslots =>
      rename_i i task pool k slots err
      have hwired := h.tasks task (List.mem_of_getElem? htask)
      rcases hwired.holding_of_get hprogram with ⟨runtime, hholding, rfl⟩
      have hclient := client_eq htask hholding hphase
      refine noticed_of_step (a := .abandon) ?_ (by decide)
      rw [custodies_setTask, custodies_setPool, shelf_returnPermit,
        claim_resume hholding]
      exact ConnectionPool.Step.abandon hclient (Or.inr (Or.inl rfl))
        (custodies_shelf hslots)
  | send htask hprogram hphase =>
      rename_i i task operationTimeout object request k
      have hwired := h.tasks task (List.mem_of_getElem? htask)
      have hholding := hwired.holding_of_call hprogram
      have hobject := hwired.object_of_call hprogram
      have hclient := client_eq htask hholding hphase
      refine noticed_of_step (a := .send) ?_ (by decide)
      rw [custodies_setTask, custodies_setOutstanding, claim_enter hholding]
      exact ConnectionPool.Step.send hclient hobject.right.right
  | answer htask hprogram hphase hanswer hstale =>
      rename_i i task operationTimeout object request k reply result
      have hwired := h.tasks task (List.mem_of_getElem? htask)
      have hholding := hwired.holding_of_call hprogram
      have hobject := hwired.object_of_call hprogram
      have hclient := client_eq htask hholding hphase
      refine noticed_of_step (a := .reply) ?_ (by decide)
      rw [custodies_setTask, custodies_setOutstanding, claim_resume hholding]
      exact ConnectionPool.Step.reply hclient hobject.right.right
  | transportError htask hprogram hphase =>
      exact noticed_failure (h.tasks _ (List.mem_of_getElem? htask)) htask
        hprogram hphase rfl
  | operationTimeout htask hprogram hphase =>
      exact noticed_failure (h.tasks _ (List.mem_of_getElem? htask)) htask
        hprogram hphase rfl
  | release htask hprogram hphase hslots =>
      rename_i i task object k slots
      have hwired := h.tasks task (List.mem_of_getElem? htask)
      have hholding := hwired.holding_of_release hprogram
      have hobject := hwired.object_of_release hprogram
      have hclient := client_eq htask hholding hphase
      refine noticed_of_step (a := .giveBack) ?_ (by decide)
      rw [custodies_setTask, custodies_setPool,
        shelf_giveBack (hobject.left.pool_eq hslots), claim_resume hholding]
      exact ConnectionPool.Step.giveBack hclient (custodies_shelf hslots)
  | post htask hprogram hphase =>
      rename_i i task url payload k
      have hwired := h.tasks task (List.mem_of_getElem? htask)
      have hholding := hwired.holding_of_post hprogram
      exact noticed_enter htask hholding hphase rfl
  | posted htask hprogram hphase =>
      rename_i i task url payload k outcome
      have hwired := h.tasks task (List.mem_of_getElem? htask)
      have hholding := hwired.holding_of_post hprogram
      exact noticed_resume htask hholding hphase rfl
  | cancelWaiting htask hkind hprogram heffect hphase =>
      rename_i i task request e k
      have hwired := h.tasks task (List.mem_of_getElem? htask)
      refine noticed_of_same htask rfl ?_
      have hdropped : (task.enter .dropped).claim = .nothing := by
        unfold Task.claim
        cases (task.enter .dropped).holding <;> rfl
      rcases heffect with ⟨address, slaveId, rfl⟩ | ⟨pool, rfl⟩
      · rw [hdropped, claim_eq (hwired.holding_of_runtime hprogram) hphase]
        rfl
      · rcases hwired.holding_of_get hprogram with ⟨runtime, hholding, _⟩
        rw [hdropped, claim_eq hholding hphase]
        rfl
  | cancelGetting htask hkind hprogram hready hdropped hslots =>
      rename_i i task request pool k slots
      have hwired := h.tasks task (List.mem_of_getElem? htask)
      rcases hwired.holding_of_get hprogram with ⟨runtime, hholding, _⟩
      refine noticed_of_step (a := .abandon) ?_ (by decide)
      rw [custodies_setTask, custodies_setPool, shelf_returnPermit,
        claim_enter hholding]
      exact ConnectionPool.Step.abandon (custodies_client htask)
        (claim_of_get hwired hprogram hready hdropped) (custodies_shelf hslots)
  | cancelCall htask hkind hprogram hphase hslots hstale hsent =>
      rename_i i task handled operationTimeout object request k slots count
      have hwired := h.tasks task (List.mem_of_getElem? htask)
      have hholding := hwired.holding_of_call hprogram
      have hobject := hwired.object_of_call hprogram
      have hafter : (((s.setStale object.connection.context.stream
          count).setPool object.pool.id
            (slots.giveBack object.connection)).setTask i
              (task.enter .dropped)).custodies =
          (s.custodies.setShelf object.token.pool
            (slots.shelf.giveBack object.token)).setClient i .nothing := by
        rw [custodies_setTask, custodies_setPool, custodies_setStale,
          shelf_giveBack (hobject.left.pool_eq hslots), claim_enter hholding]
        rfl
      rcases hphase with hready | hflight
      · have hclient := client_eq htask hholding hready
        refine noticed_of_step (a := .giveBack) ?_ (by decide)
        rw [hafter]
        exact ConnectionPool.Step.giveBack hclient (custodies_shelf hslots)
      · have hclient := client_eq htask hholding hflight
        refine Or.inr ⟨.vanish, ?_, fun _ => ⟨i, task, rfl, htask, hflight⟩⟩
        rw [hafter]
        exact ConnectionPool.Step.vanish hclient (custodies_shelf hslots)

/-!
## Reachable states
-/

theorem machine_abstraction (d : Deployment) :
    (machine d).Abstraction ConnectionPool.system State.custodies where
  init := by
    intro s hs
    rcases hs with rfl
    rfl
  step := by
    intro s l s' hs hstep
    rcases step_noticed (reachable_wired hs) hstep with hsame | ⟨a, ha, _⟩
    · exact Or.inl hsame
    · exact Or.inr ⟨a, ha⟩

/-- No future is dropped between sending a request and consuming its reply. -/
def NoneDroppedInFlight (s : State) (l : Label) : Prop :=
  forall i task, l = .cancel i -> s.tasks[i]? = some task ->
    task.phase ≠ .inFlight

theorem undisturbed_abstraction (d : Deployment) :
    ((machine d).restrict NoneDroppedInFlight).Abstraction
      (ConnectionPool.system.restrict ConnectionPool.noVanish)
      State.custodies where
  init := (machine_abstraction d).init
  step := by
    intro s l s' hs hstep
    rcases step_noticed (reachable_wired hs.of_restrict) hstep.left with
      hsame | ⟨a, ha, hvanish⟩
    · exact Or.inl hsame
    · refine Or.inr ⟨a, ha, ?_⟩
      intro hvanishes
      rcases hvanish hvanishes with ⟨i, task, hl, htask, hflight⟩
      exact hstep.right i task hl htask hflight

theorem reachable_custodies {d : Deployment} {s : State} (h : Reachable d s) :
    ConnectionPool.system.Reachable s.custodies :=
  (machine_abstraction d).reachable h

theorem Wired.shelf_capacity {d : Deployment} {s : State} (h : Wired d s)
    {p : Nat} {shelf : Shelf}
    (hshelf : s.custodies.shelves[p]? = some shelf) :
    shelf.capacity = max 1 d.modbus.poolMaxSize := by
  simp only [State.custodies, List.getElem?_map, Option.map_eq_some_iff]
    at hshelf
  rcases hshelf with ⟨slots, hslots, rfl⟩
  have hid := h.pools.numbered p slots hslots
  have hbuilt := (h.pool_built ⟨slots, hid.symm ▸ hslots, rfl⟩).right
  show slots.pool.maxSize = _
  rw [hbuilt]
  exact Nat.max_comm _ _

end ConveyorModbus
