import Mathlib.Algebra.Group.Prod
import ConveyorModbus.Library.Ledger
import ConveyorModbus.System.Abstraction
import ConveyorModbus.System.Replay

/-!
# What becomes of every connection

A connection that was opened for a target is healthy and idle or with a task,
or an operation has failed on it, or its borrower was dropped inside
`pool.get()` and took it along.  Nothing else ends one, so a target is connected
to anew only for a failure or such a drop, apart from the first connections that
fill its pool.
-/

namespace ConveyorModbus

open Counting Effects Program
open ConnectionPool (Token Custody)

def healthyOf (p : Nat) (token : Token) : Nat :=
  if token.healthy = true ∧ token.pool = p then 1 else 0

def State.healthyConnections (p : Nat) (s : State) : Nat :=
  ConnectionPool.weigh (healthyOf p) s.custodies

def State.failures (p : Nat) (s : State) : Nat :=
  s.failed.countP (fun object => object.pool.id == p)

def State.opens (p : Nat) (s : State) : Label -> Nat
  | .connected i =>
      match s.tasks[i]? with
      | some task =>
          match task.program with
          | .perform (.get pool) _ => if pool.id = p then 1 else 0
          | _ => 0
      | none => 0
  | _ => 0

/-- A healthy connection of pool `p` goes with a handler that is dropped inside
`pool.get()`. -/
def State.abandons (p : Nat) (s : State) : Label -> Nat
  | .cancel i =>
      match s.tasks[i]? with
      | some task =>
          match task.program with
          | .perform (.get _) _ => task.claim.weigh (healthyOf p)
          | _ => 0
      | none => 0
  | _ => 0

def State.turnover (p : Nat) (s : State) (l : Label) : Nat × Nat :=
  (s.opens p l, s.abandons p l)

def Balanced (p opened abandoned : Nat) (s : State) : Prop :=
  opened = s.healthyConnections p + s.failures p + abandoned

/-!
## One step
-/

section Step

variable {d : Deployment} {s t : State} {p i n opened abandoned : Nat}
  {task task' : Task}

theorem healthy_setTask (htask : t.tasks[i]? = some task) (task' : Task) :
    (t.setTask i task').healthyConnections p +
        task.claim.weigh (healthyOf p) =
      t.healthyConnections p + task'.claim.weigh (healthyOf p) := by
  rw [State.healthyConnections, custodies_setTask]
  exact ConnectionPool.weigh_setClient (custodies_client htask) task'.claim

theorem healthy_setPool {slots : PoolState}
    (hslots : s.pools[n]? = some slots) (slots' : PoolState) :
    (s.setPool n slots').healthyConnections p +
        total (healthyOf p) slots.shelf.idle =
      s.healthyConnections p + total (healthyOf p) slots'.shelf.idle := by
  rw [State.healthyConnections, custodies_setPool]
  exact ConnectionPool.weigh_setShelf (custodies_shelf hslots) slots'.shelf

theorem healthy_permit {slots : PoolState}
    (hslots : s.pools[n]? = some slots) (slots' : PoolState)
    (hidle : slots'.shelf.idle = slots.shelf.idle) :
    (s.setPool n slots').healthyConnections p = s.healthyConnections p := by
  have hset := healthy_setPool (p := p) hslots slots'
  rw [hidle] at hset
  omega

theorem healthy_giveBack {slots : PoolState} {object : Object}
    (hslots : s.pools[object.pool.id]? = some slots)
    (hpool : slots.pool = object.pool) :
    (s.setPool object.pool.id
        (slots.giveBack object.connection)).healthyConnections p =
      s.healthyConnections p + healthyOf p object.token := by
  have hset := healthy_setPool (p := p) hslots
    (slots.giveBack object.connection)
  rw [shelf_giveBack hpool, ConnectionPool.Shelf.giveBack_idle, total_append,
    total_cons, total_nil] at hset
  omega

theorem balanced_move (h : Balanced p opened abandoned s)
    (htask : t.tasks[i]? = some task)
    (hfailed : t.failed = s.failed)
    (hmove : t.healthyConnections p + task'.claim.weigh (healthyOf p) =
      s.healthyConnections p + task.claim.weigh (healthyOf p)) :
    Balanced p opened abandoned (t.setTask i task') := by
  have hset := healthy_setTask (p := p) htask task'
  have hfailures : (t.setTask i task').failures p = s.failures p := by
    show t.failed.countP _ = s.failed.countP _
    rw [hfailed]
  unfold Balanced at h ⊢
  omega

theorem balanced_enter {holding : Holding} {phase phase' : Phase}
    (h : Balanced p opened abandoned s) (htask : t.tasks[i]? = some task)
    (hfailed : t.failed = s.failed)
    (hhealthy : t.healthyConnections p = s.healthyConnections p)
    (hholding : task.holding = holding) (hphase : task.phase = phase)
    (hsame : (holding.claim phase').weigh (healthyOf p) =
      (holding.claim phase).weigh (healthyOf p)) :
    Balanced p opened abandoned (t.setTask i (task.enter phase')) := by
  apply balanced_move h htask hfailed
  rw [claim_enter hholding, claim_eq hholding hphase, hhealthy, hsame]

theorem balanced_resume {holding : Holding} {phase : Phase} {e : ServiceEffect}
    {r : e.Reply} {k : e.Reply -> ServiceProgram TaskOutput}
    (h : Balanced p opened abandoned s) (htask : t.tasks[i]? = some task)
    (hfailed : t.failed = s.failed)
    (hhealthy : t.healthyConnections p = s.healthyConnections p)
    (hholding : task.holding = holding) (hphase : task.phase = phase)
    (hsame : ((holding.next e r).claim .ready).weigh (healthyOf p) =
      (holding.claim phase).weigh (healthyOf p)) :
    Balanced p opened abandoned (t.setTask i (task.resume e r k)) := by
  apply balanced_move h htask hfailed
  rw [claim_resume hholding, claim_eq hholding hphase, hhealthy, hsame]

theorem balanced_addTask (h : Balanced p opened abandoned s)
    (conveyor : ConveyorConfig) (kind : TaskKind) :
    Balanced p opened abandoned (s.addTask (Task.start conveyor kind)) := by
  have hhealthy : (s.addTask (Task.start conveyor kind)).healthyConnections p =
      s.healthyConnections p := by
    rw [State.healthyConnections, custodies_addTask]
    exact ConnectionPool.weigh_addClient
  unfold Balanced
  rw [hhealthy]
  exact h

theorem claim_dropped (task : Task) : (task.enter .dropped).claim = .nothing := by
  unfold Task.claim
  cases (task.enter .dropped).holding <;> rfl

theorem claim_connecting (hwired : TaskWired d s task) {pool : Pool}
    {k : Except PoolError Object -> ServiceProgram TaskOutput}
    (hprogram : task.program = perform (.get pool) k) {e : NetEffect}
    {rest : e.Reply -> NetProgram (Except ManagerError ManagedConnection)}
    (hphase : task.phase = .creating (perform e rest)) {r : e.Reply}
    (hstill : forall manager : ModbusManager,
      manager.opening.next .connecting e r = .connecting) :
    (task.enter (.creating (rest r))).claim = task.claim := by
  rcases hwired.holding_of_get hprogram with ⟨runtime, hholding, _⟩
  have hcreating := hwired.phase
  rw [hholding, hphase] at hcreating
  rcases hcreating with ⟨opening, hrest⟩
  rw [claim_enter hholding, claim_eq hholding hphase, claim_creating_perform]
  cases opening with
  | connecting =>
      have hnext := hrest.right r
      rw [hstill] at hnext
      exact claim_creating_of_connecting hnext
  | opened context =>
      cases ModbusManager.eq_ret_of_opened hrest

theorem balanced_connected (h : Balanced p opened abandoned s)
    (htask : s.tasks[i]? = some task) (hwired : TaskWired d s task)
    {pool : Pool} {k : Except PoolError Object -> ServiceProgram TaskOutput}
    (hprogram : task.program = perform (.get pool) k)
    {connectTimeout : Duration} {addr : SocketAddr}
    {rest : Except Elapsed (Except IoError Context) ->
      NetProgram (Except ManagerError ManagedConnection)}
    (hphase : task.phase =
      .creating (perform (.connect connectTimeout addr) rest)) :
    Balanced p (opened + if pool.id = p then 1 else 0) abandoned
      (s.openStream.setTask i (task.enter (.creating
        (rest (.ok (.ok (Context.attach s.streams))))))) := by
  rcases hwired.holding_of_get hprogram with ⟨runtime, hholding, rfl⟩
  have hcreating := hwired.phase
  rw [hholding, hphase] at hcreating
  rcases hcreating with ⟨opening, hrest⟩
  have hreturned := ModbusManager.eq_ret_of_opened
    (hrest.right (.ok (.ok (Context.attach s.streams))))
  have hafter : ((Holding.looked runtime).claim (.creating (ret (.ok
      (runtime.pool.manager.established
        (Context.attach s.streams)))))).weigh (healthyOf p) =
      if runtime.pool.id = p then 1 else 0 := by
    simp [Holding.claim, claimCreating, healthyOf, Object.token,
      ModbusManager.established]
  have hset := healthy_setTask (p := p) (t := s.openStream) htask
    (task.enter (.creating (rest (.ok (.ok (Context.attach s.streams))))))
  rw [claim_enter hholding, claim_eq hholding hphase, hreturned,
    claim_creating_perform, hafter, Custody.weigh_slot] at hset
  have hsame : s.openStream.healthyConnections p = s.healthyConnections p := rfl
  rw [hreturned]
  unfold Balanced at h ⊢
  show _ = _ + s.failures p + abandoned
  omega

theorem balanced_failure (h : Balanced p opened abandoned s)
    (htask : s.tasks[i]? = some task) (hwired : TaskWired d s task)
    {operationTimeout : Duration} {object : Object} {request : ModbusRequest}
    {k : CallResult request.Answer -> ServiceProgram TaskOutput}
    (hprogram : task.program =
      perform (.call operationTimeout object request) k)
    (hphase : task.phase = .ready ∨ task.phase = .inFlight)
    {result : CallResult request.Answer}
    (hresult : result.outcome.answered = false) :
    Balanced p opened abandoned ((s.recordFailure object).setTask i
      (task.resume (.call operationTimeout object request) result k)) := by
  have hhealthy := (hwired.object_of_call hprogram).right.right
  have hbefore := weigh_of_call hwired hprogram hphase (healthyOf p)
  have hafter : (task.resume (.call operationTimeout object request) result
      k).claim.weigh (healthyOf p) = 0 := by
    have hused : object.afterCall result = object.markUnhealthy := by
      simp [Object.afterCall, hresult]
    rw [claim_resume (hwired.holding_of_call hprogram)]
    show (Custody.holding (object.afterCall result).token).weigh
      (healthyOf p) = 0
    rw [hused]
    rfl
  have hset := healthy_setTask (p := p) (t := s.recordFailure object) htask
    (task.resume (.call operationTimeout object request) result k)
  have hsame : (s.recordFailure object).healthyConnections p =
      s.healthyConnections p := by
    rw [State.healthyConnections, custodies_recordFailure]
    exact ConnectionPool.weigh_recordFailure _
  have hfailures : ((s.recordFailure object).setTask i
      (task.resume (.call operationTimeout object request) result
        k)).failures p = s.failures p + healthyOf p object.token := by
    show (s.failed ++ [object]).countP _ = _
    rw [List.countP_append, List.countP_singleton]
    simp [State.failures, healthyOf, Object.token, hhealthy]
  unfold Balanced at h ⊢
  omega

end Step

theorem balanced_step {d : Deployment} {s s' : State} {l : Label}
    {p opened abandoned : Nat} (hwired : Wired d s)
    (h : Balanced p opened abandoned s) (hstep : Step d s l s') :
    Balanced p (opened + s.opens p l) (abandoned + s.abandons p l) s' := by
  cases hstep with
  | spawn => exact balanced_addTask h _ _
  | startRound => exact balanced_addTask h _ _
  | runtimeHit htask hprogram hphase =>
      have htaskWired := hwired.tasks _ (List.mem_of_getElem? htask)
      exact balanced_resume h htask rfl rfl
        (htaskWired.holding_of_runtime hprogram) hphase rfl
  | runtimeMiss htask hprogram hphase =>
      rename_i i task address slaveId k runtime service hlookup hinsert
      have htaskWired := hwired.tasks _ (List.mem_of_getElem? htask)
      have hsame : (s.addPool service
          (PoolState.build runtime.pool)).healthyConnections p =
          s.healthyConnections p := by
        rw [State.healthyConnections, custodies_addPool]
        exact ConnectionPool.weigh_addShelf _
      exact balanced_resume h
        (t := s.addPool service (PoolState.build runtime.pool)) htask rfl hsame
        (htaskWired.holding_of_runtime hprogram) hphase rfl
  | acquire htask hprogram hphase hslots =>
      rename_i i task pool k slots hpermit
      have htaskWired := hwired.tasks _ (List.mem_of_getElem? htask)
      rcases htaskWired.holding_of_get hprogram with ⟨runtime, hholding, rfl⟩
      exact balanced_enter h
        (t := s.setPool runtime.pool.id slots.takePermit) htask rfl
        (healthy_permit hslots slots.takePermit rfl) hholding hphase rfl
  | popIdle htask hprogram hphase hslots hidle =>
      rename_i i n task pool k slots connection
      have htaskWired := hwired.tasks _ (List.mem_of_getElem? htask)
      have hpool := (htaskWired.handle_of_get hprogram).pool_eq hslots
      rcases htaskWired.holding_of_get hprogram with ⟨runtime, hholding, rfl⟩
      have htoken : slots.shelf.idle[n]? =
          some (Object.token { pool := runtime.pool, connection }) := by
        simp [PoolState.shelf, hidle, hpool]
      have hset := healthy_setPool (p := p) hslots (slots.removeIdle n)
      have herase := total_eraseIdx (healthyOf p) htoken
      rw [shelf_removeIdle, ConnectionPool.Shelf.remove_idle] at hset
      apply balanced_move h
        (t := s.setPool runtime.pool.id (slots.removeIdle n)) htask rfl
      rw [claim_enter hholding, claim_eq hholding hphase]
      show _ + healthyOf p (Object.token { pool := runtime.pool, connection }) =
        _ + 0
      omega
  | popEmpty htask hprogram hphase hslots hidle =>
      have htaskWired := hwired.tasks _ (List.mem_of_getElem? htask)
      rcases htaskWired.holding_of_get hprogram with ⟨runtime, hholding, rfl⟩
      apply balanced_enter h htask rfl rfl hholding hphase
      rw [claim_creating_of_connecting (ModbusManager.create_follows _ _)]
      rfl
  | disconnected htask hprogram hphase =>
      have htaskWired := hwired.tasks _ (List.mem_of_getElem? htask)
      rcases htaskWired.holding_of_get hprogram with ⟨runtime, hholding, rfl⟩
      exact balanced_enter h htask rfl rfl hholding hphase rfl
  | recycleOk htask hprogram hphase =>
      have htaskWired := hwired.tasks _ (List.mem_of_getElem? htask)
      rcases htaskWired.holding_of_get hprogram with ⟨runtime, hholding, rfl⟩
      have hrecycling := htaskWired.phase
      rw [hholding, hphase] at hrecycling
      cases hrecycling.right with
      | accepted hstatus =>
          exact balanced_resume h htask rfl rfl hholding hphase rfl
  | recycleErr htask hprogram hphase =>
      have htaskWired := hwired.tasks _ (List.mem_of_getElem? htask)
      rcases htaskWired.holding_of_get hprogram with ⟨runtime, hholding, rfl⟩
      have hrecycling := htaskWired.phase
      rw [hholding, hphase] at hrecycling
      cases hrecycling.right with
      | refused hstatus =>
          apply balanced_enter h htask rfl rfl hholding hphase
          simp [Holding.claim, healthyOf, Object.token, hstatus]
  | connected htask hprogram hphase =>
      rename_i i task pool k connectTimeout addr rest
      have hopens : s.opens p (.connected i) =
          if pool.id = p then 1 else 0 := by
        simp [State.opens, htask, hprogram]
      rw [hopens]
      exact balanced_connected h htask
        (hwired.tasks task (List.mem_of_getElem? htask)) hprogram hphase
  | refused htask hprogram hphase =>
      have htaskWired := hwired.tasks _ (List.mem_of_getElem? htask)
      apply balanced_move h htask rfl
      rw [claim_connecting htaskWired hprogram hphase (fun _ => rfl)]
  | connectTimeout htask hprogram hphase =>
      have htaskWired := hwired.tasks _ (List.mem_of_getElem? htask)
      apply balanced_move h htask rfl
      rw [claim_connecting htaskWired hprogram hphase (fun _ => rfl)]
  | slept htask hprogram hphase =>
      have htaskWired := hwired.tasks _ (List.mem_of_getElem? htask)
      apply balanced_move h htask rfl
      rw [claim_connecting htaskWired hprogram hphase (fun _ => rfl)]
  | createOk htask hprogram hphase =>
      have htaskWired := hwired.tasks _ (List.mem_of_getElem? htask)
      rcases htaskWired.holding_of_get hprogram with ⟨runtime, hholding, rfl⟩
      exact balanced_resume h htask rfl rfl hholding hphase rfl
  | createErr htask hprogram hphase hslots =>
      rename_i i task pool k slots err
      have htaskWired := hwired.tasks _ (List.mem_of_getElem? htask)
      rcases htaskWired.holding_of_get hprogram with ⟨runtime, hholding, rfl⟩
      exact balanced_resume h
        (t := s.setPool runtime.pool.id slots.returnPermit) htask rfl
        (healthy_permit hslots slots.returnPermit rfl) hholding hphase rfl
  | send htask hprogram hphase =>
      rename_i i task operationTimeout object request k
      have htaskWired := hwired.tasks _ (List.mem_of_getElem? htask)
      exact balanced_enter h
        (t := s.setOutstanding object.connection.context.stream
          (s.outstanding object.connection.context.stream + 1)) htask rfl rfl
        (htaskWired.holding_of_call hprogram) hphase rfl
  | answer htask hprogram hphase hreply hstale =>
      rename_i i task operationTimeout object request k reply result
      have htaskWired := hwired.tasks _ (List.mem_of_getElem? htask)
      exact balanced_resume h
        (t := s.setOutstanding object.connection.context.stream
          (s.outstanding object.connection.context.stream - 1)) htask rfl rfl
        (htaskWired.holding_of_call hprogram) hphase rfl
  | transportError htask hprogram hphase =>
      exact balanced_failure h htask
        (hwired.tasks _ (List.mem_of_getElem? htask)) hprogram hphase rfl
  | operationTimeout htask hprogram hphase =>
      exact balanced_failure h htask
        (hwired.tasks _ (List.mem_of_getElem? htask)) hprogram hphase rfl
  | release htask hprogram hphase hslots =>
      rename_i i task object k slots
      have htaskWired := hwired.tasks _ (List.mem_of_getElem? htask)
      have hholding := htaskWired.holding_of_release hprogram
      have hpool :=
        (htaskWired.object_of_release hprogram).left.pool_eq hslots
      apply balanced_move h (t := s.setPool object.pool.id
        (slots.giveBack object.connection)) htask rfl
      rw [claim_resume hholding, claim_eq hholding hphase,
        healthy_giveBack hslots hpool]
      rfl
  | post htask hprogram hphase =>
      have htaskWired := hwired.tasks _ (List.mem_of_getElem? htask)
      exact balanced_enter h htask rfl rfl
        (htaskWired.holding_of_post hprogram) hphase rfl
  | posted htask hprogram hphase =>
      have htaskWired := hwired.tasks _ (List.mem_of_getElem? htask)
      exact balanced_resume h htask rfl rfl
        (htaskWired.holding_of_post hprogram) hphase rfl
  | cancelWaiting htask hkind hprogram heffect hphase =>
      rename_i i task request e k
      have htaskWired := hwired.tasks _ (List.mem_of_getElem? htask)
      have hclaim : task.claim = .nothing := by
        rcases heffect with ⟨address, slaveId, rfl⟩ | ⟨pool, rfl⟩
        · rw [claim_eq (htaskWired.holding_of_runtime hprogram) hphase]
          rfl
        · rcases htaskWired.holding_of_get hprogram with
            ⟨runtime, hholding, _⟩
          rw [claim_eq hholding hphase]
          rfl
      have hnone : s.abandons p (.cancel i) = 0 := by
        simp only [State.abandons, htask, hclaim, Custody.weigh_nothing]
        split <;> rfl
      rw [hnone]
      apply balanced_move h htask rfl
      rw [claim_dropped, hclaim]
  | cancelGetting htask hkind hprogram hready hdropped hslots =>
      rename_i i task request pool k slots
      have hlost : s.abandons p (.cancel i) =
          task.claim.weigh (healthyOf p) := by
        simp [State.abandons, htask, hprogram]
      have hset := healthy_setTask (p := p)
        (t := s.setPool pool.id slots.returnPermit) htask
        (task.enter .dropped)
      rw [claim_dropped, Custody.weigh_nothing,
        healthy_permit hslots slots.returnPermit rfl] at hset
      rw [hlost]
      unfold Balanced at h ⊢
      show opened = _ + s.failures p + _
      omega
  | cancelCall htask hkind hprogram hphase hslots hstale hsent =>
      rename_i i task handled operationTimeout object request k slots count
      have htaskWired := hwired.tasks _ (List.mem_of_getElem? htask)
      have hpool := (htaskWired.object_of_call hprogram).left.pool_eq hslots
      have hnone : s.abandons p (.cancel i) = 0 := by
        simp [State.abandons, htask, hprogram]
      rw [hnone]
      apply balanced_move h
        (t := (s.setStale object.connection.context.stream count).setPool
          object.pool.id (slots.giveBack object.connection)) htask rfl
      rw [claim_dropped, weigh_of_call htaskWired hprogram hphase _,
        healthy_giveBack (s := s.setStale _ _) hslots hpool]
      rfl

/-!
## Whole runs
-/

theorem balanced_run {d : Deployment} {s s' : State} {ls : List Label}
    {p opened abandoned : Nat} {more : Nat × Nat} (hs : Reachable d s)
    (h : Balanced p opened abandoned s)
    (hrun : (machine d).Metered (State.turnover p) s ls more s') :
    Balanced p (opened + more.1) (abandoned + more.2) s' := by
  induction hrun generalizing opened abandoned with
  | nil s => exact h
  | cons hstep _ ih =>
      have hnext := ih (Transition.System.Reachable.step hs hstep)
        (balanced_step (reachable_wired hs) h hstep)
      rw [Nat.add_assoc, Nat.add_assoc] at hnext
      exact hnext

theorem healthyConnections_le {d : Deployment} {s : State}
    (hs : Reachable d s) (p : Nat) :
    s.healthyConnections p ≤ max 1 d.modbus.poolMaxSize := by
  have hoccupied := ConnectionPool.occupied_le_of_capacity (p := p)
    (reachable_custodies hs) (fun shelf hshelf =>
      Nat.le_of_eq ((reachable_wired hs).shelf_capacity hshelf))
  have hle : s.healthyConnections p ≤
      ConnectionPool.weigh (ConnectionPool.ofPool p) s.custodies := by
    apply ConnectionPool.weigh_mono
    intro token
    unfold healthyOf ConnectionPool.ofPool
    by_cases hpool : token.pool = p
    · simp only [hpool, and_true, if_true]
      split <;> simp
    · simp [hpool]
  unfold ConnectionPool.occupied at hoccupied
  omega

/-- Every connection opened for a target is healthy still, failed an operation
or went with a dropped handler, and the healthy ones never outnumber the
permits. -/
theorem connections_accounted (d : Deployment) (p opened abandoned : Nat)
    (ls : List Label) (s : State)
    (hrun : (machine d).Metered (State.turnover p) (State.initial d.modbus) ls
      (opened, abandoned) s) :
    opened = s.healthyConnections p + s.failures p + abandoned ∧
      opened ≤ max 1 d.modbus.poolMaxSize + s.failures p + abandoned := by
  have hstart : Balanced p 0 0 (State.initial d.modbus) := rfl
  have hbalanced := balanced_run (Transition.System.Reachable.init rfl) hstart
    hrun
  rw [Nat.zero_add, Nat.zero_add] at hbalanced
  have hle := healthyConnections_le
    (hrun.run.reachable (Transition.System.Reachable.init rfl)) p
  constructor
  · exact hbalanced
  · have hsum : opened = s.healthyConnections p + s.failures p + abandoned :=
      hbalanced
    omega

/-- A write times out, and the next operation connects anew. -/
theorem connections_accounted_line :
    exists s opened abandoned,
      (machine lineDeployment).Metered (State.turnover 0)
        (State.initial lineDeployment.modbus)
        ([.spawn (.write { source := "A1", destination := "B1" })] ++
          connectLabels 0 ++ [.send 0, .operationTimeout 0, .release 0,
          .spawn (.canPutdown { location := "B1" }), .runtime 1, .acquire 1,
          .popIdle 1 0, .disconnected 1 (.ok ()), .recycled 1, .popEmpty 1,
          .connected 1, .created 1]) (opened, abandoned) s ∧
      s.healthyConnections 0 = 1 ∧ s.failures 0 = 1 ∧
      opened = s.healthyConnections 0 + s.failures 0 + abandoned := by
  have hreplay : (replay lineDeployment (State.initial lineDeployment.modbus)
      ([.spawn (.write { source := "A1", destination := "B1" })] ++
        connectLabels 0 ++ [.send 0, .operationTimeout 0, .release 0,
        .spawn (.canPutdown { location := "B1" }), .runtime 1, .acquire 1,
        .popIdle 1 0, .disconnected 1 (.ok ()), .recycled 1, .popEmpty 1,
        .connected 1, .created 1])).any
      (fun s => s.healthyConnections 0 == 1 && s.failures 0 == 1) = true := by
    decide
  rcases exists_of_replay hreplay with ⟨s, hs, hgood⟩
  rw [Bool.and_eq_true, beq_iff_eq, beq_iff_eq] at hgood
  rcases Transition.System.exists_metered (State.turnover 0) (replay_run hs)
    with ⟨⟨opened, abandoned⟩, hmetered⟩
  exact ⟨s, opened, abandoned, hmetered, hgood.left, hgood.right,
    (connections_accounted lineDeployment 0 opened abandoned _ s
      hmetered).left⟩

end ConveyorModbus
