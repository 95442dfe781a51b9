import ConveyorModbus.System.Progress
import ConveyorModbus.System.Replay

/-!
# Permits and open connections

Where the permits and the open connections of the service are.  Every permit of
a pool is free or with exactly one task, however tasks end; a target never has
more connections than its pool has permits; and every open connection is in one
place only: in one idle queue, or with one task.
-/

namespace ConveyorModbus

open Counting Effects Program

/-!
## Open connections
-/

def created :
    NetProgram (Except ManagerError ManagedConnection) ->
      Option ManagedConnection
  | .ret (.ok connection) => some connection
  | _ => none

def Task.connection (task : Task) : Option ManagedConnection :=
  match task.holding, task.phase with
  | _, .dropped => none
  | .looked _, .recycling connection _ => some connection
  | .looked _, .creating rest => created rest
  | .fresh object, _ => some object.connection
  | .used object, _ => some object.connection
  | _, _ => none

def State.openConnections (s : State) : List ManagedConnection :=
  s.pools.flatMap PoolState.idle ++ s.tasks.filterMap Task.connection

def ManagedConnection.stream (connection : ManagedConnection) : Nat :=
  connection.context.stream

theorem weigh_claim (task : Task) (n : Nat) :
    task.claim.weigh (ConnectionPool.onStream n) =
      total (fun connection => if connection.stream = n then 1 else 0)
        task.connection.toList := by
  unfold Task.claim Task.connection
  cases task.holding with
  | nothing => cases task.phase <;> rfl
  | looked runtime =>
      cases task.phase with
      | creating rest =>
          cases rest with
          | ret result => cases result <;> rfl
          | perform e k => rfl
      | ready => rfl
      | popping => rfl
      | recycling connection rest => rfl
      | inFlight => rfl
      | posting => rfl
      | dropped => rfl
  | fresh object => cases task.phase <;> rfl
  | used object => cases task.phase <;> rfl

theorem count_openConnections (s : State) (n : Nat) :
    (s.openConnections.map ManagedConnection.stream).count n =
      ConnectionPool.weigh (ConnectionPool.onStream n) s.custodies := by
  have hcount : (s.openConnections.map ManagedConnection.stream).count n =
      total (fun connection => if connection.stream = n then 1 else 0)
        s.openConnections := by
    rw [List.count, List.countP_map, <- total_indicator]
    simp only [Function.comp_apply, beq_iff_eq]
  rw [hcount, State.openConnections, total_append, total_flatMap,
    total_filterMap]
  unfold ConnectionPool.weigh State.custodies
  simp only [total_map, PoolState.shelf]
  congr 1
  exact congrArg (fun w => total w s.tasks)
    (funext (fun task => (weigh_claim task n).symm))

/-- No two tasks, and no task and no idle queue, ever share a connection. -/
theorem connections_exclusive (d : Deployment) (s : State)
    (hs : Reachable d s) :
    (s.openConnections.map ManagedConnection.stream).Nodup ∧
      forall connection, connection ∈ s.openConnections ->
        connection.stream < s.streams := by
  have hpools := reachable_custodies hs
  constructor
  · rw [List.nodup_iff_count]
    intro n
    rw [count_openConnections]
    exact ConnectionPool.reachable_onStream_le_one hpools n
  · intro connection hmem
    have hpos : 0 < (s.openConnections.map ManagedConnection.stream).count
        connection.stream :=
      List.count_pos_iff.mpr (List.mem_map_of_mem hmem)
    rw [count_openConnections] at hpos
    exact (ConnectionPool.reachable_streamInvariant hpools).stream_lt hpos

def twinDeployment : Deployment :=
  { lineDeployment with
    modbus := { lineDeployment.modbus with poolMaxSize := 2 } }

def twinLabels : List Label :=
  [.spawn (.write { source := "A1", destination := "B1" }),
    .spawn (.canPutdown { location := "B1" })] ++
    connectLabels 0 ++ connectLabels 1

theorem connections_exclusive_twin :
    exists s, Reachable twinDeployment s ∧ s.openConnections.length = 2 ∧
      (s.openConnections.map ManagedConnection.stream).Nodup := by
  have hreplay : (replay twinDeployment (State.initial twinDeployment.modbus)
      twinLabels).any (fun s => s.openConnections.length == 2) = true := by
    decide
  rcases exists_of_replay hreplay with ⟨s, hs, htwo⟩
  exact ⟨s, replay_reachable hs, beq_iff_eq.mp htwo,
    (connections_exclusive twinDeployment s (replay_reachable hs)).left⟩

/-!
## Permits
-/

theorem permits_of_get {d : Deployment} {s : State} {task : Task}
    (hwired : TaskWired d s task) {pool : Pool}
    {k : Except PoolError Object -> ServiceProgram TaskOutput}
    (hprogram : task.program = perform (.get pool) k)
    (hready : task.phase ≠ .ready) (hdropped : task.phase ≠ .dropped)
    (p : Nat) :
    task.claim.permits p = if pool.id = p then 1 else 0 := by
  rcases claim_of_get hwired hprogram hready hdropped with
    hclaim | hclaim | ⟨token, hclaim, htoken⟩
  · rw [hclaim]
    rfl
  · rw [hclaim]
    rfl
  · rw [hclaim, <- htoken]
    rfl

theorem permits_claim {d : Deployment} {s : State} {task : Task}
    (hwired : TaskWired d s task) (p : Nat) :
    task.claim.permits p = if task.permitOf == some p then 1 else 0 := by
  have hdisciplined := hwired.disciplined
  by_cases hdropped : task.phase = .dropped
  · have hclaim : task.claim = .nothing := by
      rw [Task.claim, hdropped]
      cases task.holding <;> rfl
    have hpermit : task.permitOf = none := by
      unfold Task.permitOf
      rw [hdropped]
    rw [hclaim, hpermit]
    rfl
  · have hone : forall q, task.permitOf = some q ->
        task.claim.permits p = (if q = p then 1 else 0) ->
        task.claim.permits p = if task.permitOf == some p then 1 else 0 := by
      intro q hpermit hclaim
      rw [hpermit, hclaim]
      simp
    have hnone : task.permitOf = none -> task.claim.permits p = 0 ->
        task.claim.permits p = if task.permitOf == some p then 1 else 0 := by
      intro hpermit hclaim
      rw [hpermit, hclaim]
      rfl
    cases hholding : task.holding with
    | nothing =>
        rw [hholding] at hdisciplined
        refine hnone ?_ (by rw [claim_of_holding_nothing hholding]; rfl)
        unfold Task.permitOf
        rcases head_of_nothing hdisciplined with
          ⟨output, hprogram⟩ | ⟨address, slaveId, k, hprogram⟩ |
            ⟨url, payload, k, hprogram⟩ <;> rw [hprogram] <;>
          cases task.phase <;> rfl
    | looked runtime =>
        rw [hholding] at hdisciplined
        rcases head_of_looked hdisciplined with ⟨k, hprogram⟩
        by_cases hready : task.phase = .ready
        · refine hnone ?_ (by rw [claim_eq hholding hready]; rfl)
          unfold Task.permitOf
          rw [hprogram, hready]
        · exact hone _ (permitOf_get hprogram hready hdropped)
            (permits_of_get hwired hprogram hready hdropped p)
    | fresh object =>
        rw [hholding] at hdisciplined
        rcases head_of_fresh hdisciplined with ⟨request, k, hprogram⟩
        refine hone _ (permitOf_call hprogram hdropped) ?_
        rcases claim_of_owning (Or.inl hholding) hdropped with
          hclaim | hclaim <;> rw [hclaim] <;> rfl
    | used object =>
        rw [hholding] at hdisciplined
        rcases head_of_used hdisciplined with ⟨k, hprogram⟩
        refine hone _ (permitOf_release hprogram hdropped) ?_
        rcases claim_of_owning (Or.inr hholding) hdropped with
          hclaim | hclaim <;> rw [hclaim] <;> rfl

/-- The task has a connection of the pool, or is opening one. -/
def Task.occupies (task : Task) (p : Nat) : Bool :=
  match task.holding, task.phase with
  | _, .dropped => false
  | .looked runtime, .recycling _ _ => runtime.pool.id == p
  | .looked runtime, .creating _ => runtime.pool.id == p
  | .fresh object, _ => object.pool.id == p
  | .used object, _ => object.pool.id == p
  | _, _ => false

theorem occupies_claim (task : Task) (p : Nat) :
    task.claim.weigh (ConnectionPool.ofPool p) + task.claim.slots p =
      if task.occupies p then 1 else 0 := by
  unfold Task.claim Task.occupies
  cases task.holding with
  | nothing => cases task.phase <;> rfl
  | looked runtime =>
      cases task.phase with
      | creating rest =>
          cases rest with
          | ret result =>
              cases result <;>
                simp [Holding.claim, claimCreating, ConnectionPool.ofPool,
                  ConnectionPool.Custody.slots, Object.token]
          | perform e k =>
              simp [Holding.claim, claimCreating, ConnectionPool.Custody.weigh,
                ConnectionPool.Custody.slots]
      | recycling connection rest =>
          simp [Holding.claim, ConnectionPool.ofPool,
            ConnectionPool.Custody.slots, Object.token]
      | ready => rfl
      | popping => rfl
      | inFlight => rfl
      | posting => rfl
      | dropped => rfl
  | fresh object =>
      cases task.phase <;>
        simp [Holding.claim, ConnectionPool.ofPool, Object.token,
          ConnectionPool.Custody.slots]
  | used object =>
      cases task.phase <;>
        simp [Holding.claim, ConnectionPool.ofPool, Object.token,
          ConnectionPool.Custody.slots]

theorem occupied_custodies {s : State} {p : Nat} {slots : PoolState}
    (hslots : s.pools[p]? = some slots) (hid : slots.pool.id = p) :
    slots.idle.length + s.tasks.countP (fun task => task.occupies p) ≤
      ConnectionPool.occupied p s.custodies := by
  have htasks : s.tasks.countP (fun task => task.occupies p) =
      total (ConnectionPool.Custody.weigh (ConnectionPool.ofPool p))
          s.custodies.clients +
        total (ConnectionPool.Custody.slots p) s.custodies.clients := by
    rw [<- total_indicator, <- total_add, State.custodies, total_map]
    exact congrArg (fun w => total w s.tasks)
      (funext (fun task => (occupies_claim task p).symm))
  have hidle : slots.idle.length =
      total (ConnectionPool.ofPool p) slots.shelf.idle := by
    rw [PoolState.shelf, total_map]
    simp only [ConnectionPool.ofPool, Object.token, hid, if_true]
    exact (total_one slots.idle).symm
  have hshelf := weight_le_total
    (fun shelf : ConnectionPool.Shelf =>
      total (ConnectionPool.ofPool p) shelf.idle)
    (List.mem_of_getElem? (custodies_shelf hslots))
  unfold ConnectionPool.occupied ConnectionPool.weigh
  omega

/-- Permits are conserved, and the connections to a target never outnumber
them. -/
theorem pool_accounted (d : Deployment) (s : State) (hs : Reachable d s)
    (p : Nat) (slots : PoolState) (hslots : s.pools[p]? = some slots) :
    slots.permits + s.tasks.countP (fun task => task.permitOf == some p) =
        max 1 d.modbus.poolMaxSize ∧
      slots.idle.length + s.tasks.countP (fun task => task.occupies p) ≤
        max 1 d.modbus.poolMaxSize := by
  have hwired := reachable_wired hs
  have hpools := reachable_custodies hs
  have hshelf := custodies_shelf hslots
  have hcapacity := hwired.shelf_capacity hshelf
  constructor
  · have hconserved :=
      (ConnectionPool.reachable_permitInvariant hpools).conserved p _ hshelf
    have hheld : s.tasks.countP (fun task => task.permitOf == some p) =
        total (ConnectionPool.Custody.permits p) s.custodies.clients := by
      rw [<- total_indicator, State.custodies, total_map]
      unfold total
      refine congrArg List.sum (List.map_congr_left (fun task htask => ?_))
      exact (permits_claim (hwired.tasks task htask) p).symm
    rw [hheld, <- hcapacity]
    exact hconserved
  · have hid := hwired.pools.numbered p slots hslots
    have hle := ConnectionPool.occupied_le_capacity hpools p _ hshelf
    have hcover := occupied_custodies hslots hid
    omega

theorem pool_accounted_twin :
    exists s slots, Reachable twinDeployment s ∧ s.pools[0]? = some slots ∧
      slots.permits + 2 = max 1 2 := by
  have hreplay : (replay twinDeployment (State.initial twinDeployment.modbus)
      twinLabels).any (fun s => s.pools[0]?.any (fun _ =>
        s.tasks.countP (fun task => task.permitOf == some 0) == 2)) = true := by
    decide
  rcases exists_of_replay hreplay with ⟨s, hs, hheld⟩
  rcases (Option.any_eq_true _ _).mp hheld with ⟨slots, hslots, htwo⟩
  have haccounted := (pool_accounted twinDeployment s (replay_reachable hs) 0
    slots hslots).left
  rw [beq_iff_eq.mp htwo] at haccounted
  exact ⟨s, slots, replay_reachable hs, hslots, haccounted⟩

end ConveyorModbus
