import ConveyorModbus.Library.Counting
import ConveyorModbus.System.Custody

/-!
# Wiring of tasks, runtimes and pools

In every reachable state the runtimes of the cache and the pools of the process
match one to one, each pool is built for its own target, and every connection
carries the settings of the manager of its pool.  A task has performed exactly
the effects of its log and uses only pools and connections it got that way.
-/

namespace ConveyorModbus

open Counting Effects Program

/-!
## The holding of a task
-/

namespace Task

def holding (task : Task) : Holding :=
  Typestate.run custody .nothing task.log

@[simp] theorem holding_start (conveyor : ConveyorConfig) (kind : TaskKind) :
    (start conveyor kind).holding = .nothing := rfl

@[simp] theorem holding_enter (task : Task) (phase : Phase) :
    (task.enter phase).holding = task.holding := rfl

@[simp] theorem holding_resume (task : Task) (e : ServiceEffect) (r : e.Reply)
    (k : e.Reply -> ServiceProgram TaskOutput) :
    (task.resume e r k).holding = task.holding.next e r := by
  simp [holding, resume, Typestate.run, custody]

end Task

/-!
## Invariants
-/

/-- The handle of a pool of the process. -/
def Handle (s : State) (pool : Pool) : Prop :=
  exists slots, s.pools[pool.id]? = some slots ∧ slots.pool = pool

structure PoolsWired (s : State) : Prop where
  numbered : forall (n : Nat) (slots : PoolState),
    s.pools[n]? = some slots -> slots.pool.id = n
  counted : s.service.poolsBuilt = s.pools.length
  built : forall (target : ModbusTarget) (runtime : ModbusRuntime),
    s.service.runtimes.get target = some runtime ->
      runtime = buildModbusRuntime target.address target.slaveId
        s.service.config runtime.pool.id ∧ Handle s runtime.pool
  listed : forall (n : Nat) (slots : PoolState), s.pools[n]? = some slots ->
    exists target runtime, s.service.runtimes.get target = some runtime ∧
      runtime.pool = slots.pool
  idle_owned : forall (n : Nat) (slots : PoolState),
    s.pools[n]? = some slots -> forall connection,
      connection ∈ slots.idle -> slots.pool.manager.Owns connection

/-- What a completed effect says about its reply. -/
def EventWired (s : State) :
    (e : ServiceEffect) -> e.Reply -> Prop
  | .runtime address slaveId, runtime =>
      s.service.lookup address slaveId = some runtime
  | .get pool, .ok object =>
      object.pool = pool ∧ pool.manager.Owns object.connection ∧
        object.connection.status = true
  | .get pool, .error err => pool.manager.Refuses SocketAddr.fromStr err.cause
  | _, _ => True

def HoldingWired (s : State) : Holding -> Prop
  | .nothing => True
  | .looked runtime => Handle s runtime.pool
  | .fresh object =>
      Handle s object.pool ∧
        object.pool.manager.Owns object.connection ∧
        object.connection.status = true
  | .used object =>
      Handle s object.pool ∧ object.pool.manager.Owns object.connection

def PhaseWired : Holding -> Phase -> Prop
  | _, .ready => True
  | _, .dropped => True
  | .looked _, .popping => True
  | .looked runtime, .recycling connection rest =>
      runtime.pool.manager.Owns connection ∧
        runtime.pool.manager.Recycling connection rest
  | .looked runtime, .creating rest =>
      exists opening, Follows runtime.pool.manager.opening rest opening
        (runtime.pool.manager.Opened SocketAddr.fromStr)
  | .fresh _, .inFlight => True
  | .nothing, .posting => True
  | _, _ => False

structure TaskWired (d : Deployment) (s : State) (task : Task) : Prop where
  trace : After (taskProgram d.conveyor task.kind) task.log task.program
  events : forall event, event ∈ task.log ->
    EventWired s event.1 event.2
  holding : HoldingWired s task.holding
  phase : PhaseWired task.holding task.phase

structure Wired (d : Deployment) (s : State) : Prop where
  config : s.service.config = d.modbus
  pools : PoolsWired s
  tasks : forall task, task ∈ s.tasks -> TaskWired d s task
  failed : forall object, object ∈ s.failed ->
    Handle s object.pool ∧ object.pool.manager.Owns object.connection ∧
      object.connection.status = true

theorem TaskWired.disciplined {d : Deployment} {s : State} {task : Task}
    (h : TaskWired d s task) : Disciplined task.program task.holding :=
  h.trace.follows (taskProgram_follows d.conveyor task.kind)

/-!
## Growing states

Steps add runtimes and pools and never take one away.
-/

structure Extends (s s' : State) : Prop where
  lookup : forall (address : String) (slaveId : UInt8)
    (runtime : ModbusRuntime),
    s.service.lookup address slaveId = some runtime ->
      s'.service.lookup address slaveId = some runtime
  handle : forall pool, Handle s pool -> Handle s' pool

section Extends

variable {d : Deployment} {s s' : State}

theorem Extends.of_eq (hservice : s'.service = s.service)
    (hpools : s'.pools = s.pools) : Extends s s' := by
  constructor
  · intro address slaveId runtime h
    rw [hservice]
    exact h
  · rintro pool ⟨slots, hslots, hpool⟩
    exact ⟨slots, hpools ▸ hslots, hpool⟩

theorem EventWired.extend (hext : Extends s s') {e : ServiceEffect}
    {r : e.Reply} (h : EventWired s e r) : EventWired s' e r := by
  cases e with
  | runtime address slaveId => exact hext.lookup address slaveId r h
  | get pool =>
      cases r with
      | error err => exact h
      | ok object => exact h
  | call operationTimeout object request => trivial
  | release object => trivial
  | post url payload => trivial

theorem HoldingWired.extend (hext : Extends s s') {holding : Holding}
    (h : HoldingWired s holding) : HoldingWired s' holding := by
  cases holding with
  | nothing => trivial
  | looked runtime => exact hext.handle runtime.pool h
  | fresh object => exact ⟨hext.handle object.pool h.left, h.right⟩
  | used object => exact ⟨hext.handle object.pool h.left, h.right⟩

theorem TaskWired.extend (hext : Extends s s') {task : Task}
    (h : TaskWired d s task) : TaskWired d s' task where
  trace := h.trace
  events event hevent := (h.events event hevent).extend hext
  holding := h.holding.extend hext
  phase := h.phase

end Extends

/-!
## Changes of the pools
-/

section Pools

variable {d : Deployment} {s s' : State}

theorem PoolsWired.of_eq (h : PoolsWired s) (hservice : s'.service = s.service)
    (hpools : s'.pools = s.pools) : PoolsWired s' where
  numbered := by rw [hpools]; exact h.numbered
  counted := by rw [hservice, hpools]; exact h.counted
  built target runtime hget := by
    rw [hservice] at hget ⊢
    have hbuilt := h.built target runtime hget
    exact ⟨hbuilt.left,
      (Extends.of_eq hservice hpools).handle _ hbuilt.right⟩
  listed := by rw [hservice, hpools]; exact h.listed
  idle_owned := by rw [hpools]; exact h.idle_owned

theorem getElem?_setPool {n : Nat} {slots : PoolState}
    (hslots : s.pools[n]? = some slots) (slots' : PoolState) (m : Nat) :
    (s.setPool n slots').pools[m]? =
      if m = n then some slots' else s.pools[m]? :=
  Counting.getElem?_set_of_some hslots slots' m

theorem Extends.setPool {n : Nat} {slots slots' : PoolState}
    (hslots : s.pools[n]? = some slots) (hpool : slots'.pool = slots.pool) :
    Extends s (s.setPool n slots') := by
  refine ⟨fun _ _ _ h => h, ?_⟩
  rintro pool ⟨found, hfound, rfl⟩
  by_cases hn : found.pool.id = n
  · rw [hn, hslots, Option.some.injEq] at hfound
    subst hfound
    exact ⟨slots', by rw [getElem?_setPool hslots, if_pos hn], hpool⟩
  · exact ⟨found, by rw [getElem?_setPool hslots, if_neg hn, hfound], rfl⟩

theorem PoolsWired.setPool (h : PoolsWired s) {n : Nat}
    {slots slots' : PoolState} (hslots : s.pools[n]? = some slots)
    (hpool : slots'.pool = slots.pool)
    (hidle : forall connection, connection ∈ slots'.idle ->
      slots.pool.manager.Owns connection) :
    PoolsWired (s.setPool n slots') := by
  have hcases : forall (m : Nat) (found : PoolState),
      (s.setPool n slots').pools[m]? = some found ->
      exists old, s.pools[m]? = some old ∧ found.pool = old.pool ∧
        forall connection, connection ∈ found.idle ->
          old.pool.manager.Owns connection := by
    intro m found hfound
    rw [getElem?_setPool hslots] at hfound
    by_cases hm : m = n
    · rw [if_pos hm, Option.some.injEq] at hfound
      subst hfound
      exact ⟨slots, hm ▸ hslots, hpool, hidle⟩
    · rw [if_neg hm] at hfound
      exact ⟨found, hfound, rfl, h.idle_owned m found hfound⟩
  refine ⟨?_, ?_, ?_, ?_, ?_⟩
  · intro m found hfound
    rcases hcases m found hfound with ⟨old, hold, hsame, _⟩
    rw [hsame]
    exact h.numbered m old hold
  · simpa [State.setPool] using h.counted
  · intro target runtime hget
    have hbuilt := h.built target runtime hget
    exact ⟨hbuilt.left, (Extends.setPool hslots hpool).handle _ hbuilt.right⟩
  · intro m found hfound
    rcases hcases m found hfound with ⟨old, hold, hsame, _⟩
    rw [hsame]
    exact h.listed m old hold
  · intro m found hfound connection hconnection
    rcases hcases m found hfound with ⟨old, hold, hsame, howned⟩
    rw [hsame]
    exact howned connection hconnection

theorem addPool_miss (h : PoolsWired s) {address : String} {slaveId : UInt8}
    {runtime : ModbusRuntime} {service : ModbusService}
    (hmiss : s.service.lookup address slaveId = none)
    (hinsert : s.service.entryOrInsert address slaveId = (runtime, service)) :
    let s' := s.addPool service (PoolState.build runtime.pool)
    Extends s s' ∧ PoolsWired s' ∧
      s'.service.config = s.service.config ∧
      s'.service.lookup address slaveId = some runtime ∧
      Handle s' runtime.pool := by
  intro s'
  rw [ModbusService.entryOrInsert_of_none hmiss, Prod.mk.injEq] at hinsert
  rcases hinsert with ⟨rfl, rfl⟩
  have hcounted := h.counted
  have hnew : s'.pools[s.pools.length]? = some (PoolState.build
      (buildModbusPool address slaveId s.service.config
        s.service.poolsBuilt)) := by
    simp [s', State.addPool, buildModbusRuntime]
  have hold : forall (m : Nat) (slots : PoolState),
      s.pools[m]? = some slots -> s'.pools[m]? = some slots :=
    fun _ _ hslots => getElem?_concat_of_some hslots _
  have hcases : forall (m : Nat) (slots : PoolState),
      s'.pools[m]? = some slots ->
      s.pools[m]? = some slots ∨
        m = s.pools.length ∧ slots = PoolState.build
          (buildModbusPool address slaveId s.service.config
            s.service.poolsBuilt) :=
    fun _ _ => getElem?_concat_cases
  have hhandle : forall pool, Handle s pool -> Handle s' pool := by
    rintro pool ⟨slots, hslots, hpool⟩
    exact ⟨slots, hold _ _ hslots, hpool⟩
  have hself : Handle s' (buildModbusPool address slaveId s.service.config
      s.service.poolsBuilt) :=
    ⟨_, by rw [show (buildModbusPool address slaveId s.service.config
      s.service.poolsBuilt).id = s.pools.length from hcounted]; exact hnew,
      rfl⟩
  have hget : s'.service.runtimes.get { address, slaveId } = some
      (buildModbusRuntime address slaveId s.service.config
        s.service.poolsBuilt) :=
    Runtimes.get_insert_self hmiss
  have hlookup : forall address slaveId runtime,
      s.service.lookup address slaveId = some runtime ->
      s'.service.lookup address slaveId = some runtime :=
    fun _ _ _ => Runtimes.get_insert_of_some hmiss
  refine ⟨⟨hlookup, hhandle⟩, ?_, rfl, hget, hself⟩
  constructor
  case numbered =>
    intro m slots hslots
    rcases hcases m slots hslots with hbefore | ⟨hm, hslots⟩
    · exact h.numbered m slots hbefore
    · rw [hslots, hm]
      exact hcounted
  case counted =>
    show s.service.poolsBuilt + 1 = (s.pools ++ _).length
    simp [hcounted]
  case built =>
    intro target runtime hfound
    by_cases htarget : target = { address, slaveId }
    · subst htarget
      rw [hget, Option.some.injEq] at hfound
      subst hfound
      exact ⟨rfl, hself⟩
    · have hbefore : s.service.runtimes.get target = some runtime :=
        (Runtimes.get_insert_of_ne hmiss htarget).symm.trans hfound
      have hbuilt := h.built target runtime hbefore
      exact ⟨hbuilt.left, hhandle _ hbuilt.right⟩
  case listed =>
    intro m slots hslots
    rcases hcases m slots hslots with hbefore | ⟨_, hslots⟩
    · rcases h.listed m slots hbefore with ⟨target, runtime, hfound, hpool⟩
      exact ⟨target, runtime, Runtimes.get_insert_of_some hmiss hfound, hpool⟩
    · exact ⟨_, _, hget, by rw [hslots]; rfl⟩
  case idle_owned =>
    intro m slots hslots connection hconnection
    rcases hcases m slots hslots with hbefore | ⟨_, hslots⟩
    · exact h.idle_owned m slots hbefore connection hconnection
    · rw [hslots] at hconnection
      cases hconnection

end Pools

/-!
## Changes of one task
-/

section Tasks

variable {d : Deployment} {s s' : State} {task : Task}

theorem TaskWired.start (s : State) (kind : TaskKind) :
    TaskWired d s (Task.start d.conveyor kind) where
  trace := After.refl _
  events := by simp [Task.start]
  holding := trivial
  phase := trivial

theorem TaskWired.enter (h : TaskWired d s task) {phase : Phase}
    (hphase : PhaseWired task.holding phase) :
    TaskWired d s (task.enter phase) where
  trace := h.trace
  events := h.events
  holding := h.holding
  phase := hphase

theorem TaskWired.resume (h : TaskWired d s task) {e : ServiceEffect}
    {k : e.Reply -> ServiceProgram TaskOutput}
    (hprogram : task.program = perform e k) {r : e.Reply}
    (hevent : EventWired s e r)
    (hholding : HoldingWired s (task.holding.next e r)) :
    TaskWired d s (task.resume e r k) where
  trace := by
    have htrace := h.trace
    rw [hprogram] at htrace
    exact htrace.snoc r
  events := by
    intro event hmem
    simp only [Task.resume, List.mem_append, List.mem_singleton] at hmem
    rcases hmem with hbefore | rfl
    · exact h.events event hbefore
    · exact hevent
  holding := by
    rw [Task.holding_resume]
    exact hholding
  phase := by
    cases (task.resume e r k).holding <;> trivial

theorem TaskWired.holding_of_get (h : TaskWired d s task) {pool : Pool}
    {k : Except PoolError Object -> ServiceProgram TaskOutput}
    (hprogram : task.program = perform (.get pool) k) :
    exists runtime, task.holding = .looked runtime ∧ runtime.pool = pool := by
  have hdisciplined := h.disciplined
  rw [hprogram] at hdisciplined
  exact ConveyorModbus.holding_of_get hdisciplined

theorem TaskWired.holding_of_call (h : TaskWired d s task)
    {operationTimeout : Duration} {object : Object} {request : ModbusRequest}
    {k : CallResult request.Answer -> ServiceProgram TaskOutput}
    (hprogram : task.program =
      perform (.call operationTimeout object request) k) :
    task.holding = .fresh object := by
  have hdisciplined := h.disciplined
  rw [hprogram] at hdisciplined
  exact ConveyorModbus.holding_of_call hdisciplined

theorem TaskWired.holding_of_release (h : TaskWired d s task) {object : Object}
    {k : Unit -> ServiceProgram TaskOutput}
    (hprogram : task.program = perform (.release object) k) :
    task.holding = .used object := by
  have hdisciplined := h.disciplined
  rw [hprogram] at hdisciplined
  exact ConveyorModbus.holding_of_release hdisciplined

theorem TaskWired.holding_of_runtime (h : TaskWired d s task) {address : String}
    {slaveId : UInt8} {k : ModbusRuntime -> ServiceProgram TaskOutput}
    (hprogram : task.program = perform (.runtime address slaveId) k) :
    task.holding = .nothing := by
  have hdisciplined := h.disciplined
  rw [hprogram] at hdisciplined
  exact ConveyorModbus.holding_of_runtime hdisciplined

theorem TaskWired.holding_of_post (h : TaskWired d s task) {url : String}
    {payload : ConveyorCanPutdownWebhookPayload}
    {k : PostOutcome -> ServiceProgram TaskOutput}
    (hprogram : task.program = perform (.post url payload) k) :
    task.holding = .nothing := by
  have hdisciplined := h.disciplined
  rw [hprogram] at hdisciplined
  exact ConveyorModbus.holding_of_post hdisciplined

theorem TaskWired.handle_of_get (h : TaskWired d s task) {pool : Pool}
    {k : Except PoolError Object -> ServiceProgram TaskOutput}
    (hprogram : task.program = perform (.get pool) k) : Handle s pool := by
  rcases h.holding_of_get hprogram with ⟨runtime, hholding, rfl⟩
  have hwired := h.holding
  rw [hholding] at hwired
  exact hwired

theorem TaskWired.object_of_call (h : TaskWired d s task)
    {operationTimeout : Duration} {object : Object} {request : ModbusRequest}
    {k : CallResult request.Answer -> ServiceProgram TaskOutput}
    (hprogram : task.program =
      perform (.call operationTimeout object request) k) :
    Handle s object.pool ∧ object.pool.manager.Owns object.connection ∧
      object.connection.status = true := by
  have hwired := h.holding
  rw [h.holding_of_call hprogram] at hwired
  exact hwired

theorem TaskWired.object_of_release (h : TaskWired d s task) {object : Object}
    {k : Unit -> ServiceProgram TaskOutput}
    (hprogram : task.program = perform (.release object) k) :
    Handle s object.pool ∧ object.pool.manager.Owns object.connection := by
  have hwired := h.holding
  rw [h.holding_of_release hprogram] at hwired
  exact hwired

theorem afterCall_wired {object : Object}
    (h : Handle s object.pool ∧ object.pool.manager.Owns object.connection)
    {A : Type} (result : CallResult A) :
    HoldingWired s (.used (object.afterCall result)) := by
  unfold Object.afterCall
  split
  · exact h
  · exact ⟨h.left, h.right.markUnhealthy⟩

/-- What is left of `create` stays wired after each reply. -/
theorem TaskWired.creating_next (h : TaskWired d s task) {pool : Pool}
    {k : Except PoolError Object -> ServiceProgram TaskOutput} {e : NetEffect}
    {rest : e.Reply -> NetProgram (Except ManagerError ManagedConnection)}
    (hprogram : task.program = perform (.get pool) k)
    (hphase : task.phase = .creating (perform e rest)) (r : e.Reply) :
    TaskWired d s (task.enter (.creating (rest r))) := by
  rcases h.holding_of_get hprogram with ⟨runtime, hholding, _⟩
  have hcreating := h.phase
  rw [hholding, hphase] at hcreating
  rcases hcreating with ⟨opening, hrest⟩
  refine h.enter ?_
  rw [hholding]
  exact ⟨_, hrest.right r⟩

theorem Wired.setStale (h : Wired d s) (stream count : Nat) :
    Wired d (s.setStale stream count) := by
  have hext : Extends s (s.setStale stream count) := Extends.of_eq rfl rfl
  constructor
  · exact h.config
  · exact h.pools.of_eq rfl rfl
  · intro task htask
    exact (h.tasks task htask).extend hext
  · intro object hobject
    have hbefore := h.failed object hobject
    exact ⟨hext.handle _ hbefore.left, hbefore.right⟩

theorem Wired.update (h : Wired d s) {t : State} {i : Nat} {task' : Task}
    (hext : Extends s t) (hpools : PoolsWired t)
    (hconfig : t.service.config = s.service.config)
    (htasks : t.tasks = s.tasks)
    (hfailed : forall object, object ∈ t.failed ->
      Handle t object.pool ∧ object.pool.manager.Owns object.connection ∧
        object.connection.status = true)
    (htask : TaskWired d t task') : Wired d (t.setTask i task') := by
  have hsame : Extends t (t.setTask i task') := Extends.of_eq rfl rfl
  refine ⟨hconfig.trans h.config, hpools.of_eq rfl rfl, ?_, ?_⟩
  · intro other hother
    rcases List.mem_or_eq_of_mem_set hother with hbefore | rfl
    · rw [htasks] at hbefore
      exact ((h.tasks other hbefore).extend hext).extend hsame
    · exact htask.extend hsame
  · intro object hobject
    have hbefore := hfailed object hobject
    exact ⟨hsame.handle _ hbefore.left, hbefore.right⟩

theorem Wired.update_still (h : Wired d s) {t : State} {i : Nat} {task' : Task}
    (hservice : t.service = s.service) (hpools : t.pools = s.pools)
    (htasks : t.tasks = s.tasks) (hfailed : t.failed = s.failed)
    (htask : TaskWired d s task') : Wired d (t.setTask i task') := by
  have hext := Extends.of_eq hservice hpools
  refine h.update hext (h.pools.of_eq hservice hpools) (by rw [hservice])
    htasks ?_ (htask.extend hext)
  intro object hobject
  rw [hfailed] at hobject
  have hbefore := h.failed object hobject
  exact ⟨hext.handle _ hbefore.left, hbefore.right⟩

theorem Wired.update_pool (h : Wired d s) {i n : Nat} {slots slots' : PoolState}
    {task' : Task} (hslots : s.pools[n]? = some slots)
    (hpool : slots'.pool = slots.pool)
    (hidle : forall connection, connection ∈ slots'.idle ->
      slots.pool.manager.Owns connection)
    (htask : TaskWired d s task') :
    Wired d ((s.setPool n slots').setTask i task') := by
  have hext := Extends.setPool hslots hpool
  refine h.update hext (h.pools.setPool hslots hpool hidle) rfl rfl ?_
    (htask.extend hext)
  intro object hobject
  have hbefore := h.failed object hobject
  exact ⟨hext.handle _ hbefore.left, hbefore.right⟩

theorem Wired.fail (h : Wired d s) {i : Nat} {task : Task}
    {operationTimeout : Duration} {object : Object} {request : ModbusRequest}
    {k : CallResult request.Answer -> ServiceProgram TaskOutput}
    (htask : s.tasks[i]? = some task)
    (hprogram : task.program =
      perform (.call operationTimeout object request) k)
    (result : CallResult request.Answer) :
    Wired d ((s.recordFailure object).setTask i
      (task.resume (.call operationTimeout object request) result k)) := by
  have hwired := h.tasks task (List.mem_of_getElem? htask)
  have hobject := hwired.object_of_call hprogram
  have hext : Extends s (s.recordFailure object) := Extends.of_eq rfl rfl
  refine h.update hext (h.pools.of_eq rfl rfl) rfl rfl ?_
    ((hwired.extend hext).resume hprogram trivial
      (afterCall_wired ⟨hobject.left, hobject.right.left⟩ _))
  intro other hother
  simp only [State.recordFailure, List.mem_append, List.mem_singleton] at hother
  rcases hother with hbefore | rfl
  · exact h.failed other hbefore
  · exact hobject

theorem Handle.pool_eq {pool : Pool} {slots : PoolState}
    (h : Handle s pool) (hslots : s.pools[pool.id]? = some slots) :
    slots.pool = pool := by
  rcases h with ⟨found, hfound, hpool⟩
  rw [hslots, Option.some.injEq] at hfound
  rw [hfound]
  exact hpool

theorem giveBack_owned (h : Wired d s) {object : Object} {slots : PoolState}
    (hslots : s.pools[object.pool.id]? = some slots)
    (hobject : Handle s object.pool ∧
      object.pool.manager.Owns object.connection) :
    forall connection,
      connection ∈ (slots.giveBack object.connection).idle ->
        slots.pool.manager.Owns connection := by
  intro connection hconnection
  simp only [PoolState.giveBack, List.mem_append, List.mem_singleton]
    at hconnection
  rcases hconnection with hidle | rfl
  · exact h.pools.idle_owned _ slots hslots connection hidle
  · rw [hobject.left.pool_eq hslots]
    exact hobject.right

end Tasks

/-!
## Every step keeps the wiring
-/

theorem wired_initial (d : Deployment) : Wired d (State.initial d.modbus) where
  config := rfl
  pools :=
    { numbered := by simp [State.initial]
      counted := rfl
      built := by
        intro target runtime hget
        cases hget
      listed := by simp [State.initial]
      idle_owned := by simp [State.initial] }
  tasks := by simp [State.initial]
  failed := by simp [State.initial]

theorem wired_addTask {d : Deployment} {s : State} (h : Wired d s)
    (kind : TaskKind) : Wired d (s.addTask (Task.start d.conveyor kind)) := by
  have hsame : Extends s (s.addTask (Task.start d.conveyor kind)) :=
    Extends.of_eq rfl rfl
  refine ⟨h.config, h.pools.of_eq rfl rfl, ?_, ?_⟩
  · intro task htask
    simp only [State.addTask, List.mem_append, List.mem_singleton] at htask
    rcases htask with hbefore | rfl
    · exact (h.tasks task hbefore).extend hsame
    · exact (TaskWired.start s kind).extend hsame
  · intro object hobject
    have hbefore := h.failed object hobject
    exact ⟨hsame.handle _ hbefore.left, hbefore.right⟩

theorem step_wired {d : Deployment} {s s' : State} {l : Label}
    (h : Wired d s) (hstep : Step d s l s') : Wired d s' := by
  cases hstep with
  | spawn => exact wired_addTask h _
  | startRound hfinished => exact wired_addTask h _
  | runtimeHit htask hprogram hphase hlookup =>
      rename_i i task address slaveId k runtime
      have hwired := h.tasks task (List.mem_of_getElem? htask)
      have hbuilt := h.pools.built _ _ hlookup
      exact h.update_still rfl rfl rfl rfl
        (hwired.resume hprogram hlookup hbuilt.right)
  | runtimeMiss htask hprogram hphase hlookup hinsert =>
      rename_i i task address slaveId k runtime service
      have hwired := h.tasks task (List.mem_of_getElem? htask)
      rcases addPool_miss h.pools hlookup hinsert with
        ⟨hext, hpools, hconfig, hfound, hhandle⟩
      refine h.update hext hpools hconfig rfl ?_
        ((hwired.extend hext).resume hprogram hfound hhandle)
      intro object hobject
      have hbefore := h.failed object hobject
      exact ⟨hext.handle _ hbefore.left, hbefore.right⟩
  | acquire htask hprogram hphase hslots hpermit =>
      rename_i i task pool k slots
      have hwired := h.tasks task (List.mem_of_getElem? htask)
      rcases hwired.holding_of_get hprogram with ⟨runtime, hholding, _⟩
      refine h.update_pool hslots rfl (h.pools.idle_owned _ slots hslots)
        (hwired.enter ?_)
      rw [hholding]
      trivial
  | popIdle htask hprogram hphase hslots hidle =>
      rename_i i n task pool k slots connection
      have hwired := h.tasks task (List.mem_of_getElem? htask)
      rcases hwired.holding_of_get hprogram with ⟨runtime, hholding, hpool⟩
      have howned := h.pools.idle_owned _ slots hslots
      refine h.update_pool hslots rfl ?_ (hwired.enter ?_)
      · intro other hother
        exact howned other (List.mem_of_mem_eraseIdx hother)
      · rw [hholding, hpool.symm]
        have hpooleq := (hwired.handle_of_get hprogram).pool_eq hslots
        refine ⟨?_, ModbusManager.recycle_recycling _ _⟩
        rw [hpool, <- hpooleq]
        exact howned connection (List.mem_of_getElem? hidle)
  | popEmpty htask hprogram hphase hslots hidle =>
      rename_i i task pool k slots
      have hwired := h.tasks task (List.mem_of_getElem? htask)
      rcases hwired.holding_of_get hprogram with ⟨runtime, hholding, hpool⟩
      refine h.update_still rfl rfl rfl rfl (hwired.enter ?_)
      rw [hholding, hpool.symm]
      exact ⟨.connecting, ModbusManager.create_follows _ _⟩
  | disconnected htask hprogram hphase =>
      rename_i i task pool k connection context rest result
      have hwired := h.tasks task (List.mem_of_getElem? htask)
      rcases hwired.holding_of_get hprogram with ⟨runtime, hholding, hpool⟩
      refine h.update_still rfl rfl rfl rfl (hwired.enter ?_)
      have hrecycling := hwired.phase
      rw [hholding, hphase] at hrecycling
      rw [hholding]
      rcases hrecycling with ⟨howned, hrest⟩
      cases hrest with
      | closing hstatus hnext => exact ⟨howned, hnext result⟩
  | recycleOk htask hprogram hphase =>
      rename_i i task pool k connection recycled
      have hwired := h.tasks task (List.mem_of_getElem? htask)
      rcases hwired.holding_of_get hprogram with ⟨runtime, hholding, hpool⟩
      have hhandle := hwired.handle_of_get hprogram
      have hrecycling := hwired.phase
      rw [hholding, hphase] at hrecycling
      rcases hrecycling with ⟨howned, hrest⟩
      subst hpool
      cases hrest with
      | accepted hstatus =>
          exact h.update_still rfl rfl rfl rfl
            (hwired.resume hprogram ⟨rfl, howned, hstatus⟩
              ⟨hhandle, howned, hstatus⟩)
  | recycleErr htask hprogram hphase =>
      rename_i i task pool k connection recycled err
      have hwired := h.tasks task (List.mem_of_getElem? htask)
      rcases hwired.holding_of_get hprogram with ⟨runtime, hholding, _⟩
      refine h.update_still rfl rfl rfl rfl (hwired.enter ?_)
      rw [hholding]
      trivial
  | connected htask hprogram hphase =>
      have hwired := h.tasks _ (List.mem_of_getElem? htask)
      exact h.update_still rfl rfl rfl rfl
        (hwired.creating_next hprogram hphase _)
  | refused htask hprogram hphase =>
      have hwired := h.tasks _ (List.mem_of_getElem? htask)
      exact h.update_still rfl rfl rfl rfl
        (hwired.creating_next hprogram hphase _)
  | connectTimeout htask hprogram hphase =>
      have hwired := h.tasks _ (List.mem_of_getElem? htask)
      exact h.update_still rfl rfl rfl rfl
        (hwired.creating_next hprogram hphase _)
  | slept htask hprogram hphase =>
      have hwired := h.tasks _ (List.mem_of_getElem? htask)
      exact h.update_still rfl rfl rfl rfl
        (hwired.creating_next hprogram hphase _)
  | createOk htask hprogram hphase =>
      rename_i i task pool k connection
      have hwired := h.tasks task (List.mem_of_getElem? htask)
      rcases hwired.holding_of_get hprogram with ⟨runtime, hholding, hpool⟩
      have hhandle := hwired.handle_of_get hprogram
      have hcreating := hwired.phase
      rw [hholding, hphase] at hcreating
      rcases hcreating with ⟨opening, hrest⟩
      subst hpool
      cases opening with
      | connecting => exact hrest.elim
      | opened context =>
          have hconnection : connection =
            runtime.pool.manager.established context := hrest
          subst hconnection
          have howned := ModbusManager.established_owned
            runtime.pool.manager context
          exact h.update_still rfl rfl rfl rfl
            (hwired.resume hprogram ⟨rfl, howned, rfl⟩
              ⟨hhandle, howned, rfl⟩)
  | createErr htask hprogram hphase hslots =>
      rename_i i task pool k slots err
      have hwired := h.tasks task (List.mem_of_getElem? htask)
      rcases hwired.holding_of_get hprogram with ⟨runtime, hholding, hpool⟩
      have hcreating := hwired.phase
      rw [hholding, hphase] at hcreating
      rcases hcreating with ⟨opening, hrest⟩
      subst hpool
      cases opening with
      | connecting =>
          exact h.update_pool hslots rfl (h.pools.idle_owned _ slots hslots)
            (hwired.resume hprogram hrest trivial)
      | opened context => exact hrest.elim
  | send htask hprogram hphase =>
      rename_i i task operationTimeout object request k
      have hwired := h.tasks task (List.mem_of_getElem? htask)
      refine h.update_still rfl rfl rfl rfl (hwired.enter ?_)
      rw [hwired.holding_of_call hprogram]
      trivial
  | answer htask hprogram hphase hanswer hstale =>
      rename_i i task operationTimeout object request k reply result
      have hwired := h.tasks task (List.mem_of_getElem? htask)
      have hobject := hwired.object_of_call hprogram
      exact h.update_still rfl rfl rfl rfl
        (hwired.resume hprogram trivial
          (afterCall_wired ⟨hobject.left, hobject.right.left⟩ _))
  | transportError htask hprogram hphase => exact h.fail htask hprogram _
  | operationTimeout htask hprogram hphase => exact h.fail htask hprogram _
  | release htask hprogram hphase hslots =>
      rename_i i task object k slots
      have hwired := h.tasks task (List.mem_of_getElem? htask)
      exact h.update_pool hslots rfl
        (giveBack_owned h hslots (hwired.object_of_release hprogram))
        (hwired.resume hprogram trivial trivial)
  | post htask hprogram hphase =>
      rename_i i task url payload k
      have hwired := h.tasks task (List.mem_of_getElem? htask)
      refine h.update_still rfl rfl rfl rfl (hwired.enter ?_)
      rw [hwired.holding_of_post hprogram]
      trivial
  | posted htask hprogram hphase =>
      rename_i i task url payload k outcome
      have hwired := h.tasks task (List.mem_of_getElem? htask)
      exact h.update_still rfl rfl rfl rfl
        (hwired.resume hprogram trivial hwired.holding)
  | cancelWaiting htask hkind hprogram heffect hphase =>
      rename_i i task request e k
      have hwired := h.tasks task (List.mem_of_getElem? htask)
      refine h.update_still rfl rfl rfl rfl (hwired.enter ?_)
      cases task.holding <;> trivial
  | cancelGetting htask hkind hprogram hready hdropped hslots =>
      rename_i i task request pool k slots
      have hwired := h.tasks task (List.mem_of_getElem? htask)
      refine h.update_pool hslots rfl (h.pools.idle_owned _ slots hslots)
        (hwired.enter ?_)
      cases task.holding <;> trivial
  | cancelCall htask hkind hprogram hphase hslots hstale hsent =>
      rename_i i task handled operationTimeout object request k slots count
      have hleft := h.setStale object.connection.context.stream count
      have hwired := hleft.tasks task (List.mem_of_getElem? htask)
      have hobject := hwired.object_of_call hprogram
      refine hleft.update_pool hslots rfl
        (giveBack_owned hleft hslots ⟨hobject.left, hobject.right.left⟩)
        (hwired.enter ?_)
      cases task.holding <;> trivial

theorem reachable_wired {d : Deployment} {s : State} (h : Reachable d s) :
    Wired d s := by
  apply h.invariant
  · intro s hs
    rw [show s = State.initial d.modbus from hs]
    exact wired_initial d
  · intro s l s' _ hwired hstep
    exact step_wired hwired hstep

/-!
## Pools of a target
-/

section Targets

variable {d : Deployment} {s : State}

/-- A pool is the one built for the target its manager serves. -/
theorem Wired.pool_built (h : Wired d s) {pool : Pool} (hhandle : Handle s pool) :
    s.service.runtimes.get
        { address := pool.manager.addr, slaveId := pool.manager.slaveId } =
      some { address := pool.manager.addr, slaveId := pool.manager.slaveId
             pool := pool } ∧
    pool = buildModbusPool pool.manager.addr pool.manager.slaveId d.modbus
      pool.id := by
  rcases hhandle with ⟨slots, hslots, rfl⟩
  rcases h.pools.listed _ slots hslots with ⟨target, runtime, hget, hpool⟩
  have hbuilt := (h.pools.built target runtime hget).left
  rw [hpool, h.config] at hbuilt
  have hpooleq : slots.pool = buildModbusPool target.address target.slaveId
      d.modbus slots.pool.id := by
    rw [<- hpool]
    exact (congrArg ModbusRuntime.pool hbuilt).trans
      (by rw [hpool]; rfl)
  have haddr : slots.pool.manager.addr = target.address := by
    rw [hpooleq]
    rfl
  have hslave : slots.pool.manager.slaveId = target.slaveId := by
    rw [hpooleq]
    rfl
  rw [haddr, hslave]
  refine ⟨?_, hpooleq⟩
  rw [hget, hbuilt]
  congr 1
  rw [buildModbusRuntime, <- hpooleq]

/-- Two pools of one target are the same pool. -/
theorem Wired.pool_unique (h : Wired d s) {pool pool' : Pool}
    (hhandle : Handle s pool) (hhandle' : Handle s pool')
    (haddr : pool.manager.addr = pool'.manager.addr)
    (hslave : pool.manager.slaveId = pool'.manager.slaveId) : pool = pool' := by
  have hget := (h.pool_built hhandle).left
  have hget' := (h.pool_built hhandle').left
  rw [haddr, hslave, hget', Option.some.injEq] at hget
  exact (congrArg ModbusRuntime.pool hget).symm

end Targets

end ConveyorModbus
