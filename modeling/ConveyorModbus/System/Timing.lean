import ConveyorModbus.System.Wire

/-!
# How long a request can take

Connection attempts, the delays between them and Modbus calls are awaited under
a deadline.  A meter adds up the deadlines of the waits a task has been
through.  Whatever the devices do, a request waits no longer than one round of
attempts and one call allow; the time it queues for a permit, closes a broken
connection or awaits a webhook has no deadline in the code and is not metered.
-/

namespace ConveyorModbus

open Counting Effects Program

/-!
## The meter
-/

def Task.deadline (task : Task) : Duration :=
  match task.program, task.phase with
  | .perform (.get _) _, .creating (.perform (.connect connectTimeout _) _) =>
      connectTimeout
  | .perform (.get _) _, .creating (.perform (.sleep delay) _) => delay
  | .perform (.call operationTimeout _ _) _, _ => operationTimeout
  | _, _ => 0

/-- The step ends a wait that has a deadline. -/
def Label.endsWait : Label -> Bool
  | connected _ => true
  | refused _ _ => true
  | connectTimeout _ => true
  | slept _ => true
  | answer _ _ => true
  | transportError _ _ => true
  | operationTimeout _ => true
  | _ => false

/-- How long task `i` may have waited when a step ends its wait. -/
def State.waited (i : Nat) (s : State) (l : Label) : Duration :=
  match s.tasks[i]? with
  | some task => if l.task = some i ∧ l.endsWait then task.deadline else 0
  | none => 0

def waitTariff (config : ModbusConfig) : Tariff where
  start := 0
  runtime := 0
  acquire := 0
  pop := 0
  disconnected := 0
  recycled := 0
  connect := config.connectTimeout
  sleep := config.reconnectDelay
  created := 0
  send := 0
  reply := config.operationTimeout
  release := 0
  post := 0
  posted := 0
  cancel := 0

/-!
## The deadlines are the configured ones
-/

section Deadlines

variable {d : Deployment} {s s' : State} {l : Label} {i : Nat} {task : Task}

/-- What `create` awaits, it awaits under the settings of the service. -/
theorem creating_allowed (hwired : Wired d s) (htask : TaskWired d s task)
    {pool : Pool} {k : Except PoolError Object -> ServiceProgram TaskOutput}
    {e : NetEffect}
    {rest : e.Reply -> NetProgram (Except ManagerError ManagedConnection)}
    (hprogram : task.program = perform (.get pool) k)
    (hphase : task.phase = .creating (perform e rest)) :
    (forall connectTimeout addr, e = .connect connectTimeout addr ->
      connectTimeout = d.modbus.connectTimeout) ∧
    forall delay, e = .sleep delay -> delay = d.modbus.reconnectDelay := by
  have hpool := (hwired.pool_built (htask.handle_of_get hprogram)).right
  rcases htask.holding_of_get hprogram with ⟨runtime, hholding, rfl⟩
  have hcreating := htask.phase
  rw [hholding, hphase] at hcreating
  rcases hcreating with ⟨opening, hallowed, _⟩
  constructor
  · rintro connectTimeout addr rfl
    cases opening with
    | connecting =>
        rw [show connectTimeout = runtime.pool.manager.connectTimeout from
          hallowed, hpool]
        rfl
    | opened context => exact hallowed.elim
  · rintro delay rfl
    cases opening with
    | connecting =>
        rw [show delay = runtime.pool.manager.reconnectDelay from hallowed,
          hpool]
        rfl
    | opened context => exact hallowed.elim

theorem deadline_of_connect (hs : Reachable d s) (htask : task ∈ s.tasks)
    {pool : Pool} {k : Except PoolError Object -> ServiceProgram TaskOutput}
    {connectTimeout : Duration} {addr : SocketAddr}
    {rest : Except Elapsed (Except IoError Context) ->
      NetProgram (Except ManagerError ManagedConnection)}
    (hprogram : task.program = perform (.get pool) k)
    (hphase : task.phase =
      .creating (perform (.connect connectTimeout addr) rest)) :
    task.deadline = d.modbus.connectTimeout := by
  have hwired := reachable_wired hs
  unfold Task.deadline
  rw [hprogram, hphase]
  exact (creating_allowed hwired (hwired.tasks task htask) hprogram
    hphase).left connectTimeout addr rfl

theorem deadline_of_sleep (hs : Reachable d s) (htask : task ∈ s.tasks)
    {pool : Pool} {k : Except PoolError Object -> ServiceProgram TaskOutput}
    {delay : Duration}
    {rest : Unit -> NetProgram (Except ManagerError ManagedConnection)}
    (hprogram : task.program = perform (.get pool) k)
    (hphase : task.phase = .creating (perform (.sleep delay) rest)) :
    task.deadline = d.modbus.reconnectDelay := by
  have hwired := reachable_wired hs
  unfold Task.deadline
  rw [hprogram, hphase]
  exact (creating_allowed hwired (hwired.tasks task htask) hprogram
    hphase).right delay rfl

theorem deadline_of_call (hs : Reachable d s) (htask : task ∈ s.tasks)
    {operationTimeout : Duration} {object : Object} {request : ModbusRequest}
    {k : CallResult request.Answer -> ServiceProgram TaskOutput}
    (hprogram : task.program =
      perform (.call operationTimeout object request) k) :
    task.deadline = d.modbus.operationTimeout := by
  have htrace := ((reachable_wired hs).tasks task htask).trace
  rw [hprogram] at htrace
  rcases task_calling htrace with ⟨_, _, _, _, htimeout, _⟩
  have hsettings : object.connection.operationTimeout =
      d.modbus.operationTimeout :=
    (calling_made (i := 0) hs htask hprogram).right.right
  unfold Task.deadline
  rw [hprogram]
  exact htimeout.trans hsettings

theorem deadline_price (hs : Reachable d s) (hstep : Step d s l s')
    (hl : l.task = some i) (hends : l.endsWait = true) :
    exists task, s.tasks[i]? = some task ∧
      task.deadline = (waitTariff d.modbus).price l := by
  cases hstep
  case connected htask hprogram hphase =>
    cases hl
    exact ⟨_, htask, deadline_of_connect hs (List.mem_of_getElem? htask)
      hprogram hphase⟩
  case refused htask hprogram hphase =>
    cases hl
    exact ⟨_, htask, deadline_of_connect hs (List.mem_of_getElem? htask)
      hprogram hphase⟩
  case connectTimeout htask hprogram hphase =>
    cases hl
    exact ⟨_, htask, deadline_of_connect hs (List.mem_of_getElem? htask)
      hprogram hphase⟩
  case slept htask hprogram hphase =>
    cases hl
    exact ⟨_, htask, deadline_of_sleep hs (List.mem_of_getElem? htask)
      hprogram hphase⟩
  case answer htask hprogram hphase hreply hstale =>
    cases hl
    exact ⟨_, htask, deadline_of_call hs (List.mem_of_getElem? htask) hprogram⟩
  case transportError htask hprogram hphase =>
    cases hl
    exact ⟨_, htask, deadline_of_call hs (List.mem_of_getElem? htask) hprogram⟩
  case operationTimeout htask hprogram hphase =>
    cases hl
    exact ⟨_, htask, deadline_of_call hs (List.mem_of_getElem? htask) hprogram⟩
  all_goals cases hends

theorem waitTariff_free (config : ModbusConfig) (h : l.endsWait = false) :
    (waitTariff config).price l = 0 := by
  cases l <;> first | rfl | cases h

theorem waited_price (hs : Reachable d s) (hstep : Step d s l s') :
    s.waited i l = (waitTariff d.modbus).priceOf i l := by
  unfold State.waited Tariff.priceOf
  by_cases hown : l.task = some i
  · rw [if_pos hown]
    cases hends : l.endsWait with
    | true =>
        rcases deadline_price hs hstep hown hends with
          ⟨task, htask, hdeadline⟩
        simp only [htask, hown, and_self, if_true]
        exact hdeadline
    | false =>
        rw [waitTariff_free _ hends]
        cases s.tasks[i]? <;> simp
  · rw [if_neg hown]
    cases s.tasks[i]? <;> simp [hown]

end Deadlines

/-!
## The bound
-/

def ModbusConfig.longestWait (config : ModbusConfig) : Duration :=
  config.clampedMaxConnectAttempts * config.connectTimeout +
    (config.clampedMaxConnectAttempts - 1) * config.reconnectDelay +
    config.operationTimeout

theorem waitTariff_budget (d : Deployment) (kind : TaskKind) :
    (waitTariff d.modbus).budget d.modbus.clampedMaxConnectAttempts d.conveyor
        kind =
      kind.requests d.conveyor * d.modbus.longestWait := by
  cases kind <;>
    simp [Tariff.budget, Tariff.handlerBudget, Tariff.roundBudget,
      Tariff.operation, Tariff.popping, Tariff.opening, Tariff.discard,
      waitTariff, TaskKind.requests, ModbusConfig.longestWait]

/-- No run makes a task wait longer, by the deadlines of what it awaits, than
its requests allow. -/
theorem waiting_bounded (d : Deployment) (s t s' : State) (l : Label)
    (ls : List Label) (kind : TaskKind) (wait : Duration)
    (hs : Reachable d s) (hl : l.starts = some kind) (hstep : Step d s l t)
    (hrun : (machine d).Metered (State.waited s.tasks.length) t ls wait s') :
    wait ≤ kind.requests d.conveyor * d.modbus.longestWait := by
  have ht : Reachable d t := Transition.System.Reachable.step hs hstep
  have hprice : forall u label v, Reachable d u -> (machine d).step u label v ->
      State.waited s.tasks.length u label =
        (waitTariff d.modbus).priceOf s.tasks.length label :=
    fun _ _ _ hreach hnext => waited_price hreach hnext
  rcases hrun.total_eq hprice ht with ⟨hplain, rfl⟩
  have hpaid := (waitTariff d.modbus).task_cost_le d rfl hs hl
    (Transition.System.Run.cons hstep hplain)
  rw [waitTariff_budget] at hpaid
  exact hpaid

def refusedLabels : List Label :=
  [.runtime 0, .acquire 0, .popEmpty 0, .refused 0 "refused", .slept 0,
    .refused 0 "refused", .slept 0, .refused 0 "refused", .created 0]

theorem waiting_bounded_refused :
    exists t s' wait, Step lineDeployment
        (State.initial lineDeployment.modbus)
        (.spawn (.write { source := "A1", destination := "B1" })) t ∧
      (machine lineDeployment).Metered (State.waited 0) t refusedLabels wait
        s' ∧
      wait ≤ 9000 := by
  have hreplay : (replay lineDeployment
      ((State.initial lineDeployment.modbus).addTask (Task.start lineConveyor
        (.handler (.write { source := "A1", destination := "B1" }))))
      refusedLabels).any (fun _ => true) = true := by
    decide
  rcases exists_of_replay hreplay with ⟨s', hs', _⟩
  rcases Transition.System.exists_metered (State.waited 0) (replay_run hs')
    with ⟨wait, hmetered⟩
  exact ⟨_, s', wait, Step.spawn, hmetered,
    waiting_bounded lineDeployment _ _ s' _ refusedLabels
      (.handler (.write { source := "A1", destination := "B1" })) wait
      (Transition.System.Reachable.init rfl) rfl Step.spawn hmetered⟩

end ConveyorModbus
