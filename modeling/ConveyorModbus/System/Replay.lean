import ConveyorModbus.System.Machine

/-!
# Replaying runs

The steps as a function: given the label, the state determines what happens.
A list of labels that replays from the initial state is a run, so a concrete
run is checked by computation.
-/

namespace ConveyorModbus

open Effects Program

def Task.isOver (task : Task) : Bool :=
  match task.program with
  | .ret _ => true
  | .perform _ _ => false

theorem Task.finished_of_isOver {task : Task} (h : task.isOver = true) :
    task.Finished := by
  unfold Task.isOver at h
  split at h
  · rename_i output hprogram
    exact ⟨output, hprogram⟩
  · cases h

theorem Task.not_finished_of_isOver {task : Task} (h : task.isOver = false) :
    ¬ task.Finished := by
  intro h
  rcases h with ⟨output, hprogram⟩
  rw [isOver, hprogram] at h
  cases h

def Task.response (task : Task) : Option Response :=
  match task.program with
  | .ret (.response response) => some response
  | _ => none

theorem Task.program_of_response {task : Task} {response : Response}
    (h : task.response = some response) :
    task.program = .ret (.response response) := by
  unfold Task.response at h
  split at h
  · rename_i found hprogram
    rw [hprogram, Option.some.inj h]
  · cases h

def TaskKind.isRound : TaskKind -> Bool
  | round => true
  | handler _ => false

theorem TaskKind.round_of_isRound {kind : TaskKind} (h : kind.isRound = true) :
    kind = .round := by
  cases kind with
  | handler request => cases h
  | round => rfl

def Phase.isPosting : Phase -> Bool
  | posting => true
  | _ => false

theorem Phase.posting_of_isPosting {phase : Phase}
    (h : phase.isPosting = true) : phase = .posting := by
  cases phase with
  | posting => rfl
  | _ => cases h

section Moves

variable (d : Deployment) (s : State) (i : Nat) (task : Task)

def advanceGet (pool : Pool)
    (k : Except PoolError Object -> ServiceProgram TaskOutput) :
    Label -> Option State
  | .acquire _ =>
      match task.phase, s.pools[pool.id]? with
      | .ready, some slots =>
          if 0 < slots.permits then
            some ((s.setPool pool.id slots.takePermit).setTask i
              (task.enter .popping))
          else
            none
      | _, _ => none
  | .popIdle _ n =>
      match task.phase, s.pools[pool.id]? with
      | .popping, some slots =>
          match slots.idle[n]? with
          | some connection =>
              some ((s.setPool pool.id (slots.removeIdle n)).setTask i
                (task.enter (.recycling connection
                  (pool.manager.recycle connection))))
          | none => none
      | _, _ => none
  | .popEmpty _ =>
      match task.phase, s.pools[pool.id]? with
      | .popping, some slots =>
          match slots.idle with
          | [] => some (s.setTask i
              (task.enter (.creating (pool.manager.create SocketAddr.fromStr))))
          | _ :: _ => none
      | _, _ => none
  | .disconnected _ result =>
      match task.phase with
      | .recycling connection (perform (.disconnect _) rest) =>
          some (s.setTask i (task.enter (.recycling connection (rest result))))
      | _ => none
  | .recycled _ =>
      match task.phase with
      | .recycling _ (ret (.ok (), recycled)) =>
          some (s.setTask i
            (task.resume (.get pool) (.ok { pool, connection := recycled }) k))
      | .recycling _ (ret (.error _, _)) =>
          some (s.setTask i (task.enter .popping))
      | _ => none
  | .connected _ =>
      match task.phase with
      | .creating (perform (.connect _ _) rest) =>
          some (s.openStream.setTask i
            (task.enter (.creating
              (rest (.ok (.ok (Context.attach s.streams)))))))
      | _ => none
  | .refused _ err =>
      match task.phase with
      | .creating (perform (.connect _ _) rest) =>
          some (s.setTask i (task.enter (.creating (rest (.ok (.error err))))))
      | _ => none
  | .connectTimeout _ =>
      match task.phase with
      | .creating (perform (.connect _ _) rest) =>
          some (s.setTask i (task.enter (.creating (rest (.error .elapsed)))))
      | _ => none
  | .slept _ =>
      match task.phase with
      | .creating (perform (.sleep _) rest) =>
          some (s.setTask i (task.enter (.creating (rest ()))))
      | _ => none
  | .created _ =>
      match task.phase, s.pools[pool.id]? with
      | .creating (ret (.ok connection)), _ =>
          some (s.setTask i
            (task.resume (.get pool) (.ok { pool, connection }) k))
      | .creating (ret (.error err)), some slots =>
          some ((s.setPool pool.id slots.returnPermit).setTask i
            (task.resume (.get pool)
              (.error { cause := err, text := d.poolErrorText err }) k))
      | _, _ => none
  | .cancel _ =>
      match task.kind, task.phase, s.pools[pool.id]? with
      | .handler _, .ready, _ => some (s.setTask i (task.enter .dropped))
      | .handler _, .popping, some slots
      | .handler _, .recycling _ _, some slots
      | .handler _, .creating _, some slots =>
          some ((s.setPool pool.id slots.returnPermit).setTask i
            (task.enter .dropped))
      | _, _, _ => none
  | _ => none

def advanceCall (operationTimeout : Duration) (object : Object)
    (request : ModbusRequest)
    (k : CallResult request.Answer -> ServiceProgram TaskOutput) :
    Label -> Option State
  | .send _ =>
      match task.phase with
      | .ready =>
          some ((s.setOutstanding object.connection.context.stream
              (s.outstanding object.connection.context.stream + 1)).setTask i
            (task.enter .inFlight))
      | _ => none
  | .answer _ reply =>
      match task.phase, reply.answer request with
      | .inFlight, some result =>
          if s.stale object.connection.context.stream = 0 then
            some ((s.setOutstanding object.connection.context.stream
                (s.outstanding object.connection.context.stream - 1)).setTask i
              (task.resume (.call operationTimeout object request)
                (CallResult.replied result) k))
          else
            none
      | _, _ => none
  | .transportError _ err =>
      match task.phase with
      | .ready | .inFlight =>
          some ((s.recordFailure object).setTask i
            (task.resume (.call operationTimeout object request)
              (CallResult.transport task.phase.isInFlight err) k))
      | _ => none
  | .operationTimeout _ =>
      match task.phase with
      | .ready | .inFlight =>
          some ((s.recordFailure object).setTask i
            (task.resume (.call operationTimeout object request)
              (CallResult.timedOut task.phase.isInFlight) k))
      | _ => none
  | .cancel _ =>
      match task.kind, task.phase, s.pools[object.pool.id]? with
      | .handler _, .ready, some slots =>
          if s.stale object.connection.context.stream ≤
              s.outstanding object.connection.context.stream then
            some (((s.setStale object.connection.context.stream
                (s.stale object.connection.context.stream)).setPool
              object.pool.id (slots.giveBack object.connection)).setTask i
                (task.enter .dropped))
          else
            none
      -- the device answers the request after all
      | .handler _, .inFlight, some slots =>
          if s.stale object.connection.context.stream + 1 ≤
              s.outstanding object.connection.context.stream then
            some (((s.setStale object.connection.context.stream
                (s.stale object.connection.context.stream + 1)).setPool
              object.pool.id (slots.giveBack object.connection)).setTask i
                (task.enter .dropped))
          else
            none
      | _, _, _ => none
  | _ => none

def advanceRuntime (address : String) (slaveId : UInt8)
    (k : ModbusRuntime -> ServiceProgram TaskOutput) : Label -> Option State
  | .runtime _ =>
      match task.phase, s.service.lookup address slaveId with
      | .ready, some runtime =>
          some (s.setTask i
            (task.resume (.runtime address slaveId) runtime k))
      | .ready, none =>
          match s.service.entryOrInsert address slaveId with
          | (runtime, service) =>
              some ((s.addPool service (PoolState.build runtime.pool)).setTask i
                (task.resume (.runtime address slaveId) runtime k))
      | _, _ => none
  | .cancel _ =>
      match task.kind, task.phase with
      | .handler _, .ready => some (s.setTask i (task.enter .dropped))
      | _, _ => none
  | _ => none

def advancePost (url : String) (payload : ConveyorCanPutdownWebhookPayload)
    (k : PostOutcome -> ServiceProgram TaskOutput) : Label -> Option State
  | .post _ =>
      match task.phase with
      | .ready => some (s.setTask i (task.enter .posting))
      | _ => none
  | .posted _ outcome =>
      match task.phase with
      | .posting =>
          some (s.setTask i (task.resume (.post url payload) outcome k))
      | _ => none
  | _ => none

def advanceRelease (object : Object) (k : Unit -> ServiceProgram TaskOutput) :
    Label -> Option State
  | .release _ =>
      match task.phase, s.pools[object.pool.id]? with
      | .ready, some slots =>
          some ((s.setPool object.pool.id
            (slots.giveBack object.connection)).setTask i
              (task.resume (.release object) () k))
      | _, _ => none
  | _ => none

end Moves

def Label.task : Label -> Option Nat
  | spawn _ => none
  | startRound => none
  | runtime i => some i
  | acquire i => some i
  | popIdle i _ => some i
  | popEmpty i => some i
  | disconnected i _ => some i
  | recycled i => some i
  | connected i => some i
  | refused i _ => some i
  | connectTimeout i => some i
  | slept i => some i
  | created i => some i
  | send i => some i
  | answer i _ => some i
  | transportError i _ => some i
  | operationTimeout i => some i
  | release i => some i
  | post i => some i
  | posted i _ => some i
  | cancel i => some i

def advance (d : Deployment) (s : State) (l : Label) : Option State :=
  match l with
  | .spawn request =>
      some (s.addTask (Task.start d.conveyor (.handler request)))
  | .startRound =>
      if s.tasks.all (fun task => !task.kind.isRound || task.isOver) then
        some (s.addTask (Task.start d.conveyor .round))
      else
        none
  | _ =>
      match l.task with
      | none => none
      | some i =>
          match s.tasks[i]? with
          | none => none
          | some task =>
              match task.program with
              | ret _ => none
              | perform (.runtime address slaveId) k =>
                  advanceRuntime s i task address slaveId k l
              | perform (.get pool) k => advanceGet d s i task pool k l
              | perform (.call operationTimeout object request) k =>
                  advanceCall s i task operationTimeout object request k l
              | perform (.release object) k => advanceRelease s i task object k l
              | perform (.post url payload) k =>
                  advancePost s i task url payload k l

/-!
## Every replayed step is a step
-/

section Sound

variable {d : Deployment} {s s' : State} {i : Nat} {task : Task} {l : Label}

theorem advanceRuntime_sound (htask : s.tasks[i]? = some task)
    {address : String} {slaveId : UInt8}
    {k : ModbusRuntime -> ServiceProgram TaskOutput}
    (hprogram : task.program = perform (.runtime address slaveId) k)
    (hl : l.task = some i)
    (h : advanceRuntime s i task address slaveId k l = some s') :
    Step d s l s' := by
  cases l
  case runtime j =>
      obtain rfl : j = i := Option.some.inj hl
      simp only [advanceRuntime] at h
      split at h
      · rename_i runtime hphase hlookup
        cases h
        exact Step.runtimeHit htask hprogram hphase hlookup
      · rename_i hphase hlookup
        cases h
        exact Step.runtimeMiss htask hprogram hphase hlookup rfl
      · cases h
  case cancel j =>
      obtain rfl : j = i := Option.some.inj hl
      simp only [advanceRuntime] at h
      split at h
      · rename_i request hkind hphase
        cases h
        exact Step.cancelWaiting htask hkind hprogram
          (Or.inl ⟨address, slaveId, rfl⟩) hphase
      · cases h
  all_goals simp [advanceRuntime] at h

theorem advanceGet_sound (htask : s.tasks[i]? = some task) {pool : Pool}
    {k : Except PoolError Object -> ServiceProgram TaskOutput}
    (hprogram : task.program = perform (.get pool) k) (hl : l.task = some i)
    (h : advanceGet d s i task pool k l = some s') : Step d s l s' := by
  cases l
  case acquire j =>
      obtain rfl : j = i := Option.some.inj hl
      simp only [advanceGet] at h
      split at h
      · rename_i slots hphase hslots
        split at h
        · rename_i hpermit
          cases h
          exact Step.acquire htask hprogram hphase hslots hpermit
        · cases h
      · cases h
  case popIdle j n =>
      obtain rfl : j = i := Option.some.inj hl
      simp only [advanceGet] at h
      split at h
      · rename_i slots hphase hslots
        split at h
        · rename_i connection hidle
          cases h
          exact Step.popIdle htask hprogram hphase hslots hidle
        · cases h
      · cases h
  case popEmpty j =>
      obtain rfl : j = i := Option.some.inj hl
      simp only [advanceGet] at h
      split at h
      · rename_i slots hphase hslots
        split at h
        · rename_i hidle
          cases h
          exact Step.popEmpty htask hprogram hphase hslots hidle
        · cases h
      · cases h
  case disconnected j result =>
      obtain rfl : j = i := Option.some.inj hl
      simp only [advanceGet] at h
      split at h
      · rename_i hphase
        cases h
        exact Step.disconnected htask hprogram hphase
      · cases h
  case recycled j =>
      obtain rfl : j = i := Option.some.inj hl
      simp only [advanceGet] at h
      split at h
      · rename_i hphase
        cases h
        exact Step.recycleOk htask hprogram hphase
      · rename_i hphase
        cases h
        exact Step.recycleErr htask hprogram hphase
      · cases h
  case connected j =>
      obtain rfl : j = i := Option.some.inj hl
      simp only [advanceGet] at h
      split at h
      · rename_i hphase
        cases h
        exact Step.connected htask hprogram hphase
      · cases h
  case refused j err =>
      obtain rfl : j = i := Option.some.inj hl
      simp only [advanceGet] at h
      split at h
      · rename_i hphase
        cases h
        exact Step.refused htask hprogram hphase
      · cases h
  case connectTimeout j =>
      obtain rfl : j = i := Option.some.inj hl
      simp only [advanceGet] at h
      split at h
      · rename_i hphase
        cases h
        exact Step.connectTimeout htask hprogram hphase
      · cases h
  case slept j =>
      obtain rfl : j = i := Option.some.inj hl
      simp only [advanceGet] at h
      split at h
      · rename_i hphase
        cases h
        exact Step.slept htask hprogram hphase
      · cases h
  case created j =>
      obtain rfl : j = i := Option.some.inj hl
      simp only [advanceGet] at h
      split at h
      · rename_i hphase
        cases h
        exact Step.createOk htask hprogram hphase
      · rename_i hphase hslots
        cases h
        exact Step.createErr htask hprogram hphase hslots
      · cases h
  case cancel j =>
      obtain rfl : j = i := Option.some.inj hl
      simp only [advanceGet] at h
      split at h
      · rename_i hkind hphase
        cases h
        exact Step.cancelWaiting htask hkind hprogram
          (Or.inr ⟨pool, rfl⟩) hphase
      · rename_i hkind hphase hslots
        cases h
        exact Step.cancelGetting htask hkind hprogram (by simp [hphase])
          (by simp [hphase]) hslots
      · rename_i hkind hphase hslots
        cases h
        exact Step.cancelGetting htask hkind hprogram (by simp [hphase])
          (by simp [hphase]) hslots
      · rename_i hkind hphase hslots
        cases h
        exact Step.cancelGetting htask hkind hprogram (by simp [hphase])
          (by simp [hphase]) hslots
      · cases h
  all_goals simp [advanceGet] at h

theorem advanceCall_sound (htask : s.tasks[i]? = some task)
    {operationTimeout : Duration} {object : Object} {request : ModbusRequest}
    {k : CallResult request.Answer -> ServiceProgram TaskOutput}
    (hprogram : task.program =
      perform (.call operationTimeout object request) k)
    (hl : l.task = some i)
    (h : advanceCall s i task operationTimeout object request k l = some s') :
    Step d s l s' := by
  cases l
  case send j =>
      obtain rfl : j = i := Option.some.inj hl
      simp only [advanceCall] at h
      split at h
      · rename_i hphase
        cases h
        exact Step.send htask hprogram hphase
      · cases h
  case answer j reply =>
      obtain rfl : j = i := Option.some.inj hl
      simp only [advanceCall] at h
      split at h
      · rename_i result hphase hanswer
        split at h
        · rename_i hstale
          cases h
          exact Step.answer htask hprogram hphase hanswer hstale
        · cases h
      · cases h
  case transportError j err =>
      obtain rfl : j = i := Option.some.inj hl
      simp only [advanceCall] at h
      split at h
      · rename_i hphase
        cases h
        exact Step.transportError htask hprogram (Or.inl hphase)
      · rename_i hphase
        cases h
        exact Step.transportError htask hprogram (Or.inr hphase)
      · cases h
  case operationTimeout j =>
      obtain rfl : j = i := Option.some.inj hl
      simp only [advanceCall] at h
      split at h
      · rename_i hphase
        cases h
        exact Step.operationTimeout htask hprogram (Or.inl hphase)
      · rename_i hphase
        cases h
        exact Step.operationTimeout htask hprogram (Or.inr hphase)
      · cases h
  case cancel j =>
      obtain rfl : j = i := Option.some.inj hl
      simp only [advanceCall] at h
      split at h
      · rename_i hkind hphase hslots
        split at h
        · rename_i hsent
          cases h
          exact Step.cancelCall htask hkind hprogram (Or.inl hphase) hslots
            (Nat.le_refl _) hsent
        · cases h
      · rename_i hkind hphase hslots
        split at h
        · rename_i hsent
          cases h
          exact Step.cancelCall htask hkind hprogram (Or.inr hphase) hslots
            (Nat.le_succ _) hsent
        · cases h
      · cases h
  all_goals simp [advanceCall] at h

theorem advanceRelease_sound (htask : s.tasks[i]? = some task) {object : Object}
    {k : Unit -> ServiceProgram TaskOutput}
    (hprogram : task.program = perform (.release object) k)
    (hl : l.task = some i)
    (h : advanceRelease s i task object k l = some s') : Step d s l s' := by
  cases l
  case release j =>
      obtain rfl : j = i := Option.some.inj hl
      simp only [advanceRelease] at h
      split at h
      · rename_i slots hphase hslots
        cases h
        exact Step.release htask hprogram hphase hslots
      · cases h
  all_goals simp [advanceRelease] at h

theorem advancePost_sound (htask : s.tasks[i]? = some task) {url : String}
    {payload : ConveyorCanPutdownWebhookPayload}
    {k : PostOutcome -> ServiceProgram TaskOutput}
    (hprogram : task.program = perform (.post url payload) k)
    (hl : l.task = some i)
    (h : advancePost s i task url payload k l = some s') : Step d s l s' := by
  cases l
  case post j =>
      obtain rfl : j = i := Option.some.inj hl
      simp only [advancePost] at h
      split at h
      · rename_i hphase
        cases h
        exact Step.post htask hprogram hphase
      · cases h
  case posted j outcome =>
      obtain rfl : j = i := Option.some.inj hl
      simp only [advancePost] at h
      split at h
      · rename_i hphase
        cases h
        exact Step.posted htask hprogram hphase
      · cases h
  all_goals simp [advancePost] at h

theorem roundsOver_of_all
    (h : s.tasks.all (fun task => !task.kind.isRound || task.isOver) = true) :
    forall task, task ∈ s.tasks -> task.kind = .round -> task.Finished := by
  intro task htask hround
  have hover := List.all_eq_true.mp h task htask
  rw [hround] at hover
  exact Task.finished_of_isOver hover

theorem advance_sound (h : advance d s l = some s') : Step d s l s' := by
  unfold advance at h
  split at h
  · cases h
    exact Step.spawn
  · split at h
    · rename_i hall
      cases h
      exact Step.startRound (roundsOver_of_all hall)
    · cases h
  · split at h
    · cases h
    · rename_i i hl
      split at h
      · cases h
      · rename_i task htask
        split at h
        · cases h
        · rename_i hprogram
          exact advanceRuntime_sound htask hprogram hl h
        · rename_i hprogram
          exact advanceGet_sound htask hprogram hl h
        · rename_i hprogram
          exact advanceCall_sound htask hprogram hl h
        · rename_i hprogram
          exact advanceRelease_sound htask hprogram hl h
        · rename_i hprogram
          exact advancePost_sound htask hprogram hl h

end Sound

/-!
## Runs
-/

def replay (d : Deployment) : State -> List Label -> Option State :=
  Transition.System.replay (advance d)

theorem replay_run {d : Deployment} {s s' : State} {ls : List Label}
    (h : replay d s ls = some s') : (machine d).Run s ls s' :=
  Transition.System.run_of_replay (fun _ _ _ => advance_sound) h

theorem exists_of_replay {d : Deployment} {s : State} {ls : List Label}
    {p : State -> Bool} (h : (replay d s ls).any p = true) :
    exists s', replay d s ls = some s' ∧ p s' = true :=
  (Option.any_eq_true _ _).mp h

theorem replay_reachable {d : Deployment} {s : State} {ls : List Label}
    (h : replay d (State.initial d.modbus) ls = some s) : Reachable d s :=
  (replay_run h).reachable (Transition.System.Reachable.init rfl)

/-!
## A small deployment

One device with an entry in each table, the location of the read check being
notified to one webhook.
-/

def lineConveyor : ConveyorConfig where
  sendRoutes :=
    [{ source := "A1", destination := "B1", device := "10.0.0.5:502"
       slaveId := 1, function := .writeSingleRegister, registerAddress := 100
       value := 7 }]
  sendSuccessChecks :=
    [{ source := "A1", device := "10.0.0.5:502", slaveId := 1
       function := .readHoldingRegisters, registerAddress := 200
       quantity := 1 }]
  canPutdownChecks :=
    [{ location := "B1", device := "10.0.0.5:502", slaveId := 1
       function := .readHoldingRegisters, registerAddress := 300
       quantity := 1, hookNotify := some "wms" }]
  needPutdownRoutes :=
    [{ location := "B1", device := "10.0.0.5:502", slaveId := 1
       function := .writeSingleRegister, registerAddress := 400
       value := 1 }]
  webhooks := [{ name := "wms", url := "http://wms.local/hook" }]

def lineDeployment : Deployment where
  poolErrorText err :=
    s!"Error occurred while creating a new object: {err.toString}"
  modbus := default
  conveyor := lineConveyor

def connectLabels (i : Nat) : List Label :=
  [.runtime i, .acquire i, .popEmpty i, .connected i, .created i]

def reuseLabels (i : Nat) : List Label :=
  [.runtime i, .acquire i, .popIdle i 0, .recycled i]

def writeLabels : List Label :=
  [.spawn (.write { source := "A1", destination := "B1" })] ++
    connectLabels 0 ++ [.send 0, .answer 0 .written, .release 0]

end ConveyorModbus
