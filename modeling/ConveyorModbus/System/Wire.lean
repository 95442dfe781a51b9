import ConveyorModbus.System.Dispatch
import ConveyorModbus.System.Targets
import ConveyorModbus.System.Work

/-!
# What goes over the wire

The service as its devices see it.  A history is a run from the start together
with the requests it has sent.  Each of them is the one its sender is there to
make, on a connection of the device it is meant for; and a register write is
sent at least once for every request answered with success, and at most once
for every request received.
-/

namespace ConveyorModbus

open Counting Effects Program

/-!
## What a task is there to send
-/

def TaskKind.Makes (conveyor : ConveyorConfig) :
    TaskKind -> ModbusTarget -> ModbusRequest -> Prop
  | handler request, target, sent =>
      exists plan, request.plan conveyor = some plan ∧
        plan.target = target ∧ plan.request = sent
  | round, target, sent =>
      exists check, check ∈ conveyor.polledChecks ∧
        check.target.modbusTarget = target ∧
        ModbusRequest.readHoldingRegisters check.registerAddress
          check.quantity = sent

section Programs

variable {conveyor : ConveyorConfig} {l : List ServiceEvent}
  {operationTimeout : Duration} {object : Object} {sent : ModbusRequest}

theorem connection_not_calling {address : String} {slaveId : UInt8}
    {k : CallResult sent.Answer -> ServiceProgram (Except ModbusError Object)} :
    ¬ After (ModbusService.connection address slaveId) l
      (perform (.call operationTimeout object sent) k) := by
  intro h
  rcases after_perform_iff.mp h with ⟨_, hhead⟩ | ⟨runtime, rest, _, hrest⟩
  · cases hhead
  · rcases after_perform_iff.mp hrest with ⟨_, hhead⟩ | ⟨reply, tail, _, htail⟩
    · cases hhead
    · cases reply <;> cases htail

theorem operate_calling {T : Type} {address : String} {slaveId : UInt8}
    {request : ModbusRequest}
    {finish : CallOutcome request.Answer -> Except ModbusError T}
    {k : CallResult sent.Answer -> ServiceProgram (Except ModbusError T)}
    (h : After (ModbusService.operate address slaveId request finish) l
      (perform (.call operationTimeout object sent) k)) :
    operationTimeout = object.connection.operationTimeout ∧
      request = sent ∧
      exists runtime, l =
        ModbusService.connectionEvents address slaveId runtime (.ok object) := by
  rcases after_bind h with
    ⟨e, inner, hinner, hhead⟩ | ⟨first, yielded, rest, rfl, hfirst, hrest⟩
  · cases hhead
    exact absurd hinner connection_not_calling
  · rcases ModbusService.connection_returns_iff.mp hfirst with
      ⟨runtime, reply, rfl, rfl⟩
    cases reply with
    | error err => cases hrest
    | ok found =>
        rcases after_perform_iff.mp hrest with
          ⟨rfl, hhead⟩ | ⟨result, tail, _, htail⟩
        · cases hhead
          exact ⟨rfl, rfl, runtime, List.append_nil _⟩
        · rcases after_perform_iff.mp htail with
            ⟨_, hhead⟩ | ⟨_, last, _, hlast⟩
          · cases hhead
          · cases hlast

theorem roundProgram_awaits {events : List WebEvent} {e : WebEffect}
    {k : e.Reply -> WebProgram TaskOutput}
    (h : After (webProgram conveyor .round) events (perform e k)) :
    RoundAwaits conveyor events e := by
  rcases after_bind h with
    ⟨f, inner, hinner, hhead⟩ | ⟨first, out, rest, _, _, hrest⟩
  · cases hhead
    exact round_awaits hinner
  · cases hrest

theorem task_calling {kind : TaskKind}
    {k : CallResult sent.Answer -> ServiceProgram TaskOutput}
    (h : After (taskProgram conveyor kind) l
      (perform (.call operationTimeout object sent) k)) :
    exists target runtime before, kind.Makes conveyor target sent ∧
      operationTimeout = object.connection.operationTimeout ∧
      l = before ++ ModbusService.connectionEvents target.address
        target.slaveId runtime (.ok object) := by
  cases kind with
  | handler request =>
      cases hplan : request.plan conveyor with
      | none =>
          rcases handler_program_of_no_plan hplan with ⟨message, hprogram⟩
          rw [hprogram] at h
          cases h
      | some plan =>
          rw [handler_program_of_plan hplan] at h
          rcases after_bind h with
            ⟨e, inner, hinner, hhead⟩ | ⟨first, out, rest, _, _, hrest⟩
          · cases hhead
            rcases operate_calling hinner with ⟨htime, hsent, runtime, hl⟩
            exact ⟨plan.target, runtime, [], ⟨plan, hplan, rfl, hsent⟩, htime,
              hl⟩
          · cases hrest
  | round =>
      rcases after_interp h with
        ⟨events, e, next, first, rest, inner, hevents, rfl, _, hinner⟩
      cases roundProgram_awaits hevents with
      | read hpolled hmem =>
          rename_i check
          rw [serviceOps_readHoldingRegisters] at hinner
          rcases operate_calling hinner with ⟨htime, hsent, runtime, rfl⟩
          exact ⟨check.target.modbusTarget, runtime, first,
            ⟨check, List.mem_filter.mpr ⟨hmem, hpolled⟩, rfl, hsent⟩, htime,
            rfl⟩
      | post hpolled hmem hcalled =>
          rcases after_perform_iff.mp hinner with
            ⟨_, hhead⟩ | ⟨answer, tail, _, htail⟩
          · cases hhead
          · cases htail

end Programs

/-!
## Histories
-/

structure Transmission where
  sender : Nat
  connection : ManagedConnection
  request : ModbusRequest
  deriving DecidableEq, Repr

namespace Transmission

def target (sent : Transmission) : ModbusTarget where
  address := sent.connection.addr
  slaveId := sent.connection.slaveId

def carries (target : ModbusTarget) (request : ModbusRequest)
    (sent : Transmission) : Bool :=
  sent.target = target && sent.request = request

end Transmission

def State.transmits (s : State) : Label -> List Transmission
  | .send i =>
      match s.tasks[i]? with
      | none => []
      | some task =>
          match task.program with
          | .perform (.call _ object request) _ =>
              [{ sender := i, connection := object.connection, request }]
          | _ => []
  | _ => []

/-- The runs of the service from its start, with all they have transmitted. -/
inductive History (d : Deployment) :
    State -> List Label -> List Transmission -> Prop where
  | start : History d (State.initial d.modbus) [] []
  | step {s s' : State} {l : Label} {ls : List Label}
      {sent : List Transmission} :
      History d s ls sent ->
      Step d s l s' ->
      History d s' (ls ++ [l]) (sent ++ s.transmits l)

theorem History.reachable {d : Deployment} {s : State} {ls : List Label}
    {sent : List Transmission} (h : History d s ls sent) : Reachable d s := by
  induction h with
  | start => exact Transition.System.Reachable.init rfl
  | step _ hstep ih => exact Transition.System.Reachable.step ih hstep

theorem exists_history {d : Deployment} {s s' : State} {ls ls' : List Label}
    {sent : List Transmission} (h : History d s ls sent)
    (hrun : (machine d).Run s ls' s') :
    exists sent', History d s' (ls ++ ls') sent' := by
  induction hrun generalizing ls sent with
  | nil s =>
      rw [List.append_nil]
      exact ⟨sent, h⟩
  | cons hstep _ ih =>
      rcases ih (History.step h hstep) with ⟨sent', hhistory⟩
      rw [List.append_assoc] at hhistory
      exact ⟨sent', hhistory⟩

/-!
## The tasks of a history
-/

/-- The effect that follows may have gone out. -/
def Phase.calling : Phase -> Bool
  | inFlight => true
  | dropped => true
  | _ => false

section Tasks

variable {d : Deployment} {s s' : State} {l : Label} {ls : List Label}
  {sent : List Transmission}

/-- A step of a task goes into another phase of the next effect, and out of a
call only by dropping it, or completes the effect. -/
theorem step_moves (hstep : Step d s l s') {i : Nat} (hl : l.task = some i) :
    exists task task' e k, s.tasks[i]? = some task ∧
      task.program = perform e k ∧ s'.tasks = s.tasks.set i task' ∧
      ((exists phase, (task.phase.calling = true -> phase.calling = true) ∧
          task' = task.enter phase) ∨
        exists r, task' = task.resume e r k) := by
  cases hstep <;> cases hl
  all_goals
    refine ⟨_, _, _, _, by assumption, by assumption, rfl, ?_⟩
    first
      | exact Or.inr ⟨_, rfl⟩
      | exact Or.inl ⟨_, fun _ => rfl, rfl⟩
      -- the phase was one before the call
      | refine Or.inl ⟨_, fun hcalling => absurd hcalling ?_, rfl⟩
        simp [*, Phase.calling]

theorem step_own (hstep : Step d s l s') {i : Nat} (hl : l.task = some i) :
    exists task task', s.tasks[i]? = some task ∧
      s'.tasks = s.tasks.set i task' ∧ task'.kind = task.kind := by
  rcases step_moves hstep hl with
    ⟨task, task', e, k, htask, _, htasks, ⟨phase, _, rfl⟩ | ⟨r, rfl⟩⟩
  · exact ⟨task, _, htask, htasks, rfl⟩
  · exact ⟨task, _, htask, htasks, rfl⟩

theorem step_kinds (hstep : Step d s l s') :
    s'.tasks.map Task.kind = s.tasks.map Task.kind ++ l.starts.toList := by
  cases hl : l.task with
  | none =>
      rcases step_starts hstep hl with ⟨kind, hkind, rfl⟩
      rw [hkind]
      exact List.map_append
  | some i =>
      have hnone : l.starts = none := by
        cases hkind : l.starts with
        | none => rfl
        | some kind =>
            rw [task_of_starts hkind] at hl
            cases hl
      rcases step_own hstep hl with ⟨task, task', htask, htasks, hkind⟩
      rw [hnone, Option.toList_none, List.append_nil, htasks]
      exact map_set_of_some Task.kind htask hkind

theorem kind_kept {i : Nat} {kind : TaskKind}
    (hrun : (machine d).Run s ls s')
    (hkind : (s.tasks.map Task.kind)[i]? = some kind) :
    (s'.tasks.map Task.kind)[i]? = some kind := by
  induction hrun with
  | nil s => exact hkind
  | cons hstep _ ih =>
      apply ih
      have hlt := (List.getElem?_eq_some_iff.mp hkind).1
      rw [step_kinds hstep, List.getElem?_append_left hlt]
      exact hkind

theorem started_kept {kind : TaskKind} (hl : l.starts = some kind)
    (hrun : (machine d).Run s (l :: ls) s') :
    exists task, s'.tasks[s.tasks.length]? = some task ∧ task.kind = kind := by
  cases hrun with
  | cons hstep hrest =>
      rename_i t
      have hstarted : (t.tasks.map Task.kind)[s.tasks.length]? = some kind := by
        rw [step_kinds hstep, hl]
        simp
      have hkept := kind_kept hrest hstarted
      rw [List.getElem?_map] at hkept
      exact Option.map_eq_some_iff.mp hkept

theorem History.kinds (h : History d s ls sent) :
    s.tasks.map Task.kind = ls.filterMap Label.starts := by
  induction h with
  | start => rfl
  | step _ hstep ih =>
      rename_i s t l ls sent
      rw [step_kinds hstep, ih, List.filterMap_append]
      cases l <;> rfl

theorem History.kind_of_task (h : History d s ls sent) {i : Nat} {task : Task}
    (htask : s.tasks[i]? = some task) :
    (ls.filterMap Label.starts)[i]? = some task.kind := by
  rw [<- h.kinds, List.getElem?_map, htask]
  rfl

end Tasks

/-!
## What a history has transmitted
-/

def Transmission.Wired (d : Deployment) (sent : Transmission) : Prop :=
  sent.connection.context.slave = sent.target.slaveId ∧
    sent.connection.operationTimeout = d.modbus.operationTimeout

section Transmitted

variable {d : Deployment} {s s' : State} {l : Label} {ls : List Label}
  {sent : List Transmission}

/-- The connection a task got is one of the target it looked up, also when it
had others before. -/
theorem owned_of_log (hwired : ConveyorModbus.Wired d s) {task : Task}
    (htask : TaskWired d s task) {target : ModbusTarget}
    {runtime : ModbusRuntime} {object : Object}
    {before after : List ServiceEvent}
    (hlog : task.log = before ++ (ModbusService.connectionEvents target.address
      target.slaveId runtime (.ok object) ++ after)) :
    (buildModbusPool target.address target.slaveId d.modbus
      runtime.pool.id).manager.Owns object.connection := by
  have hruntime : (⟨.runtime target.address target.slaveId, runtime⟩ :
      ServiceEvent) ∈ task.log := by
    rw [hlog]
    exact List.mem_append_right _ List.mem_cons_self
  have hget : (⟨.get runtime.pool, .ok object⟩ : ServiceEvent) ∈
      task.log := by
    rw [hlog]
    exact List.mem_append_right _
      (List.mem_cons_of_mem _ List.mem_cons_self)
  have hlookup : s.service.lookup target.address target.slaveId =
      some runtime := htask.events _ hruntime
  have hbuilt := (hwired.pools.built _ _ hlookup).left
  have hmanager := congrArg (fun runtime => runtime.pool.manager) hbuilt
  rw [hwired.config] at hmanager
  exact hmanager ▸ (htask.events _ hget).right.left

theorem calling_made (hs : Reachable d s) {i : Nat} {task : Task}
    (htask : task ∈ s.tasks) {operationTimeout : Duration} {object : Object}
    {request : ModbusRequest}
    {k : CallResult request.Answer -> ServiceProgram TaskOutput}
    (hprogram : task.program =
      perform (.call operationTimeout object request) k) :
    let sent : Transmission :=
      { sender := i, connection := object.connection, request }
    task.kind.Makes d.conveyor sent.target sent.request ∧ sent.Wired d := by
  have hwired := reachable_wired hs
  have htaskWired := hwired.tasks task htask
  have htrace := htaskWired.trace
  rw [hprogram] at htrace
  rcases task_calling htrace with ⟨target, runtime, before, hmakes, _, hlog⟩
  have hlogged : task.log = before ++ (ModbusService.connectionEvents
      target.address target.slaveId runtime (.ok object) ++ []) := by
    rw [List.append_nil]
    exact hlog
  have howns := owned_of_log hwired htaskWired hlogged
  have htarget : target =
      { address := object.connection.addr
        slaveId := object.connection.slaveId } := by
    rw [howns.addr, howns.slaveId]
    rfl
  rw [htarget] at hmakes
  exact ⟨hmakes, howns.slave.trans howns.slaveId.symm,
    howns.operationTimeout⟩

theorem transmits_of_step (hstep : Step d s l s') :
    s.transmits l = [] ∨
      exists i task operationTimeout object request k,
        l = .send i ∧ s.tasks[i]? = some task ∧
        task.program = perform (.call operationTimeout object request) k ∧
        s.transmits l =
          [{ sender := i, connection := object.connection, request }] := by
  cases hstep
  case send htask hprogram hphase =>
    refine Or.inr ⟨_, _, _, _, _, _, rfl, htask, hprogram, ?_⟩
    simp only [State.transmits, htask, hprogram]
  all_goals exact Or.inl rfl

theorem History.made (h : History d s ls sent) :
    forall t, t ∈ sent -> exists kind,
      (ls.filterMap Label.starts)[t.sender]? = some kind ∧
        kind.Makes d.conveyor t.target t.request ∧ t.Wired d := by
  induction h with
  | start =>
      intro t ht
      cases ht
  | step hhistory hstep ih =>
      rename_i s s' l ls sent
      intro t ht
      have hkinds : forall kind,
          (ls.filterMap Label.starts)[t.sender]? = some kind ->
          ((ls ++ [l]).filterMap Label.starts)[t.sender]? = some kind := by
        intro kind hkind
        have hlt := (List.getElem?_eq_some_iff.mp hkind).1
        rw [List.filterMap_append, List.getElem?_append_left hlt]
        exact hkind
      rcases List.mem_append.mp ht with hbefore | hnow
      · rcases ih t hbefore with ⟨kind, hkind, hmakes⟩
        exact ⟨kind, hkinds kind hkind, hmakes⟩
      · rcases transmits_of_step hstep with
          hnone | ⟨i, task, _, object, request, k, _, htask, hprogram, hone⟩
        · rw [hnone] at hnow
          cases hnow
        · rw [hone, List.mem_singleton] at hnow
          subst hnow
          exact ⟨task.kind, hkinds _ (hhistory.kind_of_task htask),
            calling_made hhistory.reachable (List.mem_of_getElem? htask)
              hprogram⟩

end Transmitted

/-!
## No more than its kind makes
-/

section Once

variable {d : Deployment} {s s' : State} {l : Label} {ls : List Label}
  {sent : List Transmission}

theorem transmits_paid (hstep : Step d s l s') (i : Nat) :
    (s.transmits l).countP (fun t => t.sender == i) ≤
      sendTariff.priceOf i l := by
  rcases transmits_of_step hstep with
    hnone | ⟨j, task, _, object, request, k, rfl, _, _, hone⟩
  · rw [hnone]
    exact Nat.zero_le _
  · rw [hone, List.countP_singleton]
    simp [Tariff.priceOf, Tariff.price, Label.task, sendTariff]

theorem transmits_of_starts {kind : TaskKind} (h : l.starts = some kind) :
    s.transmits l = [] := by
  cases l <;> first | rfl | cases h

theorem History.sender_lt (h : History d s ls sent) :
    forall t, t ∈ sent -> t.sender < s.tasks.length := by
  intro t ht
  rcases h.made t ht with ⟨kind, hkind, _⟩
  rw [<- h.kinds] at hkind
  simpa using (List.getElem?_eq_some_iff.mp hkind).1

/-- What a task may still send and what it has sent make up its requests. -/
theorem History.funded (h : History d s ls sent) {i : Nat} {kind : TaskKind}
    (hkind : (ls.filterMap Label.starts)[i]? = some kind) :
    exists n, sendTariff.Funds d.modbus.clampedMaxConnectAttempts
        (fun j => j == i) s n ∧
      n + sent.countP (fun t => t.sender == i) ≤ kind.requests d.conveyor := by
  induction h with
  | start => cases hkind
  | step hhistory hstep ih =>
      rename_i s s' l ls sent
      rw [List.countP_append]
      -- a task that was there before pays for what it sends
      have hpaid : (ls.filterMap Label.starts)[i]? = some kind ->
          exists n, sendTariff.Funds d.modbus.clampedMaxConnectAttempts
              (fun j => j == i) s' n ∧
            n + (sent.countP (fun t => t.sender == i) +
              (s.transmits l).countP (fun t => t.sender == i)) ≤
                kind.requests d.conveyor := by
        intro hbefore
        have hlt : i < s.tasks.length := by
          rw [<- hhistory.kinds] at hbefore
          simpa using (List.getElem?_eq_some_iff.mp hbefore).1
        rcases ih hbefore with ⟨n, hfunds, hle⟩
        rcases (sendTariff.ledger_of d rfl i).step s l s' n
          hhistory.reachable ⟨hlt, hfunds⟩ hstep with ⟨m, hnext, hprice⟩
        have hsent := transmits_paid hstep i
        exact ⟨m, hnext.right, by omega⟩
      cases hstarts : l.starts with
      | none =>
          apply hpaid
          rw [List.filterMap_append] at hkind
          simpa [hstarts] using hkind
      | some started =>
          have hconcat : (ls.filterMap Label.starts ++ [started])[i]? =
              some kind := by
            rw [List.filterMap_append] at hkind
            simpa [hstarts] using hkind
          rcases getElem?_concat_cases hconcat with hold | ⟨hnew, rfl⟩
          · exact hpaid hold
          · have hlength : i = s.tasks.length := by
              rw [hnew, <- hhistory.kinds, List.length_map]
            have hnone : sent.countP (fun t => t.sender == i) = 0 := by
              rw [List.countP_eq_zero]
              intro t ht hsender
              have hlt := hhistory.sender_lt t ht
              rw [beq_iff_eq.mp hsender] at hlt
              omega
            rcases step_starts hstep (task_of_starts hstarts) with
              ⟨kind', hkind', rfl⟩
            rw [hstarts, Option.some.injEq] at hkind'
            subst hkind'
            rw [transmits_of_starts hstarts, hnone, hlength,
              <- sendTariff_budget d.modbus.clampedMaxConnectAttempts]
            exact ⟨_, sendTariff.funds_started rfl _ s d.conveyor kind,
              Nat.le_refl _⟩

end Once

/-!
## Each of them once, in order
-/

def webAsks : WebEffect -> List (ModbusTarget × ModbusRequest)
  | .writeSingleRegister address slaveId registerAddress value =>
      [({ address, slaveId }, .writeSingleRegister registerAddress value)]
  | .readHoldingRegisters address slaveId registerAddress quantity =>
      [({ address, slaveId }, .readHoldingRegisters registerAddress quantity)]
  | .post _ _ => []

def webOrder : Transducer WebEffect Unit (ModbusTarget × ModbusRequest) where
  next _ _ := ()
  out _ e := webAsks e

/-- A call goes to the target that was looked up last. -/
def callOrder : Transducer ServiceEffect (Option ModbusTarget)
    (ModbusTarget × ModbusRequest) where
  next
    | _, .runtime address slaveId => some { address, slaveId }
    | target, _ => target
  out target
    | .call _ _ request => target.toList.map (fun target => (target, request))
    | _ => []

/-- What a task of the kind asks of the devices, in the order it asks. -/
def TaskKind.calls (conveyor : ConveyorConfig) :
    TaskKind -> List (ModbusTarget × ModbusRequest)
  | handler request =>
      (request.plan conveyor).toList.map
        (fun plan => (plan.target, plan.request))
  | round =>
      conveyor.polledChecks.map (fun check => (check.target.modbusTarget,
        .readHoldingRegisters check.registerAddress check.quantity))

section Order

variable {conveyor : ConveyorConfig}

theorem operate_emits {T : Type} (address : String) (slaveId : UInt8)
    (request : ModbusRequest)
    (finish : CallOutcome request.Answer -> Except ModbusError T)
    (q : Option ModbusTarget) :
    Emits callOrder (ModbusService.operate address slaveId request finish) q
      [({ address, slaveId }, request)] := by
  unfold ModbusService.operate ModbusService.connection
  refine ⟨_, List.Sublist.refl _, fun runtime =>
    ⟨_, List.Sublist.refl _, fun reply => ?_⟩⟩
  cases reply with
  | error err => trivial
  | ok object =>
      exact ⟨[], List.Sublist.refl _, fun result =>
        ⟨[], List.Sublist.refl _, fun _ => trivial⟩⟩

theorem serviceOps_emits (e : WebEffect) (q : Unit)
    (q' : Option ModbusTarget) :
    Emits callOrder (serviceOps e) q' (webOrder.out q e) := by
  cases e with
  | writeSingleRegister address slaveId registerAddress value =>
      rw [serviceOps_writeSingleRegister]
      exact operate_emits address slaveId _ _ q'
  | readHoldingRegisters address slaveId registerAddress quantity =>
      rw [serviceOps_readHoldingRegisters]
      exact operate_emits address slaveId _ _ q'
  | post url payload => exact ⟨[], List.Sublist.refl _, fun _ => trivial⟩

theorem notify_emits (check : ConveyorReadCheck) (values : List UInt16)
    (q : Unit) :
    Emits webOrder (notifyCanPutdownWebhook conveyor check values) q [] := by
  unfold notifyCanPutdownWebhook
  split
  · trivial
  · split
    · trivial
    · exact ⟨[], List.Sublist.refl _, fun _ => trivial⟩

theorem pollCheck_emits {check : ConveyorReadCheck}
    (hpolled : check.polled = true) (q : Unit) :
    Emits webOrder (pollCheck conveyor check) q
      [(check.target.modbusTarget,
        .readHoldingRegisters check.registerAddress check.quantity)] := by
  simp only [ConveyorReadCheck.polled, Bool.and_eq_true, decide_eq_true_eq]
    at hpolled
  rcases pollCheck_eq conveyor hpolled.right with ⟨k, hread, hvalues, hfailed⟩
  rw [hread]
  refine ⟨[], List.Sublist.refl _, fun reply => ?_⟩
  cases reply with
  | error err =>
      rw [hfailed]
      trivial
  | ok values =>
      rw [hvalues]
      split
      · exact notify_emits check values _
      · trivial

theorem pollChecks_emits (conveyor : ConveyorConfig)
    (checks : List ConveyorReadCheck)
    (hnotify : forall check, check ∈ checks ->
      check.hookNotify.isSome = true) (q : Unit) :
    Emits webOrder (pollChecks conveyor checks) q
      ((checks.filter ConveyorReadCheck.polled).map (fun check =>
        (check.target.modbusTarget,
          .readHoldingRegisters check.registerAddress check.quantity))) := by
  -- the induction is on the checks that are left in the round
  induction checks generalizing q with
  | nil => trivial
  | cons check checks ih =>
      have hrest := ih (fun other hother =>
        hnotify other (List.mem_cons_of_mem check hother))
      cases hpolled : check.polled with
      | true =>
          rw [List.filter_cons_of_pos hpolled, List.map_cons]
          exact (pollCheck_emits hpolled q).bind (fun _ q' => hrest q')
      | false =>
          rw [List.filter_cons_of_neg (by simp [hpolled]), pollChecks,
            pollCheck_of_not_polled (hnotify check List.mem_cons_self) hpolled]
          exact hrest q

theorem task_emits (conveyor : ConveyorConfig) (kind : TaskKind) :
    Emits callOrder (taskProgram conveyor kind) none (kind.calls conveyor) := by
  cases kind with
  | handler request =>
      cases hplan : request.plan conveyor with
      | none =>
          rcases handler_program_of_no_plan hplan with ⟨message, hprogram⟩
          rw [hprogram]
          trivial
      | some plan =>
          rw [handler_program_of_plan hplan, TaskKind.calls, hplan]
          exact (operate_emits plan.device plan.slaveId plan.request _
            none).bind (m := []) (fun _ _ => trivial)
  | round =>
      have hchecks := pollChecks_emits conveyor _
        (round_checks_notify conveyor) ()
      rw [polledChecks_eq] at hchecks
      refine Emits.interp serviceOps_emits (q := ()) ?_ none
      rw [<- List.append_nil (TaskKind.calls conveyor .round)]
      exact hchecks.bind (fun _ _ => trivial)

end Order

def Transmission.asked (sent : Transmission) : ModbusTarget × ModbusRequest :=
  (sent.target, sent.request)

def Task.asked (task : Task) : List (ModbusTarget × ModbusRequest) :=
  Transducer.outputs callOrder none task.log ++
    match task.phase.calling, task.program with
    | true, .perform e _ =>
        callOrder.out (Transducer.run callOrder none task.log) e
    | _, _ => []

section Asked

variable {d : Deployment} {s s' : State} {l : Label} {ls : List Label}
  {sent : List Transmission} {i : Nat} {task : Task}

theorem asked_of_calling (task : Task) {e : ServiceEffect}
    {k : e.Reply -> ServiceProgram TaskOutput}
    (hprogram : task.program = perform e k)
    (hphase : task.phase.calling = true) :
    task.asked = Transducer.outputs callOrder none task.log ++
      callOrder.out (Transducer.run callOrder none task.log) e := by
  rw [Task.asked, hphase, hprogram]

theorem asked_of_not_calling (task : Task) (hphase : task.phase.calling = false) :
    task.asked = Transducer.outputs callOrder none task.log := by
  rw [Task.asked, hphase, List.append_nil]

theorem asked_sublist {e : ServiceEffect}
    {k : e.Reply -> ServiceProgram TaskOutput}
    (hprogram : task.program = perform e k) :
    task.asked.Sublist (Transducer.outputs callOrder none task.log ++
      callOrder.out (Transducer.run callOrder none task.log) e) := by
  cases hphase : task.phase.calling with
  | true => rw [asked_of_calling task hprogram hphase]
  | false =>
      rw [asked_of_not_calling task hphase]
      exact List.sublist_append_left _ _

theorem asked_resume {e : ServiceEffect} {r : e.Reply}
    {k : e.Reply -> ServiceProgram TaskOutput}
    (hprogram : task.program = perform e k) :
    task.asked.Sublist (task.resume e r k).asked := by
  rw [asked_of_not_calling (task.resume e r k) rfl, Task.resume,
    Transducer.outputs_snoc]
  exact asked_sublist hprogram

theorem asked_enter {phase : Phase} {e : ServiceEffect}
    {k : e.Reply -> ServiceProgram TaskOutput}
    (hprogram : task.program = perform e k)
    (hphase : task.phase.calling = true -> phase.calling = true) :
    task.asked.Sublist (task.enter phase).asked := by
  cases hcalling : phase.calling with
  | true =>
      rw [asked_of_calling (task.enter phase) hprogram hcalling]
      exact asked_sublist hprogram
  | false =>
      have hbefore : task.phase.calling = false := by
        cases hwhere : task.phase.calling with
        | true => rw [hphase hwhere] at hcalling; cases hcalling
        | false => rfl
      rw [asked_of_not_calling (task.enter phase) hcalling,
        asked_of_not_calling task hbefore]
      exact List.Sublist.refl _

theorem asked_calls (hs : Reachable d s) (htask : task ∈ s.tasks) :
    task.asked.Sublist (task.kind.calls d.conveyor) := by
  have htrace := ((reachable_wired hs).tasks task htask).trace
  rcases htrace.emits (task_emits d.conveyor task.kind) with
    ⟨rest, houtputs, hrest⟩
  cases hprogram : task.program with
  | ret output =>
      have hnone : task.asked =
          Transducer.outputs callOrder none task.log := by
        rw [Task.asked, hprogram]
        cases task.phase.calling <;> exact List.append_nil _
      rw [hnone]
      exact (List.sublist_append_left _ rest).trans houtputs
  | perform e k =>
      rw [hprogram] at hrest
      rcases hrest with ⟨after, hout, _⟩
      have hnext := (List.sublist_append_left _ after).trans hout
      exact (asked_sublist hprogram).trans
        (((List.Sublist.refl _).append hnext).trans houtputs)

theorem asked_step (hstep : Step d s l s') (hl : l.task = some i) :
    exists task task', s.tasks[i]? = some task ∧
      s'.tasks = s.tasks.set i task' ∧ task.asked.Sublist task'.asked := by
  rcases step_moves hstep hl with
    ⟨task, task', e, k, htask, hprogram, htasks, hmoved⟩
  refine ⟨task, task', htask, htasks, ?_⟩
  rcases hmoved with ⟨phase, hphase, rfl⟩ | ⟨r, rfl⟩
  · exact asked_enter hprogram hphase
  · exact asked_resume hprogram

theorem asked_send (hs : Reachable d s) (hstep : Step d s (.send i) s') :
    exists task task', s.tasks[i]? = some task ∧
      s'.tasks = s.tasks.set i task' ∧
      task'.asked = task.asked ++
        (s.transmits (.send i)).map Transmission.asked := by
  cases hstep with
  | send htask hprogram hphase =>
      rename_i task operationTimeout object request k
      refine ⟨task, _, htask, rfl, ?_⟩
      have htrace := ((reachable_wired hs).tasks task
        (List.mem_of_getElem? htask)).trace
      rw [hprogram] at htrace
      rcases task_calling htrace with ⟨target, runtime, before, _, _, hlog⟩
      have howns := owned_of_log (reachable_wired hs)
        ((reachable_wired hs).tasks task (List.mem_of_getElem? htask))
        (show task.log = before ++ (ModbusService.connectionEvents
          target.address target.slaveId runtime (.ok object) ++ []) by
            rw [List.append_nil]; exact hlog)
      have hlooked : Transducer.run callOrder none task.log = some target := by
        rw [hlog, Transducer.run_append]
        rfl
      have htarget : target =
          { address := object.connection.addr
            slaveId := object.connection.slaveId } := by
        rw [howns.addr, howns.slaveId]
        rfl
      rw [asked_of_calling (task.enter .inFlight) hprogram rfl,
        asked_of_not_calling task (by rw [hphase]; rfl)]
      simp only [Task.enter, hlooked, State.transmits, htask, hprogram,
        List.map_cons, List.map_nil, Transmission.asked, Transmission.target]
      rw [<- htarget]
      rfl

theorem transmits_sender (hstep : Step d s l s') (hl : l.task = some i) :
    forall t, t ∈ s.transmits l -> t.sender = i := by
  intro t ht
  rcases transmits_of_step hstep with
    hnone | ⟨j, _, _, _, _, _, rfl, _, _, hone⟩
  · rw [hnone] at ht
    cases ht
  · rw [hone, List.mem_singleton] at ht
    rw [ht]
    exact Option.some.inj hl

theorem asked_transmits (hs : Reachable d s) (hstep : Step d s l s')
    (hl : l.task = some i) :
    exists task task', s.tasks[i]? = some task ∧
      s'.tasks = s.tasks.set i task' ∧
      (task.asked ++ (s.transmits l).map Transmission.asked).Sublist
        task'.asked := by
  rcases transmits_of_step hstep with
    hnone | ⟨j, _, _, _, _, _, rfl, _, _, _⟩
  · rw [hnone, List.map_nil]
    rcases asked_step hstep hl with ⟨task, task', htask, htasks, hasked⟩
    refine ⟨task, task', htask, htasks, ?_⟩
    rw [List.append_nil]
    exact hasked
  · cases hl
    rcases asked_send hs hstep with ⟨task, task', htask, htasks, hasked⟩
    refine ⟨task, task', htask, htasks, ?_⟩
    rw [hasked]

/-- Whatever a task has sent, it has asked, in that order. -/
theorem History.asked (h : History d s ls sent) {i : Nat} {task : Task}
    (htask : s.tasks[i]? = some task) :
    ((sent.filter (fun t => t.sender == i)).map Transmission.asked).Sublist
      task.asked := by
  induction h generalizing task with
  | start => cases htask
  | step hhistory hstep ih =>
      rename_i s s' l ls sent
      rw [List.filter_append, List.map_append]
      cases hl : l.task with
      | none =>
          rcases step_starts hstep hl with ⟨kind, hkind, rfl⟩
          rw [transmits_of_starts hkind, List.filter_nil, List.map_nil,
            List.append_nil]
          rcases getElem?_concat_cases htask with hold | ⟨hnew, _⟩
          · exact ih hold
          · have hnone : sent.filter (fun t => t.sender == i) = [] := by
              rw [List.filter_eq_nil_iff]
              intro t ht hsender
              have hlt := hhistory.sender_lt t ht
              rw [beq_iff_eq.mp hsender] at hlt
              omega
            rw [hnone]
            exact List.nil_sublist _
      | some j =>
          have hsender := transmits_sender hstep hl
          rcases asked_transmits hhistory.reachable hstep hl with
            ⟨old, new, hold, htasks, hasked⟩
          rw [htasks, getElem?_set_of_some hold] at htask
          by_cases hij : i = j
          · rw [if_pos hij] at htask
            cases htask
            rw [hij] at ih ⊢
            have hall : (s.transmits l).filter (fun t => t.sender == j) =
                s.transmits l := by
              rw [List.filter_eq_self]
              intro t ht
              exact beq_iff_eq.mpr (hsender t ht)
            rw [hall]
            exact ((ih hold).append (List.Sublist.refl _)).trans hasked
          · rw [if_neg hij] at htask
            have hnone : (s.transmits l).filter (fun t => t.sender == i) =
                [] := by
              rw [List.filter_eq_nil_iff]
              intro t ht hsame
              exact hij ((beq_iff_eq.mp hsame).symm.trans (hsender t ht))
            rw [hnone, List.map_nil, List.append_nil]
            exact ih htask

end Asked

/-- No run puts more requests of a task on the wire than its kind makes, also
when the call fails, times out or the handler is dropped; and they are those of
its plan or of the checks it polls, each sent once at most and in table
order. -/
theorem requests_sent_le (d : Deployment) (s s' : State) (l : Label)
    (ls : List Label) (kind : TaskKind) (hs : Reachable d s)
    (hl : l.starts = some kind) (hrun : (machine d).Run s (l :: ls) s') :
    ls.countP (Label.sends s.tasks.length) ≤ kind.requests d.conveyor ∧
      forall history sent, History d s' history sent ->
        ((sent.filter (fun t => t.sender == s.tasks.length)).map
          Transmission.asked).Sublist (kind.calls d.conveyor) := by
  refine ⟨sends_le d s s' l ls kind hs hl hrun, ?_⟩
  intro history sent hhistory
  rcases started_kept hl hrun with ⟨task, htask, hkind⟩
  rw [<- hkind]
  exact (hhistory.asked htask).trans
    (asked_calls hhistory.reachable (List.mem_of_getElem? htask))

theorem requests_sent_le_line :
    exists s sent, (machine lineDeployment).Run
        (State.initial lineDeployment.modbus) writeLabels s ∧
      History lineDeployment s writeLabels sent ∧
      writeLabels.tail.countP (Label.sends 0) ≤ 1 ∧
      ((sent.filter (fun t => t.sender == 0)).map Transmission.asked).Sublist
        [({ address := "10.0.0.5:502", slaveId := 1 },
          .writeSingleRegister 100 7)] := by
  have hreplay : (replay lineDeployment (State.initial lineDeployment.modbus)
      writeLabels).any (fun _ => true) = true := by
    decide
  rcases exists_of_replay hreplay with ⟨s, hs, _⟩
  rcases exists_history History.start (replay_run hs) with ⟨sent, hhistory⟩
  have hboth := requests_sent_le lineDeployment
    (State.initial lineDeployment.modbus) s
    (.spawn (.write { source := "A1", destination := "B1" })) writeLabels.tail
    (.handler (.write { source := "A1", destination := "B1" }))
    (Transition.System.Reachable.init rfl) rfl (replay_run hs)
  exact ⟨s, sent, replay_run hs, hhistory, hboth.left,
    hboth.right writeLabels sent hhistory⟩

/-!
## No less than was answered
-/

/-- The calls of task `i` that went out, and the one that is out, have been
transmitted. -/
structure Delivered (sent : List Transmission) (i : Nat) (task : Task) :
    Prop where
  logged : forall operationTimeout object request,
    (operationTimeout, object, request) ∈ task.log.filterMap wireRequest ->
      { sender := i, connection := object.connection, request } ∈ sent
  flying : task.phase = .inFlight ->
    forall operationTimeout object request k,
      task.program = perform (.call operationTimeout object request) k ->
        { sender := i, connection := object.connection, request } ∈ sent

section Delivered

variable {sent more : List Transmission} {i : Nat} {task : Task}

theorem Delivered.mono (h : Delivered sent i task) :
    Delivered (sent ++ more) i task where
  logged _ _ _ hmem := List.mem_append_left _ (h.logged _ _ _ hmem)
  flying hphase _ _ _ _ hprogram :=
    List.mem_append_left _ (h.flying hphase _ _ _ _ hprogram)

theorem Delivered.start (conveyor : ConveyorConfig) (kind : TaskKind) :
    Delivered sent i (Task.start conveyor kind) where
  logged _ _ _ hmem := by cases hmem
  flying hphase := by cases hphase

theorem Delivered.enter (h : Delivered sent i task) {phase : Phase}
    (hphase : phase ≠ .inFlight) : Delivered sent i (task.enter phase) where
  logged := h.logged
  flying hflying := absurd hflying hphase

theorem Delivered.resume (h : Delivered sent i task) {e : ServiceEffect}
    {r : e.Reply} {k : e.Reply -> ServiceProgram TaskOutput}
    (hevent : wireRequest ⟨e, r⟩ = none) :
    Delivered sent i (task.resume e r k) where
  logged operationTimeout object request hmem := by
    simp only [Task.resume, List.filterMap_append, List.filterMap_cons,
      hevent, List.filterMap_nil, List.append_nil] at hmem
    exact h.logged operationTimeout object request hmem
  flying hphase := by cases hphase

/-- Completing a call: it went out only if it was in flight. -/
theorem Delivered.called (h : Delivered sent i task)
    {operationTimeout : Duration} {object : Object} {request : ModbusRequest}
    {result : CallResult request.Answer}
    {k : CallResult request.Answer -> ServiceProgram TaskOutput}
    (hprogram : task.program =
      perform (.call operationTimeout object request) k)
    (hsent : result.sent = true -> task.phase = .inFlight) :
    Delivered sent i
      (task.resume (.call operationTimeout object request) result k) where
  logged time found asked hmem := by
    simp only [Task.resume, List.filterMap_append, List.mem_append] at hmem
    rcases hmem with hbefore | hnow
    · exact h.logged time found asked hbefore
    · cases hout : result.sent with
      | false => simp [wireRequest, hout] at hnow
      | true =>
          simp only [wireRequest, hout, if_true, List.filterMap_cons,
            List.filterMap_nil, List.mem_singleton, Prod.mk.injEq] at hnow
          rcases hnow with ⟨rfl, rfl, rfl⟩
          exact h.flying (hsent hout) _ _ _ _ hprogram
  flying hphase := by cases hphase

end Delivered

section Steps

variable {d : Deployment} {s s' t : State} {l : Label} {ls : List Label}
  {sent more : List Transmission} {i : Nat} {task task' : Task}

def AllDelivered (sent : List Transmission) (s : State) : Prop :=
  forall i task, s.tasks[i]? = some task -> Delivered sent i task

theorem AllDelivered.set (h : AllDelivered sent s)
    (htask : s.tasks[i]? = some task) (htasks : t.tasks = s.tasks)
    (hnew : Delivered sent i task -> Delivered (sent ++ more) i task') :
    AllDelivered (sent ++ more) (t.setTask i task') := by
  intro j other hother
  simp only [State.setTask, htasks, getElem?_set_of_some htask] at hother
  split at hother
  · rename_i hj
    cases hother
    rw [hj]
    exact hnew (h i task htask)
  · exact (h j other hother).mono

theorem AllDelivered.enter (h : AllDelivered sent s)
    (htask : s.tasks[i]? = some task) (htasks : t.tasks = s.tasks)
    {phase : Phase} (hphase : phase ≠ .inFlight) :
    AllDelivered (sent ++ more) (t.setTask i (task.enter phase)) :=
  h.set htask htasks (fun htask => (htask.enter hphase).mono)

theorem AllDelivered.resume (h : AllDelivered sent s)
    (htask : s.tasks[i]? = some task) (htasks : t.tasks = s.tasks)
    {e : ServiceEffect} {r : e.Reply}
    {k : e.Reply -> ServiceProgram TaskOutput}
    (hevent : wireRequest ⟨e, r⟩ = none) :
    AllDelivered (sent ++ more) (t.setTask i (task.resume e r k)) :=
  h.set htask htasks (fun htask => (htask.resume hevent).mono)

theorem AllDelivered.called (h : AllDelivered sent s)
    (htask : s.tasks[i]? = some task) (htasks : t.tasks = s.tasks)
    {operationTimeout : Duration} {object : Object} {request : ModbusRequest}
    {result : CallResult request.Answer}
    {k : CallResult request.Answer -> ServiceProgram TaskOutput}
    (hprogram : task.program =
      perform (.call operationTimeout object request) k)
    (hsent : result.sent = true -> task.phase = .inFlight) :
    AllDelivered (sent ++ more) (t.setTask i
      (task.resume (.call operationTimeout object request) result k)) :=
  h.set htask htasks (fun htask => (htask.called hprogram hsent).mono)

theorem AllDelivered.addTask (h : AllDelivered sent s)
    (conveyor : ConveyorConfig) (kind : TaskKind) :
    AllDelivered (sent ++ more) (s.addTask (Task.start conveyor kind)) := by
  intro j other hother
  rcases getElem?_concat_cases hother with hold | ⟨_, rfl⟩
  · exact (h j other hold).mono
  · exact Delivered.start conveyor kind

theorem inFlight_of_isInFlight {phase : Phase}
    (h : phase.isInFlight = true) : phase = .inFlight := by
  cases phase <;> first | rfl | cases h

theorem allDelivered_step (h : AllDelivered sent s) (hstep : Step d s l s') :
    AllDelivered (sent ++ s.transmits l) s' := by
  cases hstep with
  | spawn => exact h.addTask _ _
  | startRound => exact h.addTask _ _
  | runtimeHit htask => exact h.resume htask rfl rfl
  | runtimeMiss htask => exact h.resume htask rfl rfl
  | acquire htask => exact h.enter htask rfl (by simp)
  | popIdle htask => exact h.enter htask rfl (by simp)
  | popEmpty htask => exact h.enter htask rfl (by simp)
  | disconnected htask => exact h.enter htask rfl (by simp)
  | recycleOk htask => exact h.resume htask rfl rfl
  | recycleErr htask => exact h.enter htask rfl (by simp)
  | connected htask => exact h.enter htask rfl (by simp)
  | refused htask => exact h.enter htask rfl (by simp)
  | connectTimeout htask => exact h.enter htask rfl (by simp)
  | slept htask => exact h.enter htask rfl (by simp)
  | createOk htask => exact h.resume htask rfl rfl
  | createErr htask => exact h.resume htask rfl rfl
  | send htask hprogram hphase =>
      refine h.set htask rfl (fun hbefore => ⟨hbefore.mono.logged, ?_⟩)
      -- the request that goes out is the transmission of the step
      intro _ time found asked next hcalling
      cases hprogram.symm.trans hcalling
      simp only [State.transmits, htask, hprogram]
      exact List.mem_append_right _ List.mem_cons_self
  | answer htask hprogram hphase =>
      exact h.called htask rfl hprogram (fun _ => hphase)
  | transportError htask hprogram hphase =>
      exact h.called htask rfl hprogram inFlight_of_isInFlight
  | operationTimeout htask hprogram hphase =>
      exact h.called htask rfl hprogram inFlight_of_isInFlight
  | release htask => exact h.resume htask rfl rfl
  | post htask => exact h.enter htask rfl (by simp)
  | posted htask => exact h.resume htask rfl rfl
  | cancelWaiting htask => exact h.enter htask rfl (by simp)
  | cancelGetting htask => exact h.enter htask rfl (by simp)
  | cancelCall htask => exact h.enter htask rfl (by simp)

theorem History.delivered (h : History d s ls sent) : AllDelivered sent s := by
  induction h with
  | start =>
      intro i task htask
      cases htask
  | step _ hstep ih => exact allDelivered_step ih hstep

end Steps

/-!
## Requests received, sent and answered
-/

/-- The task was started to make the request to the target. -/
def TaskKind.asks (conveyor : ConveyorConfig) (target : ModbusTarget)
    (sent : ModbusRequest) : TaskKind -> Bool
  | handler request =>
      (request.plan conveyor).any (fun plan =>
        plan.target = target && plan.request = sent)
  | round => false

def Label.asks (conveyor : ConveyorConfig) (target : ModbusTarget)
    (sent : ModbusRequest) (l : Label) : Bool :=
  l.starts.any (TaskKind.asks conveyor target sent)

def Task.achieved (conveyor : ConveyorConfig) (target : ModbusTarget)
    (sent : ModbusRequest) (task : Task) : Bool :=
  task.kind.asks conveyor target sent &&
    task.response.any (fun response => response.status = StatusCode.ok)

section Answers

variable {d : Deployment} {s : State} {ls : List Label}
  {sent : List Transmission}

theorem countP_asks (conveyor : ConveyorConfig) (target : ModbusTarget)
    (request : ModbusRequest) (ls : List Label) :
    (ls.filterMap Label.starts).countP
        (TaskKind.asks conveyor target request) =
      ls.countP (Label.asks conveyor target request) := by
  induction ls with
  | nil => rfl
  | cons l ls ih =>
      rw [List.filterMap_cons, List.countP_cons, <- ih, Label.asks]
      cases l.starts with
      | none => simp
      | some kind => simp [List.countP_cons]

theorem asks_of_makes {conveyor : ConveyorConfig} {target : ModbusTarget}
    {registerAddress value : UInt16} {kind : TaskKind}
    (h : kind.Makes conveyor target (.writeSingleRegister registerAddress value)) :
    kind.asks conveyor target (.writeSingleRegister registerAddress value) =
        true ∧ kind.requests conveyor = 1 := by
  cases kind with
  | handler request =>
      rcases h with ⟨plan, hplan, htarget, hrequest⟩
      simp [TaskKind.asks, hplan, htarget, hrequest, TaskKind.requests]
  | round =>
      rcases h with ⟨_, _, _, hread⟩
      cases hread

theorem History.achieved (h : History d s ls sent) {i : Nat} {task : Task}
    (htask : s.tasks[i]? = some task) {target : ModbusTarget}
    {request : ModbusRequest}
    (hachieved : task.achieved d.conveyor target request = true) :
    exists t, t ∈ sent ∧ t.carries target request = true ∧ t.sender = i := by
  have hwired := reachable_wired h.reachable
  have htaskWired := hwired.tasks task (List.mem_of_getElem? htask)
  simp only [Task.achieved, Bool.and_eq_true] at hachieved
  rcases hachieved with ⟨hasks, hresponse⟩
  rcases (Option.any_eq_true _ _).mp hresponse with ⟨response, hreturned, hok⟩
  have htrace := htaskWired.trace
  rw [Task.program_of_response hreturned] at htrace
  cases hkind : task.kind with
  | round =>
      rw [hkind] at hasks
      cases hasks
  | handler received =>
      rw [hkind] at hasks htrace
      rcases (Option.any_eq_true _ _).mp hasks with ⟨plan, hplan, hsame⟩
      simp only [Bool.and_eq_true, decide_eq_true_eq] at hsame hok
      rcases hsame with ⟨rfl, rfl⟩
      rcases handler_returns_of_plan hplan htrace with
        ⟨runtime, err, _, hout⟩ | ⟨runtime, object, result, hlog, hout⟩
      · cases hout
        cases hok
      · have hobject := object_of_log hwired htaskWired hlog
        cases hout
        rcases result_cases plan.device plan.request result.outcome with
          ⟨answer, houtcome, _⟩ | ⟨_, err, hfailed⟩
        · have hsent : result.sent = true :=
            result.answered_sent (by rw [houtcome]; rfl)
          refine ⟨_, (h.delivered i task htask).logged
            object.connection.operationTimeout object plan.request ?_, ?_, rfl⟩
          · rw [hlog, wireRequests_called, hsent]
            exact List.mem_singleton.mpr rfl
          · simp [Transmission.carries, Transmission.target, Plan.target,
              hobject.left, hobject.right.left]
        · rw [hfailed] at hok
          cases hok

/-- Every register write that was acknowledged to a client went out, and none
went out without a request of its own. -/
theorem writes_sent_once (d : Deployment) (s : State) (ls : List Label)
    (sent : List Transmission) (h : History d s ls sent)
    (target : ModbusTarget) (registerAddress value : UInt16) :
    s.tasks.countP (Task.achieved d.conveyor target
        (.writeSingleRegister registerAddress value)) ≤
      sent.countP (Transmission.carries target
        (.writeSingleRegister registerAddress value)) ∧
    sent.countP (Transmission.carries target
        (.writeSingleRegister registerAddress value)) ≤
      ls.countP (Label.asks d.conveyor target
        (.writeSingleRegister registerAddress value)) := by
  constructor
  · refine countP_le_of_pointed Transmission.sender ?_
    intro i task htask hachieved
    exact h.achieved htask hachieved
  · rw [<- countP_asks]
    have hsender : forall t, t ∈ sent ->
        t.carries target (.writeSingleRegister registerAddress value) = true ->
        exists kind, (ls.filterMap Label.starts)[t.sender]? = some kind ∧
          kind.asks d.conveyor target
            (.writeSingleRegister registerAddress value) = true ∧
          kind.requests d.conveyor = 1 := by
      intro t ht hcarries
      simp only [Transmission.carries, Bool.and_eq_true, decide_eq_true_eq]
        at hcarries
      rcases h.made t ht with ⟨kind, hkind, hmakes, _⟩
      rw [hcarries.left, hcarries.right] at hmakes
      exact ⟨kind, hkind, asks_of_makes hmakes⟩
    refine countP_le_of_pointing Transmission.sender ?_ ?_
    · intro t ht hcarries
      rcases hsender t ht hcarries with ⟨kind, hkind, _, hone⟩
      rcases h.funded hkind with ⟨n, _, hle⟩
      omega
    · intro t ht hcarries
      rcases hsender t ht hcarries with ⟨kind, hkind, hasks, _⟩
      exact ⟨kind, hkind, hasks⟩

end Answers

theorem writes_sent_once_line :
    exists s sent, History lineDeployment s writeLabels sent ∧
      sent.countP (Transmission.carries
        { address := "10.0.0.5:502", slaveId := 1 }
        (.writeSingleRegister 100 7)) = 1 := by
  have hreplay : (replay lineDeployment (State.initial lineDeployment.modbus)
      writeLabels).any (fun s => s.tasks.countP (Task.achieved lineConveyor
        { address := "10.0.0.5:502", slaveId := 1 }
        (.writeSingleRegister 100 7)) == 1) = true := by
    decide
  rcases exists_of_replay hreplay with ⟨s, hs, hachieved⟩
  rcases exists_history History.start (replay_run hs) with ⟨sent, hhistory⟩
  have hsent := writes_sent_once lineDeployment s writeLabels sent hhistory
    { address := "10.0.0.5:502", slaveId := 1 } 100 7
  rw [show lineDeployment.conveyor = lineConveyor from rfl,
    beq_iff_eq.mp hachieved] at hsent
  have hasked : writeLabels.countP (Label.asks lineConveyor
      { address := "10.0.0.5:502", slaveId := 1 }
      (.writeSingleRegister 100 7)) = 1 := by
    decide
  exact ⟨s, sent, hhistory, by omega⟩

/-!
## The order behind a write
-/

/-- The table entry by which the request of a client orders the write. -/
inductive Ordered (conveyor : ConveyorConfig) (written : Transmission) :
    ConveyorRequest -> Prop where
  | sendRoute {request : ConveyorWriteRequest} {route : ConveyorSendRoute} :
      conveyor.findSendRoute request.source request.destination = some route ->
      route.function = .writeSingleRegister ->
      written.target = { address := route.device, slaveId := route.slaveId } ->
      written.request =
        .writeSingleRegister route.registerAddress route.value ->
      Ordered conveyor written (.write request)
  | needPutdown {request : ConveyorNeedPutdownRequest}
      {route : ConveyorNeedPutdownRoute} :
      conveyor.findNeedPutdownRoute request.location = some route ->
      route.function = .writeSingleRegister ->
      written.target = { address := route.device, slaveId := route.slaveId } ->
      written.request =
        .writeSingleRegister route.registerAddress route.value ->
      Ordered conveyor written (.needPutdown request)

theorem ordered_of_plan {conveyor : ConveyorConfig} {written : Transmission}
    {request : ConveyorRequest} {plan : Plan} {registerAddress value : UInt16}
    (hplan : request.plan conveyor = some plan)
    (htarget : plan.target = written.target)
    (hrequest : plan.request = written.request)
    (hwrite : written.request = .writeSingleRegister registerAddress value) :
    Ordered conveyor written request := by
  rw [hwrite] at hrequest
  unfold ConveyorRequest.plan at hplan
  cases request with
  | write request =>
      simp only at hplan
      split at hplan
      · rename_i route hfind
        split at hplan
        · rename_i hfunction
          cases hplan
          exact Ordered.sendRoute hfind hfunction htarget.symm
            (hwrite.trans hrequest.symm)
        · cases hplan
      · cases hplan
  | needPutdown request =>
      simp only at hplan
      split at hplan
      · rename_i route hfind
        split at hplan
        · rename_i hfunction
          cases hplan
          exact Ordered.needPutdown hfind hfunction htarget.symm
            (hwrite.trans hrequest.symm)
        · cases hplan
      · cases hplan
  | writeSuccess query =>
      simp only at hplan
      split at hplan
      · split at hplan
        · cases hplan
          cases hrequest
        · cases hplan
      · cases hplan
  | canPutdown query =>
      simp only at hplan
      split at hplan
      · split at hplan
        · cases hplan
          cases hrequest
        · cases hplan
      · cases hplan

/-- No register is written but by the handler of a client's request, to the
device, the register and with the value of the entry that matches it: not by a
check, and not by the monitor. -/
theorem writes_ordered (d : Deployment) (s : State) (ls : List Label)
    (sent : List Transmission) (h : History d s ls sent)
    (written : Transmission) (hsent : written ∈ sent)
    (registerAddress value : UInt16)
    (hwrite : written.request = .writeSingleRegister registerAddress value) :
    exists request,
      (ls.filterMap Label.starts)[written.sender]? = some (.handler request) ∧
        Ordered d.conveyor written request ∧ written.Wired d := by
  rcases h.made written hsent with ⟨kind, hkind, hmakes, hwired⟩
  cases kind with
  | handler request =>
      rcases hmakes with ⟨plan, hplan, htarget, hrequest⟩
      exact ⟨request, hkind, ordered_of_plan hplan htarget hrequest hwrite,
        hwired⟩
  | round =>
      rcases hmakes with ⟨_, _, _, hread⟩
      rw [hwrite] at hread
      cases hread

theorem writes_ordered_line :
    exists s sent written, History lineDeployment s writeLabels sent ∧
      written ∈ sent ∧
      Ordered lineConveyor written
        (.write { source := "A1", destination := "B1" }) := by
  have hreplay : (replay lineDeployment (State.initial lineDeployment.modbus)
      writeLabels).any (fun s => s.tasks[0]?.any (Task.achieved lineConveyor
        { address := "10.0.0.5:502", slaveId := 1 }
        (.writeSingleRegister 100 7))) = true := by
    decide
  rcases exists_of_replay hreplay with ⟨s, hs, hgood⟩
  rcases (Option.any_eq_true _ _).mp hgood with ⟨task, htask, hachieved⟩
  rcases exists_history History.start (replay_run hs) with ⟨sent, hhistory⟩
  rcases History.achieved (d := lineDeployment) hhistory htask hachieved with
    ⟨written, hsent, hcarries, hsender⟩
  simp only [Transmission.carries, Bool.and_eq_true, decide_eq_true_eq]
    at hcarries
  rcases writes_ordered lineDeployment s writeLabels sent hhistory written
    hsent 100 7 hcarries.right with ⟨request, hstarted, hordered, _⟩
  rw [hsender] at hstarted
  cases hstarted
  exact ⟨s, sent, written, hhistory, hsent, hordered⟩

end ConveyorModbus
