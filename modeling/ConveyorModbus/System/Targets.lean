import Mathlib.Data.List.Dedup
import ConveyorModbus.Library.Counting
import ConveyorModbus.System.Plan
import ConveyorModbus.System.Replay
import ConveyorModbus.System.Wiring
import ConveyorModbus.Web.Round

/-!
# Targets of the runtime cache

The cache has one runtime for each target a task has looked up.  A handler
looks up the target of its plan and a round those of the polled entries, so
requests cannot make the cache grow beyond the configured targets.
-/

namespace ConveyorModbus

open Effects Program Counting

/-!
## Lookups in the logs
-/

def lookupTarget : ServiceEvent -> Option ModbusTarget
  | ⟨.runtime address slaveId, _⟩ => some { address, slaveId }
  | _ => none

def Task.lookups (task : Task) : List ModbusTarget :=
  task.log.filterMap lookupTarget

theorem lookups_resume (task : Task) (e : ServiceEffect) (r : e.Reply)
    (k : e.Reply -> ServiceProgram TaskOutput) :
    (task.resume e r k).lookups =
      task.lookups ++ (lookupTarget ⟨e, r⟩).toList := by
  simp only [Task.lookups, Task.resume, List.filterMap_append]
  cases h : lookupTarget ⟨e, r⟩ <;> simp [h]

def KeysLogged (s : State) : Prop :=
  forall target, target ∈ s.service.runtimes.keys <->
    exists task, task ∈ s.tasks ∧ target ∈ task.lookups

section Steps

variable {s t : State} {i : Nat} {task task' : Task}

theorem keysLogged_same (h : KeysLogged s) (htask : s.tasks[i]? = some task)
    (hservice : t.service = s.service) (htasks : t.tasks = s.tasks)
    (hlookups : task'.lookups = task.lookups) :
    KeysLogged (t.setTask i task') := by
  intro target
  show target ∈ t.service.runtimes.keys <->
    exists other, other ∈ t.tasks.set i task' ∧ target ∈ other.lookups
  rw [hservice, htasks, exists_mem_set htask (fun hold => hlookups ▸ hold),
    h target, hlookups]
  constructor
  · exact Or.inl
  · intro h
    rcases h with hbefore | hold
    · exact hbefore
    · exact ⟨task, List.mem_of_getElem? htask, hold⟩

theorem keysLogged_resume (h : KeysLogged s) (htask : s.tasks[i]? = some task)
    (hservice : t.service = s.service) (htasks : t.tasks = s.tasks)
    {e : ServiceEffect} {r : e.Reply}
    {k : e.Reply -> ServiceProgram TaskOutput}
    (hevent : lookupTarget ⟨e, r⟩ = none) :
    KeysLogged (t.setTask i (task.resume e r k)) := by
  apply keysLogged_same h htask hservice htasks
  rw [lookups_resume, hevent]
  exact List.append_nil _

theorem keysLogged_lookup (h : KeysLogged s) (htask : s.tasks[i]? = some task)
    {found : ModbusTarget}
    (hkeys : forall target, target ∈ t.service.runtimes.keys <->
      target ∈ s.service.runtimes.keys ∨ target = found)
    (htasks : t.tasks = s.tasks)
    (hlookups : task'.lookups = task.lookups ++ [found]) :
    KeysLogged (t.setTask i task') := by
  intro target
  show target ∈ t.service.runtimes.keys <->
    exists other, other ∈ t.tasks.set i task' ∧ target ∈ other.lookups
  rw [hkeys, htasks, exists_mem_set htask (fun hold => by
    rw [hlookups]
    exact List.mem_append_left _ hold), h target, hlookups, List.mem_append,
    List.mem_singleton]
  constructor
  · intro h
    rcases h with hbefore | hfound
    · exact Or.inl hbefore
    · exact Or.inr (Or.inr hfound)
  · intro h
    rcases h with hbefore | hold | hfound
    · exact Or.inl hbefore
    · exact Or.inl ⟨task, List.mem_of_getElem? htask, hold⟩
    · exact Or.inr hfound

theorem keysLogged_addTask (h : KeysLogged s) (conveyor : ConveyorConfig)
    (kind : TaskKind) : KeysLogged (s.addTask (Task.start conveyor kind)) := by
  intro target
  show target ∈ s.service.runtimes.keys <->
    exists other, other ∈ s.tasks ++ [Task.start conveyor kind] ∧
      target ∈ other.lookups
  rw [h target]
  constructor
  · intro h
    rcases h with ⟨task, htask, hlookup⟩
    exact ⟨task, List.mem_append_left _ htask, hlookup⟩
  · intro h
    rcases h with ⟨task, htask, hlookup⟩
    rw [List.mem_append, List.mem_singleton] at htask
    rcases htask with hbefore | rfl
    · exact ⟨task, hbefore, hlookup⟩
    · cases hlookup

end Steps

theorem mem_keys_of_lookup {service : ModbusService} {address : String}
    {slaveId : UInt8} {runtime : ModbusRuntime}
    (h : service.lookup address slaveId = some runtime) :
    { address, slaveId } ∈ service.runtimes.keys := by
  by_contra hnot
  have hnone := Runtimes.get_eq_none_iff.mpr hnot
  rw [show service.runtimes.get { address, slaveId } = some runtime from h]
    at hnone
  cases hnone

theorem keysLogged_step {d : Deployment} {s s' : State} {l : Label}
    (h : KeysLogged s) (hstep : Step d s l s') : KeysLogged s' := by
  cases hstep with
  | spawn => exact keysLogged_addTask h _ _
  | startRound => exact keysLogged_addTask h _ _
  | runtimeHit htask hprogram hphase hlookup =>
      refine keysLogged_lookup h htask ?_ rfl (lookups_resume _ _ _ _)
      intro target
      constructor
      · exact Or.inl
      · intro h
        rcases h with hbefore | rfl
        · exact hbefore
        · exact mem_keys_of_lookup hlookup
  | runtimeMiss htask hprogram hphase hlookup hinsert =>
      rw [ModbusService.entryOrInsert_of_none hlookup, Prod.mk.injEq] at hinsert
      rcases hinsert with ⟨rfl, rfl⟩
      refine keysLogged_lookup h htask ?_ rfl (lookups_resume _ _ _ _)
      intro target
      exact Runtimes.mem_keys_insert hlookup
  | acquire htask => exact keysLogged_same h htask rfl rfl rfl
  | popIdle htask => exact keysLogged_same h htask rfl rfl rfl
  | popEmpty htask => exact keysLogged_same h htask rfl rfl rfl
  | disconnected htask => exact keysLogged_same h htask rfl rfl rfl
  | recycleOk htask => exact keysLogged_resume h htask rfl rfl rfl
  | recycleErr htask => exact keysLogged_same h htask rfl rfl rfl
  | connected htask => exact keysLogged_same h htask rfl rfl rfl
  | refused htask => exact keysLogged_same h htask rfl rfl rfl
  | connectTimeout htask => exact keysLogged_same h htask rfl rfl rfl
  | slept htask => exact keysLogged_same h htask rfl rfl rfl
  | createOk htask => exact keysLogged_resume h htask rfl rfl rfl
  | createErr htask => exact keysLogged_resume h htask rfl rfl rfl
  | send htask => exact keysLogged_same h htask rfl rfl rfl
  | answer htask => exact keysLogged_resume h htask rfl rfl rfl
  | transportError htask => exact keysLogged_resume h htask rfl rfl rfl
  | operationTimeout htask => exact keysLogged_resume h htask rfl rfl rfl
  | release htask => exact keysLogged_resume h htask rfl rfl rfl
  | post htask => exact keysLogged_same h htask rfl rfl rfl
  | posted htask => exact keysLogged_resume h htask rfl rfl rfl
  | cancelWaiting htask => exact keysLogged_same h htask rfl rfl rfl
  | cancelGetting htask => exact keysLogged_same h htask rfl rfl rfl
  | cancelCall htask => exact keysLogged_same h htask rfl rfl rfl

theorem reachable_keysLogged {d : Deployment} {s : State} (h : Reachable d s) :
    KeysLogged s := by
  apply h.invariant
  · rintro s rfl target
    constructor
    · intro hkey
      cases hkey
    · intro h
      rcases h with ⟨task, htask, _⟩
      cases htask
  · intro s l s' _ hlogged hstep
    exact keysLogged_step hlogged hstep

/-!
## Targets of the configuration
-/

def ReadTarget.modbusTarget (target : ReadTarget) : ModbusTarget where
  address := target.device
  slaveId := target.slaveId

def Plan.target (plan : Plan) : ModbusTarget where
  address := plan.device
  slaveId := plan.slaveId

namespace ConveyorConfig

def configuredTargets (conveyor : ConveyorConfig) : List ModbusTarget :=
  conveyor.sendRoutes.map
      (fun route => { address := route.device, slaveId := route.slaveId }) ++
    conveyor.needPutdownRoutes.map
      (fun route => { address := route.device, slaveId := route.slaveId }) ++
    conveyor.sendSuccessChecks.map
      (fun check => { address := check.device, slaveId := check.slaveId }) ++
    conveyor.canPutdownChecks.map
      (fun check => { address := check.device, slaveId := check.slaveId })

def polledTargets (conveyor : ConveyorConfig) : List ModbusTarget :=
  conveyor.polledChecks.map (fun check => check.target.modbusTarget)

theorem polledTargets_subset (conveyor : ConveyorConfig) :
    conveyor.polledTargets ⊆ conveyor.configuredTargets := by
  intro target htarget
  rcases List.mem_map.mp htarget with ⟨check, hcheck, rfl⟩
  have hmem := (List.mem_filter.mp hcheck).left
  exact List.mem_append_right _ (List.mem_map_of_mem
    (f := fun check : ConveyorReadCheck =>
      ({ address := check.device, slaveId := check.slaveId } : ModbusTarget))
    hmem)

end ConveyorConfig

theorem plan_target_configured {conveyor : ConveyorConfig}
    {request : ConveyorRequest} {plan : Plan}
    (h : request.plan conveyor = some plan) :
    plan.target ∈ conveyor.configuredTargets := by
  unfold ConveyorConfig.configuredTargets
  simp only [List.mem_append, List.mem_map]
  unfold ConveyorRequest.plan at h
  cases request with
  | write request =>
      simp only at h
      split at h
      · rename_i route hfind
        split at h
        · cases h
          exact Or.inl (Or.inl (Or.inl
            ⟨route, List.mem_of_find?_eq_some hfind, rfl⟩))
        · cases h
      · cases h
  | needPutdown request =>
      simp only at h
      split at h
      · rename_i route hfind
        split at h
        · cases h
          exact Or.inl (Or.inl (Or.inr
            ⟨route, List.mem_of_find?_eq_some hfind, rfl⟩))
        · cases h
      · cases h
  | writeSuccess query =>
      simp only at h
      split at h
      · rename_i check hfind
        split at h
        · cases h
          exact Or.inl (Or.inr
            ⟨check, List.mem_of_find?_eq_some hfind, rfl⟩)
        · cases h
      · cases h
  | canPutdown query =>
      simp only at h
      split at h
      · rename_i check hfind
        split at h
        · cases h
          exact Or.inr ⟨check, List.mem_of_find?_eq_some hfind, rfl⟩
        · cases h
      · cases h

/-!
## What a program can look up
-/

def LooksUpIn (targets : List ModbusTarget) : ServiceEffect -> Prop
  | .runtime address slaveId => { address, slaveId } ∈ targets
  | _ => True

def PollsIn (targets : List ModbusTarget) : WebEffect -> Prop
  | .readHoldingRegisters address slaveId _ _ =>
      { address, slaveId } ∈ targets
  | .writeSingleRegister _ _ _ _ => False
  | .post _ _ => True

section Performs

variable {targets : List ModbusTarget}

theorem operate_performs {T : Type} {address : String} {slaveId : UInt8}
    (htarget : { address, slaveId } ∈ targets) (request : ModbusRequest)
    (finish : CallOutcome request.Answer -> Except ModbusError T) :
    Performs (LooksUpIn targets)
      (ModbusService.operate address slaveId request finish) := by
  unfold ModbusService.operate ModbusService.connection
  refine ⟨htarget, fun runtime => ⟨trivial, fun reply => ?_⟩⟩
  cases reply with
  | error err => trivial
  | ok object =>
      exact ⟨trivial, fun result => ⟨trivial, fun _ => trivial⟩⟩

theorem serviceOps_performs (e : WebEffect) (h : PollsIn targets e) :
    Performs (LooksUpIn targets) (serviceOps e) := by
  cases e with
  | writeSingleRegister address slaveId registerAddress value => exact h.elim
  | readHoldingRegisters address slaveId registerAddress quantity =>
      rw [serviceOps_readHoldingRegisters]
      exact operate_performs h _ _
  | post url payload => exact ⟨trivial, fun _ => trivial⟩

theorem notify_performs (conveyor : ConveyorConfig) (check : ConveyorReadCheck)
    (values : List UInt16) :
    Performs (PollsIn targets)
      (notifyCanPutdownWebhook conveyor check values) := by
  unfold notifyCanPutdownWebhook
  cases check.hookNotify with
  | none => trivial
  | some name =>
      simp only
      cases conveyor.findWebhook name with
      | none => trivial
      | some webhook => exact ⟨trivial, fun _ => trivial⟩

theorem pollCheck_performs (conveyor : ConveyorConfig)
    {check : ConveyorReadCheck}
    (htarget : check.function = .readHoldingRegisters ->
      check.target.modbusTarget ∈ targets) :
    Performs (PollsIn targets) (pollCheck conveyor check) := by
  unfold pollCheck executeCanPutdownCheck
  cases hfunction : check.function with
  | readHoldingRegisters =>
      refine ⟨htarget hfunction, fun outcome => ?_⟩
      cases outcome with
      | error err => trivial
      | ok values =>
          show Performs _ (if shouldTriggerCanPutdownWebhook check values then
            notifyCanPutdownWebhook conveyor check values else pure ())
          split
          · exact notify_performs conveyor check values
          · trivial
  | readCoils => trivial
  | readDiscreteInputs => trivial
  | readInputRegisters => trivial

theorem pollChecks_performs (conveyor : ConveyorConfig)
    {checks : List ConveyorReadCheck}
    (htargets : forall check, check ∈ checks ->
      check.function = .readHoldingRegisters ->
        check.target.modbusTarget ∈ targets) :
    Performs (PollsIn targets) (pollChecks conveyor checks) := by
  induction checks with
  | nil => trivial
  | cons check checks ih =>
      apply Performs.bind
      · exact pollCheck_performs conveyor (htargets check List.mem_cons_self)
      · intro _
        exact ih (fun other hother =>
          htargets other (List.mem_cons_of_mem check hother))

theorem round_performs (conveyor : ConveyorConfig) :
    Performs (PollsIn conveyor.polledTargets)
      (canPutdownWebhookRound conveyor) := by
  apply pollChecks_performs
  intro check hcheck hfunction
  rw [List.mem_filter] at hcheck
  refine List.mem_map_of_mem (f := fun check : ConveyorReadCheck =>
    check.target.modbusTarget) (List.mem_filter.mpr ⟨hcheck.left, ?_⟩)
  simp [ConveyorReadCheck.polled, hcheck.right, hfunction]

end Performs

theorem task_performs (conveyor : ConveyorConfig) (kind : TaskKind) :
    Performs (LooksUpIn conveyor.configuredTargets)
      (taskProgram conveyor kind) := by
  cases kind with
  | handler request =>
      cases hplan : request.plan conveyor with
      | none =>
          rcases handler_program_of_no_plan hplan with ⟨message, hprogram⟩
          rw [hprogram]
          trivial
      | some plan =>
          rw [handler_program_of_plan hplan]
          exact (operate_performs (plan_target_configured hplan) _ _).bind
            (fun _ => trivial)
  | round =>
      have hround : Performs (PollsIn conveyor.configuredTargets)
          (webProgram conveyor .round) := by
        apply Performs.bind
        · refine (round_performs conveyor).mono ?_
          intro e he
          cases e with
          | writeSingleRegister address slaveId registerAddress value =>
              exact he.elim
          | readHoldingRegisters address slaveId registerAddress quantity =>
              exact conveyor.polledTargets_subset he
          | post url payload => trivial
        · intro _
          trivial
      exact performs_interp serviceOps_performs hround

/-!
## What a complete task has looked up
-/

theorem lookups_operate {T : Type} {address : String} {slaveId : UInt8}
    {request : ModbusRequest}
    {finish : CallOutcome request.Answer -> Except ModbusError T}
    {out : Except ModbusError T} {l : List ServiceEvent}
    (h : Returns (ModbusService.operate address slaveId request finish) l out) :
    l.filterMap lookupTarget = [{ address, slaveId }] := by
  rcases ModbusService.operate_returns_iff.mp h with
    ⟨runtime, err, rfl, _⟩ | ⟨runtime, object, result, rfl, _⟩
  · rfl
  · rfl

theorem lookups_expands {targets : List ModbusTarget} {events : List WebEvent}
    {l : List ServiceEvent} (h : Expands serviceOps events l)
    (hpolls : forall event, event ∈ events -> PollsIn targets event.1) :
    l.filterMap lookupTarget =
      (events.filterMap readTarget).map ReadTarget.modbusTarget := by
  induction h with
  | nil => rfl
  | cons hfirst hrest ih =>
      rename_i e r events first rest
      have hlater := ih (fun event hevent =>
        hpolls event (List.mem_cons_of_mem _ hevent))
      have hhead := hpolls ⟨e, r⟩ List.mem_cons_self
      rw [List.filterMap_append, hlater]
      cases e with
      | writeSingleRegister address slaveId registerAddress value =>
          exact hhead.elim
      | readHoldingRegisters address slaveId registerAddress quantity =>
          rw [serviceOps_readHoldingRegisters] at hfirst
          rw [lookups_operate hfirst]
          rfl
      | post url payload =>
          rcases returns_perform_iff.mp hfirst with ⟨outcome, tail, rfl, htail⟩
          rw [(returns_ret_iff.mp htail).left]
          rfl

theorem lookups_round {conveyor : ConveyorConfig} {l : List ServiceEvent}
    {output : TaskOutput} (h : Returns (taskProgram conveyor .round) l output) :
    l.filterMap lookupTarget = conveyor.polledTargets := by
  rcases returns_interp_iff.mp h with ⟨events, hevents, hexpands⟩
  rcases returns_bind_iff.mp hevents with
    ⟨first, _, rest, rfl, hround, hrest⟩
  rw [(returns_ret_iff.mp hrest).left, List.append_nil] at hexpands
  have hpolls := (hround.performs (round_performs conveyor)).left
  rw [lookups_expands hexpands hpolls, (round_returns hround).left]
  simp only [ConveyorConfig.polledTargets, List.map_map]
  rfl

theorem lookups_handler {conveyor : ConveyorConfig} {request : ConveyorRequest}
    {l : List ServiceEvent} {output : TaskOutput}
    (h : Returns (taskProgram conveyor (.handler request)) l output) :
    l.filterMap lookupTarget =
      ((request.plan conveyor).map Plan.target).toList := by
  cases hplan : request.plan conveyor with
  | none =>
      rw [(handler_returns_of_no_plan hplan h).left]
      rfl
  | some plan =>
      rcases handler_returns_of_plan hplan h with
        ⟨runtime, err, rfl, _⟩ | ⟨runtime, object, result, rfl, _⟩
      · rfl
      · rfl

/-!
## The keys of the cache
-/

def AllFinished (s : State) : Prop :=
  forall task, task ∈ s.tasks -> task.Finished

section Keys

variable {d : Deployment} {s : State}

def calledFor (conveyor : ConveyorConfig) : TaskKind -> List ModbusTarget
  | .handler request => ((request.plan conveyor).map Plan.target).toList
  | .round => conveyor.polledTargets

theorem lookups_finished (hs : Reachable d s) {task : Task}
    (htask : task ∈ s.tasks) (hfinished : task.Finished) :
    task.lookups = calledFor d.conveyor task.kind := by
  have htrace := ((reachable_wired hs).tasks task htask).trace
  rcases hfinished with ⟨output, hreturned⟩
  rw [hreturned] at htrace
  cases hkind : task.kind with
  | handler request =>
      rw [hkind] at htrace
      exact lookups_handler htrace
  | round =>
      rw [hkind] at htrace
      exact lookups_round htrace

/-- When all tasks are finished, the keys are what their kinds call for. -/
theorem mem_keys_iff (hs : Reachable d s) (hfinished : AllFinished s)
    (target : ModbusTarget) :
    target ∈ s.service.runtimes.keys <->
      exists task, task ∈ s.tasks ∧
        target ∈ calledFor d.conveyor task.kind := by
  rw [reachable_keysLogged hs target]
  constructor
  · intro h
    rcases h with ⟨task, htask, hlookup⟩
    rw [lookups_finished hs htask (hfinished task htask)] at hlookup
    exact ⟨task, htask, hlookup⟩
  · intro h
    rcases h with ⟨task, htask, hcalled⟩
    rw [<- lookups_finished hs htask (hfinished task htask)] at hcalled
    exact ⟨task, htask, hcalled⟩

theorem keys_configured (hs : Reachable d s) {target : ModbusTarget}
    (h : target ∈ s.service.runtimes.keys) :
    target ∈ d.conveyor.configuredTargets := by
  rcases (reachable_keysLogged hs target).mp h with ⟨task, htask, hlookup⟩
  have htrace := ((reachable_wired hs).tasks task htask).trace
  have hallowed := (htrace.performs (task_performs d.conveyor task.kind)).left
  rcases List.mem_filterMap.mp hlookup with ⟨⟨e, r⟩, hevent, htarget⟩
  have heffect := hallowed _ hevent
  cases e with
  | runtime address slaveId =>
      cases htarget
      exact heffect
  | get pool => cases htarget
  | call operationTimeout object request => cases htarget
  | release object => cases htarget
  | post url payload => cases htarget

theorem configuredDeviceCount_le (hs : Reachable d s) :
    s.service.configuredDeviceCount ≤
      d.conveyor.configuredTargets.dedup.length := by
  have hsubset : s.service.runtimes.keys ⊆
      d.conveyor.configuredTargets.dedup := by
    intro target htarget
    exact List.mem_dedup.mpr (keys_configured hs htarget)
  have hle := (List.subperm_of_subset s.service.runtimes.keys_nodup
    hsubset).length_le
  have hlength : s.service.runtimes.keys.length =
      s.service.configuredDeviceCount := List.length_map _
  rw [<- hlength]
  exact hle

end Keys

/-- Once all requests and rounds are over, the keys of the cache are the
targets of the plans, and of the polled entries if a round ran.  So they depend
on nothing but which requests and rounds there were; and at any time they are
configured targets. -/
theorem cache_targets {d : Deployment} {s : State} (hs : Reachable d s) :
    (AllFinished s -> forall target, target ∈ s.service.runtimes.keys <->
      (exists task request plan, task ∈ s.tasks ∧
        task.kind = .handler request ∧
        request.plan d.conveyor = some plan ∧ target = plan.target) ∨
      ((exists task, task ∈ s.tasks ∧ task.kind = .round) ∧
        target ∈ d.conveyor.polledTargets)) ∧
    (forall s', Reachable d s' -> AllFinished s -> AllFinished s' ->
      (forall kind, (exists task, task ∈ s.tasks ∧ task.kind = kind) <->
        exists task, task ∈ s'.tasks ∧ task.kind = kind) ->
      forall target, target ∈ s.service.runtimes.keys <->
        target ∈ s'.service.runtimes.keys) ∧
    (forall target, target ∈ s.service.runtimes.keys ->
      target ∈ d.conveyor.configuredTargets) ∧
    s.service.configuredDeviceCount ≤
      d.conveyor.configuredTargets.dedup.length := by
  refine ⟨?_, ?_, fun target => keys_configured hs, configuredDeviceCount_le hs⟩
  · intro hfinished target
    rw [mem_keys_iff hs hfinished]
    constructor
    · intro h
      rcases h with ⟨task, htask, hcalled⟩
      cases hkind : task.kind with
      | handler request =>
          rw [hkind] at hcalled
          simp only [calledFor, Option.mem_toList, Option.map_eq_some_iff]
            at hcalled
          rcases hcalled with ⟨plan, hplan, rfl⟩
          exact Or.inl ⟨task, request, plan, htask, hkind, hplan, rfl⟩
      | round =>
          rw [hkind] at hcalled
          exact Or.inr ⟨⟨task, htask, hkind⟩, hcalled⟩
    · rintro (⟨task, request, plan, htask, hkind, hplan, rfl⟩ |
        ⟨⟨task, htask, hkind⟩, hpolled⟩)
      · refine ⟨task, htask, ?_⟩
        rw [hkind]
        simp [calledFor, hplan]
      · refine ⟨task, htask, ?_⟩
        rw [hkind]
        exact hpolled
  · intro s' hs' hfinished hfinished' hkinds target
    rw [mem_keys_iff hs hfinished, mem_keys_iff hs' hfinished']
    constructor
    · intro h
      rcases h with ⟨task, htask, hcalled⟩
      rcases (hkinds task.kind).mp ⟨task, htask, rfl⟩ with ⟨other, hother, hsame⟩
      exact ⟨other, hother, by rw [hsame]; exact hcalled⟩
    · intro h
      rcases h with ⟨task, htask, hcalled⟩
      rcases (hkinds task.kind).mpr ⟨task, htask, rfl⟩ with
        ⟨other, hother, hsame⟩
      exact ⟨other, hother, by rw [hsame]; exact hcalled⟩

/-- A write, a request for an unknown location and a round on a device that
does not answer. -/
theorem cache_targets_line :
    exists s, Reachable lineDeployment s ∧ s.tasks.length = 3 ∧
      (forall target, target ∈ s.service.runtimes.keys <->
        target = { address := "10.0.0.5:502", slaveId := 1 }) := by
  have hreplay : (replay lineDeployment (State.initial lineDeployment.modbus)
      ([.spawn (.write { source := "A1", destination := "B1" })] ++
        connectLabels 0 ++ [.send 0, .answer 0 .written, .release 0,
        .spawn (.needPutdown { location := "B2" }), .startRound] ++
        reuseLabels 2 ++ [.send 2, .operationTimeout 2, .release 2])).any
      (fun s => s.tasks.length == 3 && s.tasks.all Task.isOver &&
        s.tasks.any (fun task => task.kind.isRound)) = true := by
    decide
  rcases exists_of_replay hreplay with ⟨s, hs, hgood⟩
  simp only [Bool.and_eq_true, beq_iff_eq, List.all_eq_true, List.any_eq_true]
    at hgood
  rcases hgood with ⟨⟨hthree, hover⟩, round, hround, hkind⟩
  have hfinished : AllFinished s := fun task htask =>
    Task.finished_of_isOver (hover task htask)
  rcases cache_targets (replay_reachable hs) with
    ⟨hkeys, _, hconfigured, _⟩
  refine ⟨s, replay_reachable hs, hthree, fun target => ⟨?_, ?_⟩⟩
  · intro hkey
    have hmem : target ∈ lineConveyor.configuredTargets :=
      hconfigured target hkey
    simpa [lineConveyor, ConveyorConfig.configuredTargets] using hmem
  · intro h
    rcases h with rfl
    rw [hkeys hfinished]
    exact Or.inr ⟨⟨round, hround, TaskKind.round_of_isRound hkind⟩, by decide⟩

end ConveyorModbus
