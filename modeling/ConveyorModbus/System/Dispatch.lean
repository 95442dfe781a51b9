import ConveyorModbus.System.Plan
import ConveyorModbus.System.Replay
import ConveyorModbus.System.Wiring

/-!
# Dispatch of a conveyor request

From the request of a client to the wire and back: a handler that has run to
completion in any interleaving has made the call of its plan on a connection of
the plan's device, or none, and its response tells which.
-/

namespace ConveyorModbus

open Effects Program

/-!
## Requests on the wire
-/

/-- The deadline, the connection and the request of a call whose request went
out. -/
def wireRequest : ServiceEvent -> Option (Duration × Object × ModbusRequest)
  | ⟨.call operationTimeout object request, result⟩ =>
      if result.sent then some (operationTimeout, object, request) else none
  | _ => none

/-- The request was sent and answered, not by an exception, before the
deadline of its call. -/
def Replied (l : List ServiceEvent) (request : ModbusRequest)
    (answer : request.Answer) : Prop :=
  exists (operationTimeout : Duration) (object : Object)
    (result : CallResult request.Answer),
    (⟨.call operationTimeout object request, result⟩ : ServiceEvent) ∈ l ∧
      result.sent = true ∧ result.outcome = .ok (.ok (.ok answer))

/-- The target was asked for a connection, and with one the call of the plan
was made on it. -/
def Attempted (plan : Plan) (l : List ServiceEvent) : Prop :=
  (exists runtime err,
    l = ModbusService.connectionEvents plan.device plan.slaveId runtime
      (.error err)) ∨
  (exists runtime object result,
    l = ModbusService.connectionEvents plan.device plan.slaveId runtime
        (.ok object) ++
      ModbusService.callEvents object plan.request result)

structure Dispatched (d : Deployment) (request : ConveyorRequest)
    (l : List ServiceEvent) (response : Response) : Prop where
  one : (l.filterMap wireRequest).length ≤ 1
  wire : forall operationTimeout object sent,
    (operationTimeout, object, sent) ∈ l.filterMap wireRequest ->
      exists plan, request.plan d.conveyor = some plan ∧
        sent = plan.request ∧
        object.connection.addr = plan.device ∧
        object.connection.slaveId = plan.slaveId ∧
        object.connection.context.slave = plan.slaveId ∧
        operationTimeout = d.modbus.operationTimeout
  attempted : forall plan, request.plan d.conveyor = some plan ->
    Attempted plan l
  rejected : response.status = StatusCode.badRequest <->
    request.plan d.conveyor = none
  rejected_idle : request.plan d.conveyor = none -> l = []
  succeeded : response.status = StatusCode.ok <->
    exists plan answer, request.plan d.conveyor = some plan ∧
      Replied l plan.request answer
  answer : forall plan answer, request.plan d.conveyor = some plan ->
    Replied l plan.request answer ->
      response = Response.json StatusCode.ok
        { success := true, data := some (plan.data answer), message := "ok" }
  failed : response.status ≠ StatusCode.badRequest ->
    response.status ≠ StatusCode.ok -> response.status = StatusCode.badGateway
  envelope : response.status ≠ StatusCode.ok ->
    exists message, response = Response.json response.status
      { success := false, data := none, message }

/-!
## The three ways a handler ends
-/

section Ends

variable {d : Deployment} {request : ConveyorRequest}

theorem dispatched_rejected (hplan : request.plan d.conveyor = none)
    (message : String) :
    Dispatched d request []
      (ApiError.intoResponse
        { status := StatusCode.badRequest, message }) where
  one := Nat.zero_le 1
  wire := by
    intro operationTimeout object sent hmem
    cases hmem
  attempted := by
    intro plan hsome
    rw [hplan] at hsome
    cases hsome
  rejected := ⟨fun _ => hplan, fun _ => rfl⟩
  rejected_idle := fun _ => rfl
  succeeded := by
    constructor
    · intro h
      cases h
    · intro h
      rcases h with ⟨plan, answer, hsome, _⟩
      rw [hplan] at hsome
      cases hsome
  answer := by
    intro plan answer hsome
    rw [hplan] at hsome
    cases hsome
  failed := fun h => absurd rfl h
  envelope := fun _ => ⟨message, rfl⟩

variable {plan : Plan} (hplan : request.plan d.conveyor = some plan)

include hplan in
theorem dispatched_failed {l : List ServiceEvent} (err : ModbusError)
    (hone : (l.filterMap wireRequest).length ≤ 1)
    (hwire : forall operationTimeout object sent,
      (operationTimeout, object, sent) ∈ l.filterMap wireRequest ->
        sent = plan.request ∧
        object.connection.addr = plan.device ∧
        object.connection.slaveId = plan.slaveId ∧
        object.connection.context.slave = plan.slaveId ∧
        operationTimeout = d.modbus.operationTimeout)
    (hattempted : Attempted plan l)
    (hunanswered : forall answer, ¬ Replied l plan.request answer) :
    Dispatched d request l (plan.respond (.error err)) where
  one := hone
  wire operationTimeout object sent hmem :=
    ⟨plan, hplan, hwire operationTimeout object sent hmem⟩
  attempted := by
    intro other hother
    rw [hplan, Option.some.injEq] at hother
    subst hother
    exact hattempted
  rejected := by
    constructor
    · intro h
      cases h
    · intro hnone
      rw [hplan] at hnone
      cases hnone
  rejected_idle := by
    intro hnone
    rw [hplan] at hnone
    cases hnone
  succeeded := by
    constructor
    · intro h
      cases h
    · intro h
      rcases h with ⟨other, answer, hother, hreplied⟩
      rw [hplan, Option.some.injEq] at hother
      subst hother
      exact absurd hreplied (hunanswered answer)
  answer := by
    intro other answer hother hreplied
    rw [hplan, Option.some.injEq] at hother
    subst hother
    exact absurd hreplied (hunanswered answer)
  failed := fun _ _ => rfl
  envelope := fun _ => ⟨err.toString, rfl⟩

include hplan in
theorem dispatched_answered {l : List ServiceEvent}
    (answer : plan.request.Answer)
    (hone : (l.filterMap wireRequest).length ≤ 1)
    (hwire : forall operationTimeout object sent,
      (operationTimeout, object, sent) ∈ l.filterMap wireRequest ->
        sent = plan.request ∧
        object.connection.addr = plan.device ∧
        object.connection.slaveId = plan.slaveId ∧
        object.connection.context.slave = plan.slaveId ∧
        operationTimeout = d.modbus.operationTimeout)
    (hattempted : Attempted plan l)
    (hreplied : Replied l plan.request answer)
    (honly : forall other, Replied l plan.request other -> other = answer) :
    Dispatched d request l (plan.respond (.ok answer)) where
  one := hone
  wire operationTimeout object sent hmem :=
    ⟨plan, hplan, hwire operationTimeout object sent hmem⟩
  attempted := by
    intro other hother
    rw [hplan, Option.some.injEq] at hother
    subst hother
    exact hattempted
  rejected := by
    constructor
    · intro h
      cases h
    · intro hnone
      rw [hplan] at hnone
      cases hnone
  rejected_idle := by
    intro hnone
    rw [hplan] at hnone
    cases hnone
  succeeded := ⟨fun _ => ⟨plan, answer, hplan, hreplied⟩, fun _ => rfl⟩
  answer := by
    intro other otherAnswer hother hotherReplied
    rw [hplan, Option.some.injEq] at hother
    subst hother
    rw [honly otherAnswer hotherReplied]
    rfl
  failed := fun _ h => absurd rfl h
  envelope := fun h => absurd rfl h

end Ends

theorem result_cases (address : String) (request : ModbusRequest)
    (outcome : CallOutcome request.Answer) :
    (exists answer, outcome = .ok (.ok (.ok answer)) ∧
      request.result address outcome = .ok answer) ∨
    ((forall answer, outcome ≠ .ok (.ok (.ok answer))) ∧
      exists err, request.result address outcome = .error err) := by
  cases request with
  | writeSingleRegister registerAddress value =>
      rcases outcome with _ | _ | _ | _
      · exact Or.inr ⟨by simp, _, rfl⟩
      · exact Or.inr ⟨by simp, _, rfl⟩
      · exact Or.inr ⟨by simp, _, rfl⟩
      · exact Or.inl ⟨_, rfl, rfl⟩
  | readHoldingRegisters registerAddress quantity =>
      rcases outcome with _ | _ | _ | _
      · exact Or.inr ⟨by simp, _, rfl⟩
      · exact Or.inr ⟨by simp, _, rfl⟩
      · exact Or.inr ⟨by simp, _, rfl⟩
      · exact Or.inl ⟨_, rfl, rfl⟩

/-!
## The events of a handler
-/

section Events

variable {address : String} {slaveId : UInt8} {runtime : ModbusRuntime}
  {object : Object} {request : ModbusRequest}
  {result : CallResult request.Answer}

theorem wireRequests_connection (reply : Except PoolError Object) :
    (ModbusService.connectionEvents address slaveId runtime reply).filterMap
      wireRequest = [] := rfl

theorem wireRequests_called :
    (ModbusService.connectionEvents address slaveId runtime (.ok object) ++
        ModbusService.callEvents object request result).filterMap wireRequest =
      if result.sent then
        [(object.connection.operationTimeout, object, request)]
      else
        [] := by
  rw [List.filterMap_append, wireRequests_connection]
  cases hsent : result.sent <;>
    simp [ModbusService.callEvents, wireRequest, hsent]

theorem not_replied_connection (reply : Except PoolError Object)
    (answer : request.Answer) :
    ¬ Replied (ModbusService.connectionEvents address slaveId runtime reply)
      request answer := by
  intro h
  rcases h with ⟨operationTimeout, object, result, hmem, _⟩
  simp [ModbusService.connectionEvents] at hmem

theorem replied_called_iff (answer : request.Answer) :
    Replied (ModbusService.connectionEvents address slaveId runtime
        (.ok object) ++ ModbusService.callEvents object request result)
        request answer <->
      result.outcome = .ok (.ok (.ok answer)) := by
  constructor
  · intro h
    rcases h with ⟨operationTimeout, found, foundResult, hmem, _, houtcome⟩
    simp only [ModbusService.connectionEvents, ModbusService.callEvents,
      List.cons_append, List.nil_append, List.mem_cons, List.not_mem_nil,
      or_false] at hmem
    rcases hmem with hmem | hmem | hmem | hmem
    · cases hmem
    · cases hmem
    · cases hmem
      exact houtcome
    · cases hmem
  · intro houtcome
    refine ⟨object.connection.operationTimeout, object, result, ?_, ?_,
      houtcome⟩
    · exact List.mem_append_right _ List.mem_cons_self
    · exact result.answered_sent (by rw [houtcome]; rfl)

end Events

/-!
## The connection of the call
-/

section Connection

variable {d : Deployment} {s : State} {task : Task}

theorem object_of_log (hwired : Wired d s) (htask : TaskWired d s task)
    {address : String} {slaveId : UInt8} {runtime : ModbusRuntime}
    {object : Object} {called : List ServiceEvent}
    (hlog : task.log =
      ModbusService.connectionEvents address slaveId runtime (.ok object) ++
        called) :
    object.connection.addr = address ∧
      object.connection.slaveId = slaveId ∧
      object.connection.context.slave = slaveId ∧
      object.connection.operationTimeout = d.modbus.operationTimeout := by
  have hruntime : (⟨.runtime address slaveId, runtime⟩ : ServiceEvent) ∈
      task.log := by
    rw [hlog]
    exact List.mem_cons_self
  have hget : (⟨.get runtime.pool, .ok object⟩ : ServiceEvent) ∈
      task.log := by
    rw [hlog]
    exact List.mem_cons_of_mem _ List.mem_cons_self
  have hlookup : s.service.lookup address slaveId = some runtime :=
    htask.events _ hruntime
  have hbuilt := (hwired.pools.built _ _ hlookup).left
  rw [hwired.config] at hbuilt
  have howns : runtime.pool.manager.Owns object.connection :=
    (htask.events _ hget).right.left
  have hmanager : runtime.pool.manager =
      (buildModbusPool address slaveId d.modbus runtime.pool.id).manager :=
    congrArg (fun runtime => runtime.pool.manager) hbuilt
  rw [hmanager] at howns
  exact ⟨howns.addr, howns.slaveId, howns.slave, howns.operationTimeout⟩

theorem refuses_of_log (hwired : Wired d s) (htask : TaskWired d s task)
    {address : String} {slaveId : UInt8} {runtime : ModbusRuntime}
    {err : PoolError}
    (hlog : task.log =
      ModbusService.connectionEvents address slaveId runtime (.error err)) :
    runtime.pool.manager.addr = address ∧
      runtime.pool.manager.Refuses SocketAddr.fromStr err.cause := by
  have hruntime : (⟨.runtime address slaveId, runtime⟩ : ServiceEvent) ∈
      task.log := by
    rw [hlog]
    exact List.mem_cons_self
  have hget : (⟨.get runtime.pool, .error err⟩ : ServiceEvent) ∈
      task.log := by
    rw [hlog]
    exact List.mem_cons_of_mem _ List.mem_cons_self
  have hlookup : s.service.lookup address slaveId = some runtime :=
    htask.events _ hruntime
  refine ⟨?_, htask.events _ hget⟩
  rw [(hwired.pools.built _ _ hlookup).left]
  rfl

end Connection

/-- Every handler that runs to completion has dispatched its request. -/
theorem handler_dispatched {d : Deployment} {s : State} {task : Task}
    {request : ConveyorRequest} {output : TaskOutput} (hs : Reachable d s)
    (htask : task ∈ s.tasks) (hkind : task.kind = .handler request)
    (hreturned : task.program = ret output) :
    exists response, output = .response response ∧
      Dispatched d request task.log response := by
  have hwired := reachable_wired hs
  have htaskWired := hwired.tasks task htask
  have htrace := htaskWired.trace
  rw [hkind, hreturned] at htrace
  cases hplan : request.plan d.conveyor with
  | none =>
      rcases handler_returns_of_no_plan hplan htrace with ⟨hlog, message, rfl⟩
      rw [hlog]
      exact ⟨_, rfl, dispatched_rejected hplan message⟩
  | some plan =>
      rcases handler_returns_of_plan hplan htrace with
        ⟨runtime, err, hlog, rfl⟩ | ⟨runtime, object, result, hlog, rfl⟩
      · rw [hlog]
        refine ⟨_, rfl, dispatched_failed hplan _ (Nat.zero_le 1) ?_
          (Or.inl ⟨runtime, err, rfl⟩) (not_replied_connection _)⟩
        intro operationTimeout object sent hmem
        cases hmem
      · have hobject := object_of_log hwired htaskWired hlog
        have hone : (task.log.filterMap wireRequest).length ≤ 1 := by
          rw [hlog, wireRequests_called]
          split <;> simp
        have hwire : forall operationTimeout found sent,
            (operationTimeout, found, sent) ∈ task.log.filterMap wireRequest ->
              sent = plan.request ∧
              found.connection.addr = plan.device ∧
              found.connection.slaveId = plan.slaveId ∧
              found.connection.context.slave = plan.slaveId ∧
              operationTimeout = d.modbus.operationTimeout := by
          intro operationTimeout found sent hmem
          rw [hlog, wireRequests_called] at hmem
          split at hmem
          · rcases List.mem_singleton.mp hmem with ⟨rfl, rfl, rfl⟩
            exact ⟨rfl, hobject.left, hobject.right.left,
              hobject.right.right.left, hobject.right.right.right⟩
          · cases hmem
        have hattempted : Attempted plan task.log :=
          Or.inr ⟨runtime, object, result, hlog⟩
        rcases result_cases plan.device plan.request result.outcome with
          ⟨answer, houtcome, hresult⟩ | ⟨hnever, err, hresult⟩
        · rw [hresult]
          refine ⟨_, rfl, dispatched_answered hplan answer hone hwire hattempted
            ?_ ?_⟩
          · rw [hlog]
            exact (replied_called_iff answer).mpr houtcome
          · intro other hother
            rw [hlog, replied_called_iff, houtcome] at hother
            cases hother
            rfl
        · rw [hresult]
          refine ⟨_, rfl, dispatched_failed hplan err hone hwire hattempted
            ?_⟩
          intro answer hreplied
          rw [hlog, replied_called_iff] at hreplied
          exact hnever answer hreplied

theorem handler_dispatched_write :
    exists s task response, Reachable lineDeployment s ∧ task ∈ s.tasks ∧
      response.status = StatusCode.ok ∧
      Dispatched lineDeployment
        (.write { source := "A1", destination := "B1" }) task.log response := by
  have hreplay : (replay lineDeployment (State.initial lineDeployment.modbus)
      ([.spawn (.write { source := "A1", destination := "B1" })] ++
        connectLabels 0 ++ [.send 0, .answer 0 .written, .release 0])).any
      (fun s => s.tasks[0]?.any (fun task =>
        task.kind = .handler
          (.write { source := "A1", destination := "B1" }) &&
        task.response.any (fun response =>
          response.status == StatusCode.ok))) = true := by
    decide
  rcases exists_of_replay hreplay with ⟨s, hs, hgood⟩
  rcases (Option.any_eq_true _ _).mp hgood with ⟨task, htask, hdone⟩
  rw [Bool.and_eq_true, decide_eq_true_eq] at hdone
  rcases (Option.any_eq_true _ _).mp hdone.right with
    ⟨response, hresponse, hstatus⟩
  have hmem := List.mem_of_getElem? htask
  rcases handler_dispatched (replay_reachable hs) hmem hdone.left
    (Task.program_of_response hresponse) with ⟨found, hfound, hdispatched⟩
  cases hfound
  exact ⟨s, task, response, replay_reachable hs, hmem,
    beq_iff_eq.mp hstatus, hdispatched⟩

end ConveyorModbus
