import ConveyorModbus.Config.Load
import ConveyorModbus.System.Dispatch
import ConveyorModbus.System.Permits

/-!
# Live entries of the tables

An entry is live when a request with its key is served by it: one request on
the wire with the data of the entry, and never an answer that blames the
configuration.  An entry is live exactly when it is the first with its key, its
function is the supported one and its device is a socket address.  A file with
other entries loads all the same.
-/

namespace ConveyorModbus

open Effects Program

namespace ModbusRequest

def registerAddress : ModbusRequest -> UInt16
  | writeSingleRegister registerAddress _ => registerAddress
  | readHoldingRegisters registerAddress _ => registerAddress

/-- The value of a write, the quantity of a read. -/
def operand : ModbusRequest -> UInt16
  | writeSingleRegister _ value => value
  | readHoldingRegisters _ quantity => quantity

end ModbusRequest

/-!
## Entries
-/

/-- The element stands in the table, and none like it before it. -/
def Earliest {A : Type} (alike : A -> Bool) (table : List A) (a : A) : Prop :=
  exists before after, table = before ++ a :: after ∧
    forall b, b ∈ before -> alike b = false

theorem find?_eq_some_iff_earliest {A : Type} {alike : A -> Bool}
    {table : List A} {a : A} (halike : alike a = true) :
    table.find? alike = some a <-> Earliest alike table a := by
  rw [List.find?_eq_some_iff_append]
  constructor
  · intro h
    rcases h with ⟨_, before, after, htable, hbefore⟩
    exact ⟨before, after, htable, fun b hb => by simpa using hbefore b hb⟩
  · intro h
    rcases h with ⟨before, after, htable, hbefore⟩
    exact ⟨halike, before, after, htable, fun b hb => by simp [hbefore b hb]⟩

inductive Entry where
  | sendRoute (route : ConveyorSendRoute)
  | needPutdownRoute (route : ConveyorNeedPutdownRoute)
  | sendSuccessCheck (check : ConveyorSendSuccessCheck)
  | canPutdownCheck (check : ConveyorReadCheck)
  deriving DecidableEq

namespace Entry

def Listed (conveyor : ConveyorConfig) : Entry -> Prop
  | sendRoute route => route ∈ conveyor.sendRoutes
  | needPutdownRoute route => route ∈ conveyor.needPutdownRoutes
  | sendSuccessCheck check => check ∈ conveyor.sendSuccessChecks
  | canPutdownCheck check => check ∈ conveyor.canPutdownChecks

def request : Entry -> ConveyorRequest
  | sendRoute route =>
      .write { source := route.source, destination := route.destination }
  | needPutdownRoute route => .needPutdown { location := route.location }
  | sendSuccessCheck check => .writeSuccess { source := check.source }
  | canPutdownCheck check => .canPutdown { location := check.location }

def resolve (conveyor : ConveyorConfig) : ConveyorRequest -> Option Entry
  | .write request =>
      (conveyor.findSendRoute request.source request.destination).map sendRoute
  | .needPutdown request =>
      (conveyor.findNeedPutdownRoute request.location).map needPutdownRoute
  | .writeSuccess query =>
      (conveyor.findSendSuccessCheck query.source).map sendSuccessCheck
  | .canPutdown query =>
      (conveyor.findCanPutdownCheck query.location).map canPutdownCheck

def device : Entry -> String
  | sendRoute route => route.device
  | needPutdownRoute route => route.device
  | sendSuccessCheck check => check.device
  | canPutdownCheck check => check.device

def slaveId : Entry -> UInt8
  | sendRoute route => route.slaveId
  | needPutdownRoute route => route.slaveId
  | sendSuccessCheck check => check.slaveId
  | canPutdownCheck check => check.slaveId

def functionCode : Entry -> String
  | sendRoute route => route.function.asStr
  | needPutdownRoute route => route.function.asStr
  | sendSuccessCheck check => check.function.asStr
  | canPutdownCheck check => check.function.asStr

def registerAddress : Entry -> UInt16
  | sendRoute route => route.registerAddress
  | needPutdownRoute route => route.registerAddress
  | sendSuccessCheck check => check.registerAddress
  | canPutdownCheck check => check.registerAddress

def operand : Entry -> UInt16
  | sendRoute route => route.value
  | needPutdownRoute route => route.value
  | sendSuccessCheck check => check.quantity
  | canPutdownCheck check => check.quantity

/-- The function is the one the endpoint executes. -/
def Supported : Entry -> Prop
  | sendRoute route => route.function = .writeSingleRegister
  | needPutdownRoute route => route.function = .writeSingleRegister
  | sendSuccessCheck check => check.function = .readHoldingRegisters
  | canPutdownCheck check => check.function = .readHoldingRegisters

def First (conveyor : ConveyorConfig) : Entry -> Prop
  | sendRoute route =>
      Earliest (fun other => other.source = route.source &&
        other.destination = route.destination) conveyor.sendRoutes route
  | needPutdownRoute route =>
      Earliest (fun other => other.location = route.location)
        conveyor.needPutdownRoutes route
  | sendSuccessCheck check =>
      Earliest (fun other => other.source = check.source)
        conveyor.sendSuccessChecks check
  | canPutdownCheck check =>
      Earliest (fun other => other.location = check.location)
        conveyor.canPutdownChecks check

theorem resolve_iff_first {conveyor : ConveyorConfig} {entry : Entry} :
    resolve conveyor entry.request = some entry <-> entry.First conveyor := by
  cases entry with
  | sendRoute route =>
      refine Iff.trans ?_ (find?_eq_some_iff_earliest (by simp))
      simp [resolve, request, ConveyorConfig.findSendRoute]
  | needPutdownRoute route =>
      refine Iff.trans ?_ (find?_eq_some_iff_earliest (by simp))
      simp [resolve, request, ConveyorConfig.findNeedPutdownRoute]
  | sendSuccessCheck check =>
      refine Iff.trans ?_ (find?_eq_some_iff_earliest (by simp))
      simp [resolve, request, ConveyorConfig.findSendSuccessCheck]
  | canPutdownCheck check =>
      refine Iff.trans ?_ (find?_eq_some_iff_earliest (by simp))
      simp [resolve, request, ConveyorConfig.findCanPutdownCheck]

end Entry

/-!
## The plan of an entry
-/

structure Entry.Planned (entry : Entry) (plan : Plan) : Prop where
  device : plan.device = entry.device
  slaveId : plan.slaveId = entry.slaveId
  functionCode : plan.request.functionCode = entry.functionCode
  registerAddress : plan.request.registerAddress = entry.registerAddress
  operand : plan.request.operand = entry.operand

/-- The lookup of an entry leads to its own plan, or to none if its function is
unsupported. -/
theorem Entry.plan_of_resolved {conveyor : ConveyorConfig} {entry : Entry}
    (hresolved : Entry.resolve conveyor entry.request = some entry) :
    (entry.Supported ∧ exists plan,
      entry.request.plan conveyor = some plan ∧ entry.Planned plan) ∨
    (¬ entry.Supported ∧ entry.request.plan conveyor = none) := by
  cases entry with
  | sendRoute route =>
      rcases Option.map_eq_some_iff.mp hresolved with ⟨found, hfind, heq⟩
      cases heq
      unfold ConveyorConfig.findSendRoute at hfind
      simp only [Entry.request, ConveyorRequest.plan, hfind, Entry.Supported]
      by_cases hfunction : route.function = .writeSingleRegister
      · simp only [hfunction, if_true]
        refine Or.inl ⟨trivial, _, rfl, rfl, rfl, ?_, rfl, rfl⟩
        exact (congrArg ConveyorWriteFunction.asStr hfunction).symm
      · simp only [hfunction, if_false]
        exact Or.inr ⟨not_false, trivial⟩
  | needPutdownRoute route =>
      rcases Option.map_eq_some_iff.mp hresolved with ⟨found, hfind, heq⟩
      cases heq
      unfold ConveyorConfig.findNeedPutdownRoute at hfind
      simp only [Entry.request, ConveyorRequest.plan, hfind, Entry.Supported]
      by_cases hfunction : route.function = .writeSingleRegister
      · simp only [hfunction, if_true]
        refine Or.inl ⟨trivial, _, rfl, rfl, rfl, ?_, rfl, rfl⟩
        exact (congrArg ConveyorWriteFunction.asStr hfunction).symm
      · simp only [hfunction, if_false]
        exact Or.inr ⟨not_false, trivial⟩
  | sendSuccessCheck check =>
      rcases Option.map_eq_some_iff.mp hresolved with ⟨found, hfind, heq⟩
      cases heq
      unfold ConveyorConfig.findSendSuccessCheck at hfind
      simp only [Entry.request, ConveyorRequest.plan, hfind, Entry.Supported]
      by_cases hfunction : check.function = .readHoldingRegisters
      · simp only [hfunction, if_true]
        refine Or.inl ⟨trivial, _, rfl, rfl, rfl, ?_, rfl, rfl⟩
        exact (congrArg ConveyorReadFunction.asStr hfunction).symm
      · simp only [hfunction, if_false]
        exact Or.inr ⟨not_false, trivial⟩
  | canPutdownCheck check =>
      rcases Option.map_eq_some_iff.mp hresolved with ⟨found, hfind, heq⟩
      cases heq
      unfold ConveyorConfig.findCanPutdownCheck at hfind
      simp only [Entry.request, ConveyorRequest.plan, hfind, Entry.Supported]
      by_cases hfunction : check.function = .readHoldingRegisters
      · simp only [hfunction, if_true]
        refine Or.inl ⟨trivial, _, rfl, rfl, rfl, ?_, rfl, rfl⟩
        exact (congrArg ConveyorReadFunction.asStr hfunction).symm
      · simp only [hfunction, if_false]
        exact Or.inr ⟨not_false, trivial⟩

/-!
## Serving an entry
-/

/-- The device connected, when it was asked to, and replied to every call. -/
def DeviceResponsive (l : List ServiceEvent) : Prop :=
  (forall pool err, (⟨.get pool, .error err⟩ : ServiceEvent) ∈ l ->
    forall addr message, err.cause ≠ .connectFailed addr message) ∧
  (forall operationTimeout object request result,
    (⟨.call operationTimeout object request, result⟩ : ServiceEvent) ∈ l ->
      result.outcome.answered = true)

def Entry.Carried (entry : Entry) (l : List ServiceEvent) : Prop :=
  exists operationTimeout object sent,
    l.filterMap wireRequest = [(operationTimeout, object, sent)] ∧
      object.connection.addr = entry.device ∧
      object.connection.slaveId = entry.slaveId ∧
      object.connection.context.slave = entry.slaveId ∧
      sent.functionCode = entry.functionCode ∧
      sent.registerAddress = entry.registerAddress ∧
      sent.operand = entry.operand

/-- The request is not blamed on the configuration: no 400, neither unknown nor
unsupported, and no connection error. -/
def Accepted (response : Response) : Prop :=
  response.status ≠ StatusCode.badRequest ∧
    forall address text,
      response ≠ (ApiError.ofModbusError
        (.connectionPool address text)).intoResponse

/-- Requests with the key of the entry are served by it. -/
structure Entry.Live (d : Deployment) (entry : Entry) : Prop where
  resolved : Entry.resolve d.conveyor entry.request = some entry
  served : forall s, Reachable d s ->
    exists ls s' task response,
      (machine d).Run s (.spawn entry.request :: ls) s' ∧
      s'.tasks[s.tasks.length]? = some task ∧
      task.kind = .handler entry.request ∧
      task.program = ret (.response response) ∧
      response.status = StatusCode.ok ∧ DeviceResponsive task.log
  carried : forall s task output, Reachable d s -> task ∈ s.tasks ->
    task.kind = .handler entry.request -> task.program = ret output ->
      DeviceResponsive task.log -> entry.Carried task.log
  accepted : forall s task response, Reachable d s -> task ∈ s.tasks ->
    task.kind = .handler entry.request ->
      task.program = ret (.response response) ->
        DeviceResponsive task.log -> Accepted response

/-!
## Answered calls are accepted
-/

theorem head_append {text : String} {c : Char} (h : text.toList.head? = some c)
    (rest : String) : (text ++ rest).toList.head? = some c := by
  rw [String.toList_append, List.head?_append, h]
  rfl

theorem connectionPool_head (address text : String) :
    (ModbusError.connectionPool address text).toString.toList.head? =
      some 'f' := by
  unfold ModbusError.toString
  repeat apply head_append
  rfl

theorem accepted_of_message {err : ModbusError}
    (h : err.toString.toList.head? = some 'm') :
    Accepted (ApiError.ofModbusError err).intoResponse := by
  constructor
  · intro hstatus
    cases hstatus
  · intro address text heq
    have hmessage : err.toString =
        (ModbusError.connectionPool address text).toString := by
      injection heq with _ _ hbody
      injection hbody with henvelope
      injection henvelope
    rw [hmessage, connectionPool_head] at h
    cases h

theorem accepted_ok (data : Option ResponseData) (message : String) :
    Accepted
      (Response.json StatusCode.ok { success := true, data, message }) := by
  constructor
  · intro hstatus
    cases hstatus
  · intro address text heq
    cases heq

theorem accepted_of_answered (plan : Plan)
    {outcome : CallOutcome plan.request.Answer}
    (hanswered : outcome.answered = true) :
    Accepted (plan.respond (plan.request.result plan.device outcome)) := by
  rcases plan with ⟨device, slaveId, request, data⟩
  cases request with
  | writeSingleRegister registerAddress value =>
      rcases outcome with _ | _ | exception | _
      · cases hanswered
      · cases hanswered
      · apply accepted_of_message
        unfold ModbusError.toString
        repeat apply head_append
        rfl
      · exact accepted_ok _ _
  | readHoldingRegisters registerAddress quantity =>
      rcases outcome with _ | _ | exception | _
      · cases hanswered
      · cases hanswered
      · apply accepted_of_message
        unfold ModbusError.toString
        repeat apply head_append
        rfl
      · exact accepted_ok _ _

/-!
## The three conditions are enough
-/

section Live

variable {d : Deployment} {entry : Entry}

/-- A completed handler of a planned entry whose device was responsive has made
its call and got a reply. -/
theorem called_of_responsive {plan : Plan}
    (hplan : entry.request.plan d.conveyor = some plan)
    (hparse : (SocketAddr.fromStr plan.device).isSome) {s : State} {task : Task}
    {output : TaskOutput} (hs : Reachable d s) (htask : task ∈ s.tasks)
    (hkind : task.kind = .handler entry.request)
    (hreturned : task.program = ret output)
    (hresponsive : DeviceResponsive task.log) :
    exists runtime object result,
      task.log =
        ModbusService.connectionEvents plan.device plan.slaveId runtime
            (.ok object) ++
          ModbusService.callEvents object plan.request result ∧
      output = .response (plan.respond
        (plan.request.result plan.device result.outcome)) ∧
      result.outcome.answered = true := by
  have hwired := reachable_wired hs
  have htaskWired := hwired.tasks task htask
  have htrace := htaskWired.trace
  rw [hkind, hreturned] at htrace
  rcases handler_returns_of_plan hplan htrace with
    ⟨runtime, err, hlog, _⟩ | ⟨runtime, object, result, hlog, houtput⟩
  · exfalso
    rcases refuses_of_log hwired htaskWired hlog with
      ⟨haddr, ⟨hnone, _⟩ | ⟨_, message, hcause⟩⟩
    · rw [haddr] at hnone
      rw [hnone] at hparse
      cases hparse
    · refine hresponsive.left runtime.pool err ?_ _ _ hcause
      rw [hlog]
      exact List.mem_cons_of_mem _ List.mem_cons_self
  · refine ⟨runtime, object, result, hlog, houtput, ?_⟩
    apply hresponsive.right object.connection.operationTimeout object
    rw [hlog]
    exact List.mem_append_right _ List.mem_cons_self

theorem responsive_of_answered {address : String} {slaveId : UInt8}
    {runtime : ModbusRuntime} {object : Object} {request : ModbusRequest}
    {result : CallResult request.Answer}
    (hanswered : result.outcome.answered = true) :
    DeviceResponsive
      (ModbusService.connectionEvents address slaveId runtime (.ok object) ++
        ModbusService.callEvents object request result) := by
  constructor
  · intro pool err hmem
    simp [ModbusService.connectionEvents, ModbusService.callEvents] at hmem
  · intro operationTimeout found sent other hmem
    simp only [ModbusService.connectionEvents, ModbusService.callEvents,
      List.cons_append, List.nil_append, List.mem_cons, List.not_mem_nil,
      or_false] at hmem
    rcases hmem with hmem | hmem | hmem | hmem
    · cases hmem
    · cases hmem
    · cases hmem
      exact hanswered
    · cases hmem

theorem live_of_planned {plan : Plan}
    (hresolved : Entry.resolve d.conveyor entry.request = some entry)
    (hplan : entry.request.plan d.conveyor = some plan)
    (hplanned : entry.Planned plan)
    (hparse : (SocketAddr.fromStr entry.device).isSome) : entry.Live d := by
  rw [<- hplanned.device] at hparse
  refine ⟨hresolved, ?_, ?_, ?_⟩
  · intro s hs
    rcases Option.isSome_iff_exists.mp hparse with ⟨addr, haddr⟩
    rcases handler_reaches_end hs hplan haddr with
      ⟨ls, s', task, runtime, object, answer, hrun, htask, hkind, hreturned,
        hlog⟩
    refine ⟨ls, s', task, _, hrun, htask, hkind, hreturned, rfl, ?_⟩
    rw [hlog]
    exact responsive_of_answered rfl
  · intro s task output hs htask hkind hreturned hresponsive
    rcases called_of_responsive hplan hparse hs htask hkind hreturned
      hresponsive with ⟨runtime, object, result, hlog, _, hanswered⟩
    rcases object_of_log (reachable_wired hs)
      ((reachable_wired hs).tasks task htask) hlog with
      ⟨haddr, hslaveId, hslave, _⟩
    refine ⟨object.connection.operationTimeout, object, plan.request, ?_,
      haddr.trans hplanned.device, hslaveId.trans hplanned.slaveId,
      hslave.trans hplanned.slaveId, hplanned.functionCode,
      hplanned.registerAddress, hplanned.operand⟩
    rw [hlog, wireRequests_called, if_pos (result.answered_sent hanswered)]
  · intro s task response hs htask hkind hreturned hresponsive
    rcases called_of_responsive hplan hparse hs htask hkind hreturned
      hresponsive with ⟨runtime, object, result, _, hresponse, hanswered⟩
    cases hresponse
    exact accepted_of_answered plan hanswered

/-!
## The three conditions are needed
-/

/-- An entry of an unsupported function is answered 400 with nothing sent. -/
theorem Entry.Live.supported (h : entry.Live d) : entry.Supported := by
  rcases Entry.plan_of_resolved h.resolved with
    ⟨hsupported, _⟩ | ⟨_, hplan⟩
  · exact hsupported
  · exfalso
    have hspawned : Reachable d ((State.initial d.modbus).addTask
        (Task.start d.conveyor (.handler entry.request))) :=
      Transition.System.Reachable.step (Transition.System.Reachable.init rfl)
        Step.spawn
    rcases handler_program_of_no_plan hplan with ⟨message, hreturned⟩
    rcases h.carried _ _ _ hspawned List.mem_cons_self rfl hreturned
      ⟨by rintro pool err ⟨⟩, by rintro operationTimeout object sent result ⟨⟩⟩
      with ⟨operationTimeout, object, sent, hwire, _⟩
    cases hwire

/-- An entry whose device is no socket address ends in a pool error. -/
theorem Entry.Live.parses (h : entry.Live d) :
    (SocketAddr.fromStr entry.device).isSome := by
  rcases Entry.plan_of_resolved h.resolved with
    ⟨_, plan, hplan, hplanned⟩ | ⟨hunsupported, _⟩
  · rw [<- hplanned.device]
    cases hparse : SocketAddr.fromStr plan.device with
    | some addr => rfl
    | none =>
        exfalso
        rcases handler_refused hplan hparse with
          ⟨s, task, runtime, err, hs, htask, hkind, hreturned, hlog, hcause⟩
        have hresponsive : DeviceResponsive task.log := by
          rw [hlog]
          constructor
          · intro pool other hmem
            simp only [ModbusService.connectionEvents, List.mem_cons,
              List.not_mem_nil, or_false] at hmem
            rcases hmem with hmem | hmem
            · cases hmem
            · cases hmem
              intro addr message hfailed
              rw [hcause] at hfailed
              cases hfailed
          · intro operationTimeout object request result hmem
            simp [ModbusService.connectionEvents] at hmem
        rcases h.carried s task _ hs (List.mem_of_getElem? htask) hkind
          hreturned hresponsive with ⟨operationTimeout, object, sent, hwire, _⟩
        rw [hlog, wireRequests_connection] at hwire
        cases hwire
  · exact absurd h.supported hunsupported

end Live

theorem entry_live_iff {d : Deployment} {entry : Entry} :
    entry.Live d <->
      entry.First d.conveyor ∧ entry.Supported ∧
        (SocketAddr.fromStr entry.device).isSome := by
  constructor
  · intro h
    exact ⟨Entry.resolve_iff_first.mp h.resolved, h.supported, h.parses⟩
  · intro h
    rcases h with ⟨hfirst, hsupported, hparse⟩
    have hresolved := Entry.resolve_iff_first.mpr hfirst
    rcases Entry.plan_of_resolved hresolved with
      ⟨_, plan, hplan, hplanned⟩ | ⟨hunsupported, _⟩
    · exact live_of_planned hresolved hplan hplanned hparse
    · exact absurd hsupported hunsupported

/-!
## Entries that are not live

The file format admits an entry with the key of an earlier one, an entry of a
coil function and an entry whose device is a host name.
-/

def deadRoutes : List ConveyorSendRoute :=
  [{ source := "A1", destination := "B1", device := "10.0.0.5:502", slaveId := 1
     function := .writeSingleRegister, registerAddress := 100, value := 9 },
    { source := "A2", destination := "B2", device := "10.0.0.5:502"
      slaveId := 1, function := .writeSingleCoil, registerAddress := 101
      value := 1 },
    { source := "A3", destination := "B3", device := "plc-3:502", slaveId := 1
      function := .writeSingleRegister, registerAddress := 102, value := 7 }]

def mixedConveyor : ConveyorConfig :=
  { lineConveyor with sendRoutes := lineConveyor.sendRoutes ++ deadRoutes }

def mixedDeployment : Deployment :=
  { lineDeployment with conveyor := mixedConveyor }

theorem deadRoutes_loaded :
    (forall conversions : Conversions, conversions.Lawful ->
      loadConfig conversions [("conveyor", mixedConveyor.toToml)] =
        some
          { server := default
            logging := default
            modbus := mixedDeployment.modbus
            conveyor := mixedDeployment.conveyor }) ∧
      forall route, route ∈ deadRoutes ->
        (Entry.sendRoute route).Listed mixedDeployment.conveyor ∧
          ¬ (Entry.sendRoute route).Live mixedDeployment := by
  refine ⟨fun _ lawful => loadConfig_conveyor lawful mixedConveyor, ?_⟩
  intro route hroute
  refine ⟨List.mem_append_right _ hroute, ?_⟩
  intro hlive
  simp only [deadRoutes, List.mem_cons, List.not_mem_nil, or_false] at hroute
  rcases hroute with rfl | rfl | rfl
  · have hresolved := hlive.resolved
    revert hresolved
    decide
  · have hsupported := hlive.supported
    cases hsupported
  · have hparses := hlive.parses
    revert hparses
    decide

end ConveyorModbus
