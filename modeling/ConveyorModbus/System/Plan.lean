import ConveyorModbus.System.Machine

/-!
# What a conveyor request asks for

The purpose of the four endpoints, stated over the tables alone: the first
entry with the request's key, if its function is supported, names the device
and the one Modbus request that is made, and a reply to it is the answer.
Every handler is shown to carry out exactly this plan.
-/

namespace ConveyorModbus

open Effects Program

/-- The one Modbus operation behind a conveyor request, with the data its
reply is answered with. -/
structure Plan where
  device : String
  slaveId : UInt8
  request : ModbusRequest
  data : request.Answer -> ResponseData

namespace ConveyorRequest

/-- The plan of the first entry that matches the key of the request. -/
def plan (conveyor : ConveyorConfig) : ConveyorRequest -> Option Plan
  | write request =>
      match conveyor.sendRoutes.find? (fun route =>
        route.source = request.source &&
          route.destination = request.destination) with
      | some route =>
          if route.function = .writeSingleRegister then
            some
              { device := route.device
                slaveId := route.slaveId
                request := .writeSingleRegister route.registerAddress route.value
                data := fun _ => .write
                  { source := request.source
                    destination := request.destination
                    device := route.device
                    slaveId := route.slaveId
                    function := "0x06"
                    registerAddress := route.registerAddress
                    value := route.value } }
          else
            none
      | none => none
  | needPutdown request =>
      match conveyor.needPutdownRoutes.find? (fun route =>
        route.location = request.location) with
      | some route =>
          if route.function = .writeSingleRegister then
            some
              { device := route.device
                slaveId := route.slaveId
                request := .writeSingleRegister route.registerAddress route.value
                data := fun _ => .needPutdown
                  { location := request.location
                    device := route.device
                    slaveId := route.slaveId
                    function := "0x06"
                    registerAddress := route.registerAddress
                    value := route.value } }
          else
            none
      | none => none
  | writeSuccess query =>
      match conveyor.sendSuccessChecks.find? (fun check =>
        check.source = query.source) with
      | some check =>
          if check.function = .readHoldingRegisters then
            some
              { device := check.device
                slaveId := check.slaveId
                request :=
                  .readHoldingRegisters check.registerAddress check.quantity
                data := fun values => .values values }
          else
            none
      | none => none
  | canPutdown query =>
      match conveyor.canPutdownChecks.find? (fun check =>
        check.location = query.location) with
      | some check =>
          if check.function = .readHoldingRegisters then
            some
              { device := check.device
                slaveId := check.slaveId
                request :=
                  .readHoldingRegisters check.registerAddress check.quantity
                data := fun values => .values values }
          else
            none
      | none => none

end ConveyorRequest

def ModbusRequest.result (address : String) :
    (request : ModbusRequest) -> CallOutcome request.Answer ->
      Except ModbusError request.Answer
  | .writeSingleRegister registerAddress value =>
      ModbusService.writeResult address registerAddress value
  | .readHoldingRegisters registerAddress quantity =>
      ModbusService.readResult address registerAddress quantity

namespace Plan

def respond (plan : Plan) : Except ModbusError plan.request.Answer -> Response
  | .ok answer =>
      Response.json StatusCode.ok
        { success := true, data := some (plan.data answer), message := "ok" }
  | .error err => (ApiError.ofModbusError err).intoResponse

def program (plan : Plan) : ServiceProgram TaskOutput := do
  let result <- ModbusService.operate plan.device plan.slaveId plan.request
    (plan.request.result plan.device)
  pure (.response (plan.respond result))

end Plan

/-!
## The handlers carry out the plan
-/

section Handlers

variable (conveyor : ConveyorConfig)

theorem interp_write (device : String) (slaveId : UInt8)
    (registerAddress value : UInt16)
    (k : Except ModbusError Unit -> WebProgram TaskOutput)
    (data : Unit -> ResponseData)
    (hk : forall result, interp serviceOps (k result) =
      ret (.response (Plan.respond
        { device, slaveId
          request := .writeSingleRegister registerAddress value
          data } result))) :
    interp serviceOps
        (perform (.writeSingleRegister device slaveId registerAddress value) k) =
      Plan.program
        { device, slaveId
          request := .writeSingleRegister registerAddress value
          data } := by
  rw [interp_perform, serviceOps_writeSingleRegister]
  exact congrArg (_ >>= ·) (funext hk)

theorem interp_read (device : String) (slaveId : UInt8)
    (registerAddress quantity : UInt16)
    (k : Except ModbusError (List UInt16) -> WebProgram TaskOutput)
    (data : List UInt16 -> ResponseData)
    (hk : forall result, interp serviceOps (k result) =
      ret (.response (Plan.respond
        { device, slaveId
          request := .readHoldingRegisters registerAddress quantity
          data } result))) :
    interp serviceOps
        (perform
          (.readHoldingRegisters device slaveId registerAddress quantity) k) =
      Plan.program
        { device, slaveId
          request := .readHoldingRegisters registerAddress quantity
          data } := by
  rw [interp_perform, serviceOps_readHoldingRegisters]
  exact congrArg (_ >>= ·) (funext hk)

/-- What a handler does: it carries out the plan, or answers 400 at once. -/
def HandlerShape (request : ConveyorRequest) : Prop :=
  match request.plan conveyor with
  | some plan => taskProgram conveyor (.handler request) = plan.program
  | none => exists message, taskProgram conveyor (.handler request) =
      ret (.response (ApiError.intoResponse
        { status := StatusCode.badRequest, message }))

theorem write_shape (request : ConveyorWriteRequest) :
    HandlerShape conveyor (.write request) := by
  unfold HandlerShape ConveyorRequest.plan taskProgram
  simp only [webProgram, handle, writeConveyor, resolveConveyorWrite,
    ConveyorConfig.findSendRoute]
  cases hfind : conveyor.sendRoutes.find? (fun route =>
      route.source = request.source &&
        route.destination = request.destination) with
  | none => exact ⟨_, rfl⟩
  | some route =>
      have hkey := List.find?_some hfind
      simp only [Bool.and_eq_true, decide_eq_true_eq] at hkey
      simp only [executeConveyorWrite]
      cases hfunction : route.function with
      | writeSingleRegister =>
          simp only [if_true]
          refine interp_write _ _ _ _ _ _ ?_
          intro h
          rcases h with err | ⟨⟩
          · rfl
          · rw [<- hkey.left, <- hkey.right]
            rfl
      | writeSingleCoil => exact ⟨_, rfl⟩
      | writeMultipleCoils => exact ⟨_, rfl⟩
      | writeMultipleRegisters => exact ⟨_, rfl⟩

theorem needPutdown_shape (request : ConveyorNeedPutdownRequest) :
    HandlerShape conveyor (.needPutdown request) := by
  unfold HandlerShape ConveyorRequest.plan taskProgram
  simp only [webProgram, handle, needPutdown, resolveNeedPutdown,
    ConveyorConfig.findNeedPutdownRoute]
  cases hfind : conveyor.needPutdownRoutes.find? (fun route =>
      route.location = request.location) with
  | none => exact ⟨_, rfl⟩
  | some route =>
      have hkey := List.find?_some hfind
      simp only [decide_eq_true_eq] at hkey
      simp only [executeNeedPutdownWrite]
      cases hfunction : route.function with
      | writeSingleRegister =>
          simp only [if_true]
          refine interp_write _ _ _ _ _ _ ?_
          intro h
          rcases h with err | ⟨⟩
          · rfl
          · rw [<- hkey]
            rfl
      | writeSingleCoil => exact ⟨_, rfl⟩
      | writeMultipleCoils => exact ⟨_, rfl⟩
      | writeMultipleRegisters => exact ⟨_, rfl⟩

theorem writeSuccess_shape (query : ConveyorWriteSuccessQuery) :
    HandlerShape conveyor (.writeSuccess query) := by
  unfold HandlerShape ConveyorRequest.plan taskProgram
  simp only [webProgram, handle, writeSuccess, resolveSendSuccessCheck,
    ConveyorConfig.findSendSuccessCheck]
  cases hfind : conveyor.sendSuccessChecks.find? (fun check =>
      check.source = query.source) with
  | none => exact ⟨_, rfl⟩
  | some check =>
      simp only [executeSendSuccessCheck]
      cases hfunction : check.function with
      | readHoldingRegisters =>
          simp only [if_true]
          refine interp_read _ _ _ _ _ _ ?_
          rintro (err | values) <;> rfl
      | readCoils => exact ⟨_, rfl⟩
      | readDiscreteInputs => exact ⟨_, rfl⟩
      | readInputRegisters => exact ⟨_, rfl⟩

theorem canPutdown_shape (query : ConveyorCanPutdownQuery) :
    HandlerShape conveyor (.canPutdown query) := by
  unfold HandlerShape ConveyorRequest.plan taskProgram
  simp only [webProgram, handle, canPutdown, resolveCanPutdown,
    ConveyorConfig.findCanPutdownCheck]
  cases hfind : conveyor.canPutdownChecks.find? (fun check =>
      check.location = query.location) with
  | none => exact ⟨_, rfl⟩
  | some check =>
      simp only [executeCanPutdownCheck]
      cases hfunction : check.function with
      | readHoldingRegisters =>
          simp only [if_true]
          refine interp_read _ _ _ _ _ _ ?_
          rintro (err | values) <;> rfl
      | readCoils => exact ⟨_, rfl⟩
      | readDiscreteInputs => exact ⟨_, rfl⟩
      | readInputRegisters => exact ⟨_, rfl⟩

theorem handler_shape (request : ConveyorRequest) :
    HandlerShape conveyor request := by
  cases request with
  | write request => exact write_shape conveyor request
  | needPutdown request => exact needPutdown_shape conveyor request
  | writeSuccess query => exact writeSuccess_shape conveyor query
  | canPutdown query => exact canPutdown_shape conveyor query

end Handlers

/-!
## Complete traces of a handler
-/

section Traces

variable {conveyor : ConveyorConfig} {request : ConveyorRequest}
  {l : List ServiceEvent} {output : TaskOutput}

theorem handler_program_of_plan {plan : Plan}
    (hplan : request.plan conveyor = some plan) :
    taskProgram conveyor (.handler request) = plan.program := by
  have hshape := handler_shape conveyor request
  unfold HandlerShape at hshape
  rw [hplan] at hshape
  exact hshape

theorem handler_program_of_no_plan (hplan : request.plan conveyor = none) :
    exists message, taskProgram conveyor (.handler request) =
      ret (.response (ApiError.intoResponse
        { status := StatusCode.badRequest, message })) := by
  have hshape := handler_shape conveyor request
  unfold HandlerShape at hshape
  rw [hplan] at hshape
  exact hshape

/-- A handler with a plan fails to get a connection, or makes its one call. -/
theorem handler_returns_of_plan {plan : Plan}
    (hplan : request.plan conveyor = some plan)
    (h : Returns (taskProgram conveyor (.handler request)) l output) :
    (exists runtime err,
      l = ModbusService.connectionEvents plan.device plan.slaveId runtime
        (.error err) ∧
      output = .response (plan.respond
        (.error (.connectionPool plan.device err.text)))) ∨
    (exists runtime object result,
      l = ModbusService.connectionEvents plan.device plan.slaveId runtime
          (.ok object) ++
        ModbusService.callEvents object plan.request result ∧
      output = .response (plan.respond
        (plan.request.result plan.device result.outcome))) := by
  rw [handler_program_of_plan hplan] at h
  rcases returns_bind_iff.mp h with ⟨first, out, rest, rfl, hfirst, hrest⟩
  rcases returns_ret_iff.mp hrest with ⟨rfl, rfl⟩
  rw [List.append_nil]
  rcases ModbusService.operate_returns_iff.mp hfirst with
    ⟨runtime, err, rfl, rfl⟩ | ⟨runtime, object, result, rfl, rfl⟩
  · exact Or.inl ⟨runtime, err, rfl, rfl⟩
  · exact Or.inr ⟨runtime, object, result, rfl, rfl⟩

theorem handler_returns_of_no_plan (hplan : request.plan conveyor = none)
    (h : Returns (taskProgram conveyor (.handler request)) l output) :
    l = [] ∧ exists message, output = .response (ApiError.intoResponse
      { status := StatusCode.badRequest, message }) := by
  rcases handler_program_of_no_plan hplan with ⟨message, hprogram⟩
  rw [hprogram] at h
  rcases returns_ret_iff.mp h with ⟨rfl, rfl⟩
  exact ⟨rfl, message, rfl⟩

end Traces

end ConveyorModbus
