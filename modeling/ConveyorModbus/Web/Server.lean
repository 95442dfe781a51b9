import ConveyorModbus.Web.Response

/-!
# Handlers and the webhook monitor

`web/server.rs`: the four conveyor handlers and one pass of the can-putdown
webhook monitor, as programs over the operations of the Modbus service and the
webhook client.  `serviceOps` runs them on the service of `modbus/runtime.rs`.
-/

namespace ConveyorModbus

open Effects

/-!
## What the web layer calls
-/

inductive WebEffect where
  | writeSingleRegister (address : String) (slaveId : UInt8)
      (registerAddress value : UInt16)
  | readHoldingRegisters (address : String) (slaveId : UInt8)
      (registerAddress quantity : UInt16)
  | post (url : String) (payload : ConveyorCanPutdownWebhookPayload)
  deriving DecidableEq

abbrev WebEffect.Reply : WebEffect -> Type
  | writeSingleRegister _ _ _ _ => Except ModbusError Unit
  | readHoldingRegisters _ _ _ _ => Except ModbusError (List UInt16)
  | post _ _ => PostOutcome

abbrev WebProgram (A : Type) : Type := Program WebEffect WebEffect.Reply A

abbrev WebEvent : Type := Event WebEffect.Reply

namespace Web

abbrev writeSingleRegister (address : String) (slaveId : UInt8)
    (registerAddress value : UInt16) : WebProgram (Except ModbusError Unit) :=
  Program.lift
    (WebEffect.writeSingleRegister address slaveId registerAddress value)

abbrev readHoldingRegisters (address : String) (slaveId : UInt8)
    (registerAddress quantity : UInt16) :
    WebProgram (Except ModbusError (List UInt16)) :=
  Program.lift
    (WebEffect.readHoldingRegisters address slaveId registerAddress quantity)

abbrev post (url : String) (payload : ConveyorCanPutdownWebhookPayload) :
    WebProgram PostOutcome :=
  Program.lift (WebEffect.post url payload)

end Web

/-- The operations of the service behind the web layer's calls. -/
def serviceOps : (e : WebEffect) -> ServiceProgram e.Reply
  | .writeSingleRegister address slaveId registerAddress value =>
      ModbusService.writeSingleRegister address slaveId registerAddress value
  | .readHoldingRegisters address slaveId registerAddress quantity =>
      ModbusService.readHoldingRegisters address slaveId registerAddress quantity
  | .post url payload => Service.post url payload

section ServiceOps

variable (address : String) (slaveId : UInt8) (registerAddress : UInt16)

theorem serviceOps_writeSingleRegister (value : UInt16) :
    serviceOps (.writeSingleRegister address slaveId registerAddress value) =
      ModbusService.operate address slaveId
        (.writeSingleRegister registerAddress value)
        (ModbusService.writeResult address registerAddress value) :=
  ModbusService.writeSingleRegister_eq_operate address slaveId registerAddress
    value

theorem serviceOps_readHoldingRegisters (quantity : UInt16) :
    serviceOps
        (.readHoldingRegisters address slaveId registerAddress quantity) =
      ModbusService.operate address slaveId
        (.readHoldingRegisters registerAddress quantity)
        (ModbusService.readResult address registerAddress quantity) :=
  ModbusService.readHoldingRegisters_eq_operate address slaveId registerAddress
    quantity

end ServiceOps

/-!
## Lookups
-/

def resolveConveyorWrite (conveyor : ConveyorConfig)
    (source destination : String) : Except ApiError ConveyorSendRoute :=
  match conveyor.findSendRoute source destination with
  | some route => .ok route
  | none => .error
      { status := StatusCode.badRequest
        message := s!"unknown conveyor route: {source}->{destination}" }

def resolveCanPutdown (conveyor : ConveyorConfig) (location : String) :
    Except ApiError ConveyorReadCheck :=
  match conveyor.findCanPutdownCheck location with
  | some check => .ok check
  | none => .error
      { status := StatusCode.badRequest
        message := s!"unknown can-putdown location: {location}" }

def resolveSendSuccessCheck (conveyor : ConveyorConfig) (source : String) :
    Except ApiError ConveyorSendSuccessCheck :=
  match conveyor.findSendSuccessCheck source with
  | some check => .ok check
  | none => .error
      { status := StatusCode.badRequest
        message := s!"unknown conveyor write-success source: {source}" }

def resolveNeedPutdown (conveyor : ConveyorConfig) (location : String) :
    Except ApiError ConveyorNeedPutdownRoute :=
  match conveyor.findNeedPutdownRoute location with
  | some route => .ok route
  | none => .error
      { status := StatusCode.badRequest
        message := s!"unknown need-putdown location: {location}" }

/-!
## Execution of one table entry

The four functions differ in the entry type, the supported function code and
the text of the error.
-/

def executeConveyorWrite (route : ConveyorSendRoute) :
    WebProgram (Except ApiError Unit) :=
  match route.function with
  | .writeSingleRegister => do
      match <- Web.writeSingleRegister route.device route.slaveId
          route.registerAddress route.value with
      | .ok () => pure (.ok ())
      | .error err => pure (.error (ApiError.ofModbusError err))
  | function =>
      pure (.error
        { status := StatusCode.badRequest
          message :=
            s!"unsupported conveyor modbus write function: {function.asStr}" })

def executeNeedPutdownWrite (route : ConveyorNeedPutdownRoute) :
    WebProgram (Except ApiError Unit) :=
  match route.function with
  | .writeSingleRegister => do
      match <- Web.writeSingleRegister route.device route.slaveId
          route.registerAddress route.value with
      | .ok () => pure (.ok ())
      | .error err => pure (.error (ApiError.ofModbusError err))
  | function =>
      pure (.error
        { status := StatusCode.badRequest
          message :=
            s!"unsupported need-putdown modbus write function: {function.asStr}" })

def executeCanPutdownCheck (check : ConveyorReadCheck) :
    WebProgram (Except ApiError (List UInt16)) :=
  match check.function with
  | .readHoldingRegisters => do
      match <- Web.readHoldingRegisters check.device check.slaveId
          check.registerAddress check.quantity with
      | .ok values => pure (.ok values)
      | .error err => pure (.error (ApiError.ofModbusError err))
  | function =>
      pure (.error
        { status := StatusCode.badRequest
          message :=
            s!"unsupported conveyor read function: {function.asStr}" })

def executeSendSuccessCheck (check : ConveyorSendSuccessCheck) :
    WebProgram (Except ApiError (List UInt16)) :=
  match check.function with
  | .readHoldingRegisters => do
      match <- Web.readHoldingRegisters check.device check.slaveId
          check.registerAddress check.quantity with
      | .ok values => pure (.ok values)
      | .error err => pure (.error (ApiError.ofModbusError err))
  | function =>
      pure (.error
        { status := StatusCode.badRequest
          message :=
            s!"unsupported conveyor write-success read function: {function.asStr}" })

/-!
## Handlers
-/

def writeConveyor (conveyor : ConveyorConfig) (request : ConveyorWriteRequest) :
    WebProgram (Except ApiError (ApiResponse ConveyorWriteResponse)) :=
  match resolveConveyorWrite conveyor request.source request.destination with
  | .error err => pure (.error err)
  | .ok route => do
      match <- executeConveyorWrite route with
      | .error err => pure (.error err)
      | .ok () =>
          pure (.ok
            { success := true
              data := some
                { source := route.source
                  destination := route.destination
                  device := route.device
                  slaveId := route.slaveId
                  function := route.function.asStr
                  registerAddress := route.registerAddress
                  value := route.value }
              message := "ok" })

def writeSuccess (conveyor : ConveyorConfig)
    (query : ConveyorWriteSuccessQuery) :
    WebProgram (Except ApiError (ApiResponse (List UInt16))) :=
  match resolveSendSuccessCheck conveyor query.source with
  | .error err => pure (.error err)
  | .ok check => do
      match <- executeSendSuccessCheck check with
      | .error err => pure (.error err)
      | .ok values =>
          pure (.ok { success := true, data := some values, message := "ok" })

def canPutdown (conveyor : ConveyorConfig) (query : ConveyorCanPutdownQuery) :
    WebProgram (Except ApiError (ApiResponse (List UInt16))) :=
  match resolveCanPutdown conveyor query.location with
  | .error err => pure (.error err)
  | .ok check => do
      match <- executeCanPutdownCheck check with
      | .error err => pure (.error err)
      | .ok values =>
          pure (.ok { success := true, data := some values, message := "ok" })

def needPutdown (conveyor : ConveyorConfig)
    (request : ConveyorNeedPutdownRequest) :
    WebProgram (Except ApiError (ApiResponse ConveyorNeedPutdownResponse)) :=
  match resolveNeedPutdown conveyor request.location with
  | .error err => pure (.error err)
  | .ok route => do
      match <- executeNeedPutdownWrite route with
      | .error err => pure (.error err)
      | .ok () =>
          pure (.ok
            { success := true
              data := some
                { location := route.location
                  device := route.device
                  slaveId := route.slaveId
                  function := route.function.asStr
                  registerAddress := route.registerAddress
                  value := route.value }
              message := "ok" })

/-!
## The webhook monitor
-/

def shouldTriggerCanPutdownWebhook (check : ConveyorReadCheck)
    (values : List UInt16) : Bool :=
  check.hookNotify.isSome && values.head?.any (fun value => value = 6)

/-- The post outcome is only logged. -/
def notifyCanPutdownWebhook (conveyor : ConveyorConfig)
    (check : ConveyorReadCheck) (values : List UInt16) : WebProgram Unit :=
  match check.hookNotify with
  | none => pure ()
  | some webhookName =>
      match conveyor.findWebhook webhookName with
      | none => pure ()
      | some webhook => do
          let _ <- Web.post webhook.url
            { location := check.location, values := values }
          pure ()

def pollCheck (conveyor : ConveyorConfig) (check : ConveyorReadCheck) :
    WebProgram Unit := do
  match <- executeCanPutdownCheck check with
  | .ok values =>
      if shouldTriggerCanPutdownWebhook check values then
        notifyCanPutdownWebhook conveyor check values
  | .error _ => pure ()

def pollChecks (conveyor : ConveyorConfig) :
    List ConveyorReadCheck -> WebProgram Unit
  | [] => pure ()
  | check :: checks => do
      pollCheck conveyor check
      pollChecks conveyor checks

/-- One pass of `run_can_putdown_webhook_monitor` between two ticks. -/
def canPutdownWebhookRound (conveyor : ConveyorConfig) : WebProgram Unit :=
  pollChecks conveyor
    (conveyor.canPutdownChecks.filter (fun check => check.hookNotify.isSome))

end ConveyorModbus
