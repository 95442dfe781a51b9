import Mathlib.Data.List.Basic

/-!
# Application configuration

The records of `config/mod.rs` with their defaults, the function codes the
two enumerations accept, the accessors of the Modbus section and the first-match
lookups of the conveyor tables.

Durations are natural numbers of milliseconds.  A setting of type u64 is only
converted to a duration, where the code saturates it is cut off there, and a
setting of type usize is only compared with one, so both are natural numbers
here; register data keep their fixed widths.
-/

namespace ConveyorModbus

abbrev Duration := Nat

/-!
## Function codes
-/

inductive ConveyorWriteFunction where
  | writeSingleCoil
  | writeSingleRegister
  | writeMultipleCoils
  | writeMultipleRegisters
  deriving DecidableEq, Repr

inductive ConveyorReadFunction where
  | readCoils
  | readDiscreteInputs
  | readHoldingRegisters
  | readInputRegisters
  deriving DecidableEq, Repr

namespace ConveyorWriteFunction

def asStr : ConveyorWriteFunction -> String
  | writeSingleCoil => "0x05"
  | writeSingleRegister => "0x06"
  | writeMultipleCoils => "0x0F"
  | writeMultipleRegisters => "0x10"

/-- The names of the serde attributes: the rename and the alias of each variant. -/
def variants : List String :=
  ["0x05", "write_single_coil", "0x06", "write_single_register", "0x0F",
    "write_multiple_coils", "0x10", "write_multiple_registers"]

def deserialize (name : String) : Option ConveyorWriteFunction :=
  if name = "0x05" ∨ name = "write_single_coil" then
    some writeSingleCoil
  else if name = "0x06" ∨ name = "write_single_register" then
    some writeSingleRegister
  else if name = "0x0F" ∨ name = "write_multiple_coils" then
    some writeMultipleCoils
  else if name = "0x10" ∨ name = "write_multiple_registers" then
    some writeMultipleRegisters
  else
    none

instance : Inhabited ConveyorWriteFunction where
  default := writeSingleRegister

theorem asStr_mem (function : ConveyorWriteFunction) :
    function.asStr ∈ variants := by
  cases function <;> decide

theorem deserialize_asStr (function : ConveyorWriteFunction) :
    deserialize function.asStr = some function := by
  cases function <;> decide

end ConveyorWriteFunction

namespace ConveyorReadFunction

def asStr : ConveyorReadFunction -> String
  | readCoils => "0x01"
  | readDiscreteInputs => "0x02"
  | readHoldingRegisters => "0x03"
  | readInputRegisters => "0x04"

def variants : List String :=
  ["0x01", "read_coils", "0x02", "read_discrete_inputs", "0x03",
    "read_holding_registers", "0x04", "read_input_registers"]

def deserialize (name : String) : Option ConveyorReadFunction :=
  if name = "0x01" ∨ name = "read_coils" then
    some readCoils
  else if name = "0x02" ∨ name = "read_discrete_inputs" then
    some readDiscreteInputs
  else if name = "0x03" ∨ name = "read_holding_registers" then
    some readHoldingRegisters
  else if name = "0x04" ∨ name = "read_input_registers" then
    some readInputRegisters
  else
    none

instance : Inhabited ConveyorReadFunction where
  default := readHoldingRegisters

theorem asStr_mem (function : ConveyorReadFunction) :
    function.asStr ∈ variants := by
  cases function <;> decide

theorem deserialize_asStr (function : ConveyorReadFunction) :
    deserialize function.asStr = some function := by
  cases function <;> decide

end ConveyorReadFunction

/-!
## Sections
-/

structure ServerConfig where
  listenAddr : String
  deriving DecidableEq, Repr

structure LoggingConfig where
  retainedDays : Nat
  cleanupIntervalHours : Nat
  deriving DecidableEq, Repr

structure ModbusConfig where
  connectTimeoutMs : Nat
  reconnectDelayMs : Nat
  maxConnectAttempts : Nat
  poolMaxSize : Nat
  operationTimeoutMs : Nat
  deriving DecidableEq, Repr

structure WebhookConfig where
  name : String
  url : String
  deriving DecidableEq, Repr

structure ConveyorSendRoute where
  source : String
  destination : String
  device : String
  slaveId : UInt8
  function : ConveyorWriteFunction
  registerAddress : UInt16
  value : UInt16
  deriving DecidableEq, Repr

structure ConveyorReadCheck where
  location : String
  device : String
  slaveId : UInt8
  function : ConveyorReadFunction
  registerAddress : UInt16
  quantity : UInt16
  hookNotify : Option String
  deriving DecidableEq, Repr

structure ConveyorSendSuccessCheck where
  source : String
  device : String
  slaveId : UInt8
  function : ConveyorReadFunction
  registerAddress : UInt16
  quantity : UInt16
  deriving DecidableEq, Repr

structure ConveyorNeedPutdownRoute where
  location : String
  device : String
  slaveId : UInt8
  function : ConveyorWriteFunction
  registerAddress : UInt16
  value : UInt16
  deriving DecidableEq, Repr

structure ConveyorConfig where
  sendRoutes : List ConveyorSendRoute
  sendSuccessChecks : List ConveyorSendSuccessCheck
  canPutdownChecks : List ConveyorReadCheck
  needPutdownRoutes : List ConveyorNeedPutdownRoute
  webhooks : List WebhookConfig
  deriving DecidableEq, Repr

structure AppConfig where
  server : ServerConfig
  logging : LoggingConfig
  modbus : ModbusConfig
  conveyor : ConveyorConfig
  deriving DecidableEq, Repr

/-!
## Defaults
-/

def defaultListenAddr : String := "0.0.0.0:3000"

def defaultLogRetainedDays : Nat := 30

def defaultLogCleanupIntervalHours : Nat := 24

def defaultModbusConnectTimeoutMs : Nat := 1000

def defaultModbusReconnectDelayMs : Nat := 500

def defaultModbusMaxConnectAttempts : Nat := 3

def defaultModbusPoolMaxSize : Nat := 1

def defaultModbusOperationTimeoutMs : Nat := 5000

def defaultModbusSlaveId : UInt8 := 1

def defaultModbusReadQuantity : UInt16 := 1

instance : Inhabited ServerConfig where
  default := { listenAddr := defaultListenAddr }

instance : Inhabited LoggingConfig where
  default :=
    { retainedDays := defaultLogRetainedDays
      cleanupIntervalHours := defaultLogCleanupIntervalHours }

instance : Inhabited ModbusConfig where
  default :=
    { connectTimeoutMs := defaultModbusConnectTimeoutMs
      reconnectDelayMs := defaultModbusReconnectDelayMs
      maxConnectAttempts := defaultModbusMaxConnectAttempts
      poolMaxSize := defaultModbusPoolMaxSize
      operationTimeoutMs := defaultModbusOperationTimeoutMs }

instance : Inhabited ConveyorConfig where
  default :=
    { sendRoutes := []
      sendSuccessChecks := []
      canPutdownChecks := []
      needPutdownRoutes := []
      webhooks := [] }

/-!
## Accessors and lookups
-/

namespace ModbusConfig

def connectTimeout (config : ModbusConfig) : Duration :=
  config.connectTimeoutMs

def reconnectDelay (config : ModbusConfig) : Duration :=
  config.reconnectDelayMs

/-- The accessor of the same name; the field holds the raw setting. -/
def clampedMaxConnectAttempts (config : ModbusConfig) : Nat :=
  max config.maxConnectAttempts 1

def clampedPoolMaxSize (config : ModbusConfig) : Nat :=
  max config.poolMaxSize 1

def operationTimeout (config : ModbusConfig) : Duration :=
  config.operationTimeoutMs

theorem clampedPoolMaxSize_pos (config : ModbusConfig) : 0 < config.clampedPoolMaxSize :=
  Nat.lt_of_lt_of_le Nat.one_pos (Nat.le_max_right _ _)

end ModbusConfig

namespace ConveyorConfig

def findSendRoute (conveyor : ConveyorConfig) (source destination : String) :
    Option ConveyorSendRoute :=
  conveyor.sendRoutes.find?
    (fun route => route.source = source && route.destination = destination)

def findCanPutdownCheck (conveyor : ConveyorConfig) (location : String) :
    Option ConveyorReadCheck :=
  conveyor.canPutdownChecks.find? (fun check => check.location = location)

def findSendSuccessCheck (conveyor : ConveyorConfig) (source : String) :
    Option ConveyorSendSuccessCheck :=
  conveyor.sendSuccessChecks.find? (fun check => check.source = source)

def findNeedPutdownRoute (conveyor : ConveyorConfig) (location : String) :
    Option ConveyorNeedPutdownRoute :=
  conveyor.needPutdownRoutes.find? (fun route => route.location = location)

def findWebhook (conveyor : ConveyorConfig) (name : String) :
    Option WebhookConfig :=
  conveyor.webhooks.find? (fun webhook => webhook.name = name)

end ConveyorConfig
end ConveyorModbus
