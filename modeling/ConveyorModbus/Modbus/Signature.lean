import ConveyorModbus.Modbus.Pool

/-!
# What a task of the service performs

Every task, be it an HTTP handler or a round of the webhook monitor, is a
program over one signature: looking a runtime up in the cache, taking a
connection from a pool, a Modbus call under the operation timeout, dropping a
connection, and posting a webhook.
-/

namespace ConveyorModbus

open Effects

/-!
## Pools and Modbus requests
-/

/-- A pool handle.  The number tells pools apart; the idle queue and the free
permits of the pool belong to the system state. -/
structure Pool where
  id : Nat
  manager : ModbusManager
  maxSize : Nat
  deriving DecidableEq, Repr

structure ModbusRuntime where
  address : String
  slaveId : UInt8
  pool : Pool
  deriving DecidableEq, Repr

structure Object where
  pool : Pool
  connection : ManagedConnection
  deriving DecidableEq, Repr

/-- `connection.status = false` through the mutable dereference. -/
def Object.markUnhealthy (object : Object) : Object :=
  { object with connection := object.connection.markUnhealthy }

inductive ModbusRequest where
  | writeSingleRegister (registerAddress value : UInt16)
  | readHoldingRegisters (registerAddress quantity : UInt16)
  deriving DecidableEq, Repr

/-- What the client returns for a non-exception reply. -/
abbrev ModbusRequest.Answer : ModbusRequest -> Type
  | writeSingleRegister _ _ => Unit
  | readHoldingRegisters _ _ => List UInt16

def ModbusRequest.functionCode : ModbusRequest -> String
  | writeSingleRegister _ _ => "0x06"
  | readHoldingRegisters _ _ => "0x03"

/-- The Debug text of an exception code. -/
abbrev ExceptionCode := String

/-- The text of a transport or protocol error of the client. -/
abbrev ClientError := String

/-- The value of `timeout(operation_timeout, call).await`, in the nesting the
service matches on. -/
abbrev CallOutcome (A : Type) : Type :=
  Except Elapsed (Except ClientError (Except ExceptionCode A))

def CallOutcome.answered {A : Type} : CallOutcome A -> Bool
  | .ok (.ok _) => true
  | .ok (.error _) => false
  | .error _ => false

/-- The end of a call.  The program sees `outcome` only; `sent` records whether
the request had been put on the wire, which a reply presupposes. -/
structure CallResult (A : Type) where
  sent : Bool
  outcome : CallOutcome A
  answered_sent : outcome.answered = true -> sent = true

/-- `PoolError::Backend`, with the text the pool library gives it. -/
structure PoolError where
  cause : ManagerError
  text : String
  deriving DecidableEq, Repr

/-!
## Webhook posts
-/

abbrev StatusCode := Nat

structure ConveyorCanPutdownWebhookPayload where
  location : String
  values : List UInt16
  deriving DecidableEq, Repr

abbrev PostOutcome : Type := Except String StatusCode

/-!
## The signature
-/

inductive ServiceEffect where
  /-- `self.runtime(address, slave_id)` -/
  | runtime (address : String) (slaveId : UInt8)
  /-- `runtime.pool.get().await` -/
  | get (pool : Pool)
  /-- `timeout(operation_timeout, connection.context.<request>).await` -/
  | call (operationTimeout : Duration) (connection : Object)
      (request : ModbusRequest)
  /-- the end of the scope of a checked-out connection -/
  | release (connection : Object)
  /-- `client.post(url).json(&payload).send().await` -/
  | post (url : String) (payload : ConveyorCanPutdownWebhookPayload)

abbrev ServiceEffect.Reply : ServiceEffect -> Type
  | runtime _ _ => ModbusRuntime
  | get _ => Except PoolError Object
  | call _ _ request => CallResult request.Answer
  | release _ => Unit
  | post _ _ => PostOutcome

abbrev ServiceProgram (A : Type) : Type :=
  Program ServiceEffect ServiceEffect.Reply A

abbrev ServiceEvent : Type := Event ServiceEffect.Reply

namespace Service

abbrev runtime (address : String) (slaveId : UInt8) :
    ServiceProgram ModbusRuntime :=
  Program.lift (ServiceEffect.runtime address slaveId)

abbrev get (pool : Pool) : ServiceProgram (Except PoolError Object) :=
  Program.lift (ServiceEffect.get pool)

abbrev call (operationTimeout : Duration) (connection : Object)
    (request : ModbusRequest) : ServiceProgram (CallResult request.Answer) :=
  Program.lift (ServiceEffect.call operationTimeout connection request)

abbrev release (connection : Object) : ServiceProgram Unit :=
  Program.lift (ServiceEffect.release connection)

abbrev post (url : String) (payload : ConveyorCanPutdownWebhookPayload) :
    ServiceProgram PostOutcome :=
  Program.lift (ServiceEffect.post url payload)

end Service
end ConveyorModbus
