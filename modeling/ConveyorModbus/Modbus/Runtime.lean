import ConveyorModbus.Modbus.Signature

/-!
# The Modbus service

`modbus/runtime.rs`: the runtime cache and the two operations.  The operations
are programs over the service signature; the cache itself is ordinary data with
the two accesses the source makes under its lock.
-/

namespace ConveyorModbus

open Effects

/-!
## Errors
-/

inductive ModbusError where
  | connectionPool (addr : String) (err : String)
  | writeTransport (addr : String) (registerAddress value : UInt16) (err : String)
  | writeException (addr : String) (registerAddress value : UInt16)
      (exception : String)
  | readTransport (addr : String) (registerAddress quantity : UInt16)
      (err : String)
  | readException (addr : String) (registerAddress quantity : UInt16)
      (exception : String)
  deriving DecidableEq, Repr

def ModbusError.toString : ModbusError -> String
  | connectionPool addr err =>
      s!"failed to acquire modbus connection {addr}: {err}"
  | writeTransport addr registerAddress value err =>
      s!"failed to write modbus register {addr}:{registerAddress} value {value}: {err}"
  | writeException addr registerAddress value exception =>
      s!"modbus exception writing register {addr}:{registerAddress} value {value}: {exception}"
  | readTransport addr registerAddress quantity err =>
      s!"failed to read modbus holding registers {addr}:{registerAddress} quantity {quantity}: {err}"
  | readException addr registerAddress quantity exception =>
      s!"modbus exception reading holding registers {addr}:{registerAddress} quantity {quantity}: {exception}"

/-!
## The runtime cache
-/

structure ModbusTarget where
  address : String
  slaveId : UInt8
  deriving DecidableEq, Repr

/-- The map under the lock: at most one runtime for each target. -/
structure Runtimes where
  entries : List (ModbusTarget × ModbusRuntime)
  keys_nodup : (entries.map Prod.fst).Nodup

namespace Runtimes

def empty : Runtimes where
  entries := []
  keys_nodup := List.nodup_nil

def keys (runtimes : Runtimes) : List ModbusTarget :=
  runtimes.entries.map Prod.fst

def get (runtimes : Runtimes) (target : ModbusTarget) : Option ModbusRuntime :=
  runtimes.entries.lookup target

def len (runtimes : Runtimes) : Nat :=
  runtimes.entries.length

theorem get_eq_none_iff {runtimes : Runtimes} {target : ModbusTarget} :
    runtimes.get target = none <-> target ∉ runtimes.keys := by
  unfold get keys
  induction runtimes.entries with
  | nil => simp
  | cons entry rest ih =>
      rw [List.lookup_cons, List.map_cons, List.mem_cons, not_or]
      by_cases htarget : target = entry.1
      · simp [htarget]
      · rw [beq_false_of_ne htarget]
        simp [htarget, ih]

def insert (runtimes : Runtimes) (target : ModbusTarget)
    (runtime : ModbusRuntime) (hfresh : runtimes.get target = none) :
    Runtimes where
  entries := runtimes.entries ++ [(target, runtime)]
  keys_nodup := by
    have hkey : target ∉ runtimes.keys := get_eq_none_iff.mp hfresh
    rw [List.map_append, List.nodup_append]
    refine ⟨runtimes.keys_nodup, by simp, ?_⟩
    intro a ha b hb hab
    have hb' : b = target := by simpa using hb
    exact hkey (hb' ▸ hab ▸ ha)

theorem get_insert_self {runtimes : Runtimes} {target : ModbusTarget}
    {runtime : ModbusRuntime} (hfresh : runtimes.get target = none) :
    (runtimes.insert target runtime hfresh).get target = some runtime := by
  have hnone : runtimes.entries.lookup target = none := hfresh
  simp [get, insert, List.lookup_append, hnone]

theorem get_insert_of_some {runtimes : Runtimes} {target other : ModbusTarget}
    {runtime old : ModbusRuntime} (hfresh : runtimes.get target = none)
    (hold : runtimes.get other = some old) :
    (runtimes.insert target runtime hfresh).get other = some old := by
  have hsome : runtimes.entries.lookup other = some old := hold
  simp [get, insert, List.lookup_append, hsome]

theorem get_insert_of_ne {runtimes : Runtimes} {target other : ModbusTarget}
    {runtime : ModbusRuntime} (hfresh : runtimes.get target = none)
    (hne : other ≠ target) :
    (runtimes.insert target runtime hfresh).get other = runtimes.get other := by
  simp [get, insert, List.lookup_append, List.lookup_cons,
    beq_false_of_ne hne]

@[simp] theorem mem_keys_insert {runtimes : Runtimes}
    {target other : ModbusTarget} {runtime : ModbusRuntime}
    (hfresh : runtimes.get target = none) :
    other ∈ (runtimes.insert target runtime hfresh).keys <->
      other ∈ runtimes.keys ∨ other = target := by
  simp [keys, insert]

end Runtimes

/-!
## Building a runtime
-/

def buildModbusPool (address : String) (slaveId : UInt8) (config : ModbusConfig)
    (id : Nat) : Pool where
  id := id
  manager :=
    { addr := address
      slaveId := slaveId
      connectTimeout := config.connectTimeout
      reconnectDelay := config.reconnectDelay
      maxConnectAttempts := config.clampedMaxConnectAttempts
      operationTimeout := config.operationTimeout }
  maxSize := config.clampedPoolMaxSize

def buildModbusRuntime (address : String) (slaveId : UInt8)
    (config : ModbusConfig) (id : Nat) : ModbusRuntime where
  address := address
  slaveId := slaveId
  pool := buildModbusPool address slaveId config id

/-- The service state.  `poolsBuilt` counts the pools built so far and numbers
the next one. -/
structure ModbusService where
  runtimes : Runtimes
  config : ModbusConfig
  poolsBuilt : Nat

namespace ModbusService

def new (config : ModbusConfig) : ModbusService where
  runtimes := Runtimes.empty
  config := config
  poolsBuilt := 0

def configuredDeviceCount (service : ModbusService) : Nat :=
  service.runtimes.len

/-- `runtimes.read().get(&target)` -/
def lookup (service : ModbusService) (address : String) (slaveId : UInt8) :
    Option ModbusRuntime :=
  service.runtimes.get { address := address, slaveId := slaveId }

/-- `runtimes.write().entry(target).or_insert_with(build)` -/
def entryOrInsert (service : ModbusService) (address : String)
    (slaveId : UInt8) : ModbusRuntime × ModbusService :=
  let target : ModbusTarget := { address := address, slaveId := slaveId }
  match hget : service.runtimes.get target with
  | some runtime => (runtime, service)
  | none =>
      let runtime :=
        buildModbusRuntime address slaveId service.config service.poolsBuilt
      (runtime,
        { service with
          runtimes := service.runtimes.insert target runtime hget
          poolsBuilt := service.poolsBuilt + 1 })

theorem entryOrInsert_of_none {service : ModbusService} {address : String}
    {slaveId : UInt8} (hmiss : service.lookup address slaveId = none) :
    service.entryOrInsert address slaveId =
      (buildModbusRuntime address slaveId service.config service.poolsBuilt,
        { service with
          runtimes := service.runtimes.insert { address, slaveId }
            (buildModbusRuntime address slaveId service.config
              service.poolsBuilt) hmiss
          poolsBuilt := service.poolsBuilt + 1 }) := by
  have hget : service.runtimes.get { address, slaveId } = none := hmiss
  simp only [entryOrInsert]
  split
  · rename_i runtime hsome
    rw [hget] at hsome
    cases hsome
  · rfl

theorem entryOrInsert_of_some {service : ModbusService} {address : String}
    {slaveId : UInt8} {runtime : ModbusRuntime}
    (hhit : service.lookup address slaveId = some runtime) :
    service.entryOrInsert address slaveId = (runtime, service) := by
  have hget : service.runtimes.get { address, slaveId } = some runtime := hhit
  simp only [entryOrInsert]
  split
  · rename_i found hsome
    rw [hget, Option.some.injEq] at hsome
    rw [hsome]
  · rename_i hnone
    rw [hget] at hnone
    cases hnone

/-- The cache access as one atomic step; the lock protocol that implements it
is the subject of `RuntimeCache`. -/
def runtime (service : ModbusService) (address : String) (slaveId : UInt8) :
    ModbusRuntime × ModbusService :=
  match service.lookup address slaveId with
  | some runtime => (runtime, service)
  | none => service.entryOrInsert address slaveId

/-!
## Operations
-/

def connection (address : String) (slaveId : UInt8) :
    ServiceProgram (Except ModbusError Object) := do
  let runtime <- Service.runtime address slaveId
  let object <- Service.get runtime.pool
  match object with
  | .ok object => pure (.ok object)
  | .error err => pure (.error (.connectionPool address err.text))

def writeSingleRegister (address : String) (slaveId : UInt8)
    (registerAddress value : UInt16) :
    ServiceProgram (Except ModbusError Unit) := do
  match <- connection address slaveId with
  | .error err => pure (.error err)
  | .ok connection => do
      let operationTimeout := connection.connection.operationTimeout
      let result <- Service.call operationTimeout connection
        (.writeSingleRegister registerAddress value)
      match result.outcome with
      | .ok (.ok (.ok ())) => do
          Service.release connection
          pure (.ok ())
      | .ok (.ok (.error exception)) => do
          Service.release connection
          pure (.error
            (.writeException address registerAddress value exception))
      | .ok (.error err) => do
          Service.release connection.markUnhealthy
          pure (.error (.writeTransport address registerAddress value err))
      | .error _ => do
          Service.release connection.markUnhealthy
          pure (.error
            (.writeTransport address registerAddress value "operation timeout"))

def readHoldingRegisters (address : String) (slaveId : UInt8)
    (registerAddress quantity : UInt16) :
    ServiceProgram (Except ModbusError (List UInt16)) := do
  match <- connection address slaveId with
  | .error err => pure (.error err)
  | .ok connection => do
      let operationTimeout := connection.connection.operationTimeout
      let result <- Service.call operationTimeout connection
        (.readHoldingRegisters registerAddress quantity)
      match result.outcome with
      | .ok (.ok (.ok values)) => do
          Service.release connection
          pure (.ok values)
      | .ok (.ok (.error exception)) => do
          Service.release connection
          pure (.error
            (.readException address registerAddress quantity exception))
      | .ok (.error err) => do
          Service.release connection.markUnhealthy
          pure (.error (.readTransport address registerAddress quantity err))
      | .error _ => do
          Service.release connection.markUnhealthy
          pure (.error
            (.readTransport address registerAddress quantity "operation timeout"))

end ModbusService
end ConveyorModbus
