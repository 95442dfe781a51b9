import ConveyorModbus.Config
import ConveyorModbus.Library.Program
import ConveyorModbus.Modbus.SocketAddr

/-!
# The connection manager

`modbus/pool.rs`: how a pool manager opens a connection and decides whether an
idle one may be reused.  The functions are programs over the three things they
await: a connection attempt under `connect_timeout`, a sleep, and the close of
a socket.  Log lines are left out; the flag that suppresses a second
disconnect line is part of the connection and is kept.
-/

namespace ConveyorModbus

open Effects

/-- The error text of an `io::Error`. -/
abbrev IoError := String

/-- The deadline of a `timeout` passed before its future finished. -/
inductive Elapsed where
  | elapsed
  deriving DecidableEq, Repr

/-- A client context.  The number identifies the TCP stream it owns; the
requests sent over that stream are part of the system state, not of the value. -/
structure Context where
  stream : Nat
  slave : UInt8
  deriving DecidableEq, Repr

structure ModbusManager where
  addr : String
  slaveId : UInt8
  connectTimeout : Duration
  reconnectDelay : Duration
  maxConnectAttempts : Nat
  operationTimeout : Duration
  deriving DecidableEq, Repr

structure ManagedConnection where
  addr : String
  slaveId : UInt8
  context : Context
  status : Bool
  operationTimeout : Duration
  disconnectedLogged : Bool
  deriving DecidableEq, Repr

inductive ManagerError where
  | invalidAddress (addr : String)
  | connectFailed (addr : String) (err : String)
  deriving DecidableEq, Repr

def ManagerError.toString : ManagerError -> String
  | invalidAddress addr => s!"invalid socket address: {addr}"
  | connectFailed addr err =>
      s!"failed to connect modbus tcp address {addr}: {err}"

/-- The one error `recycle` reports. -/
inductive RecycleError where
  | message (text : String)
  deriving DecidableEq, Repr

/-!
## Network effects
-/

inductive NetEffect where
  /-- `timeout(connect_timeout, tcp::connect(addr)).await` -/
  | connect (connectTimeout : Duration) (addr : SocketAddr)
  /-- `sleep(delay).await` -/
  | sleep (delay : Duration)
  /-- `context.disconnect().await` -/
  | disconnect (context : Context)

abbrev NetEffect.Reply : NetEffect -> Type
  | connect _ _ => Except Elapsed (Except IoError Context)
  | sleep _ => Unit
  | disconnect _ => Except IoError Unit

abbrev NetProgram (A : Type) : Type := Program NetEffect NetEffect.Reply A

namespace Net

abbrev connect (connectTimeout : Duration) (addr : SocketAddr) :
    NetProgram (Except Elapsed (Except IoError Context)) :=
  Program.lift (NetEffect.connect connectTimeout addr)

abbrev sleep (delay : Duration) : NetProgram Unit :=
  Program.lift (NetEffect.sleep delay)

abbrev disconnect (context : Context) : NetProgram (Except IoError Unit) :=
  Program.lift (NetEffect.disconnect context)

end Net

/-!
## Manager functions
-/

/-- `tcp::connect` attaches no slave, which is the device address 255. -/
def Context.attach (stream : Nat) : Context where
  stream := stream
  slave := 255

def Context.setSlave (context : Context) (slave : UInt8) : Context :=
  { context with slave := slave }

namespace ManagedConnection

def logDisconnect (conn : ManagedConnection) : ManagedConnection :=
  if !conn.disconnectedLogged then
    { conn with disconnectedLogged := true }
  else
    conn

/-- `connection.status = false` -/
def markUnhealthy (conn : ManagedConnection) : ManagedConnection :=
  { conn with status := false }

end ManagedConnection

namespace ModbusManager

/-- `parse` is the address parser of the standard library. -/
def parseSocketAddr (parse : String -> Option SocketAddr)
    (manager : ModbusManager) : Except ManagerError SocketAddr :=
  match parse manager.addr with
  | some socketAddr => .ok socketAddr
  | none => .error (.invalidAddress manager.addr)

def established (manager : ModbusManager) (context : Context) :
    ManagedConnection :=
  { addr := manager.addr
    slaveId := manager.slaveId
    context := context.setSlave manager.slaveId
    status := true
    operationTimeout := manager.operationTimeout
    disconnectedLogged := false }

/-- The loop of `create` over the attempt numbers that are left. -/
def connectLoop (manager : ModbusManager) (socketAddr : SocketAddr)
    (maxConnectAttempts : Nat) :
    List Nat -> Option String -> NetProgram (Except ManagerError ManagedConnection)
  | [], lastError =>
      pure (.error
        (.connectFailed manager.addr (lastError.getD "unknown error")))
  | attempt :: attempts, _ => do
      let outcome <- Net.connect manager.connectTimeout socketAddr
      match outcome with
      | .ok (.ok context) => pure (.ok (manager.established context))
      | .ok (.error message) =>
          if attempt < maxConnectAttempts then
            Net.sleep manager.reconnectDelay
          connectLoop manager socketAddr maxConnectAttempts attempts
            (some message)
      | .error .elapsed =>
          if attempt < maxConnectAttempts then
            Net.sleep manager.reconnectDelay
          connectLoop manager socketAddr maxConnectAttempts attempts
            (some "timeout")

def create (parse : String -> Option SocketAddr) (manager : ModbusManager) :
    NetProgram (Except ManagerError ManagedConnection) :=
  match manager.parseSocketAddr parse with
  | .error err => pure (.error err)
  | .ok socketAddr =>
      let maxConnectAttempts := max manager.maxConnectAttempts 1
      connectLoop manager socketAddr maxConnectAttempts
        (List.range' 1 maxConnectAttempts) none

/-- `recycle` takes the connection by mutable reference, so it also returns it. -/
def recycle (_manager : ModbusManager) (conn : ManagedConnection) :
    NetProgram (Except RecycleError Unit × ManagedConnection) :=
  if conn.status then
    pure (.ok (), conn)
  else do
    let conn := conn.logDisconnect
    let _ <- Net.disconnect conn.context
    pure (.error (.message "can't recycle"), conn)

end ModbusManager

/-!
## What the manager functions return

A connection is made for the manager that created it, and `create` returns one
as soon as an attempt has produced a context, and only then.
-/

namespace ModbusManager

structure Owns (manager : ModbusManager) (conn : ManagedConnection) :
    Prop where
  addr : conn.addr = manager.addr
  slaveId : conn.slaveId = manager.slaveId
  slave : conn.context.slave = manager.slaveId
  operationTimeout : conn.operationTimeout = manager.operationTimeout

theorem established_owned (manager : ModbusManager) (context : Context) :
    manager.Owns (manager.established context) :=
  ⟨rfl, rfl, rfl, rfl⟩

theorem Owns.markUnhealthy {manager : ModbusManager} {conn : ManagedConnection}
    (h : manager.Owns conn) : manager.Owns conn.markUnhealthy :=
  ⟨h.addr, h.slaveId, h.slave, h.operationTimeout⟩

inductive Opening where
  | connecting
  | opened (context : Context)

/-- `create` connects under the manager's timeout and sleeps for the manager's
delay until an attempt succeeds. -/
def opening (manager : ModbusManager) :
    Typestate NetEffect NetEffect.Reply Opening where
  allowed
    | .connecting, .connect connectTimeout _ =>
        connectTimeout = manager.connectTimeout
    | .connecting, .sleep delay => delay = manager.reconnectDelay
    | _, _ => False
  next
    | _, .connect _ _, .ok (.ok context) => .opened context
    | state, _, _ => state

/-- Why `create` failed: the address is none, or no attempt succeeded. -/
def Refuses (parse : String -> Option SocketAddr) (manager : ModbusManager)
    (err : ManagerError) : Prop :=
  (parse manager.addr = none ∧ err = .invalidAddress manager.addr) ∨
    (parse manager.addr ≠ none ∧
      exists message, err = .connectFailed manager.addr message)

def Opened (parse : String -> Option SocketAddr) (manager : ModbusManager) :
    Opening -> Except ManagerError ManagedConnection -> Prop
  | .connecting, .error err => manager.Refuses parse err
  | .opened context, .ok conn => conn = manager.established context
  | _, _ => False

theorem connectLoop_follows {parse : String -> Option SocketAddr}
    (manager : ModbusManager) (hparse : parse manager.addr ≠ none)
    (socketAddr : SocketAddr) (maxConnectAttempts : Nat) (attempts : List Nat)
    (lastError : Option String) :
    Program.Follows manager.opening
      (manager.connectLoop socketAddr maxConnectAttempts attempts lastError)
      .connecting (manager.Opened parse) := by
  induction attempts generalizing lastError with
  | nil => exact Or.inr ⟨hparse, _, rfl⟩
  | cons attempt attempts ih =>
      refine ⟨rfl, fun outcome => ?_⟩
      rcases outcome with ⟨⟨⟩⟩ | message | context
      · by_cases hmore : attempt < maxConnectAttempts
        · simp only [hmore, if_true]
          exact ⟨rfl, fun _ => ih (some "timeout")⟩
        · simp only [hmore, if_false]
          exact ih (some "timeout")
      · by_cases hmore : attempt < maxConnectAttempts
        · simp only [hmore, if_true]
          exact ⟨rfl, fun _ => ih (some message)⟩
        · simp only [hmore, if_false]
          exact ih (some message)
      · exact rfl

theorem create_follows (parse : String -> Option SocketAddr)
    (manager : ModbusManager) :
    Program.Follows manager.opening (manager.create parse) .connecting
      (manager.Opened parse) := by
  unfold create parseSocketAddr
  cases hparse : parse manager.addr with
  | none => exact Or.inl ⟨hparse, rfl⟩
  | some socketAddr =>
      have hsome : parse manager.addr ≠ none := by
        rw [hparse]
        exact Option.some_ne_none socketAddr
      exact connectLoop_follows manager hsome socketAddr _ _ none

theorem eq_ret_of_opened {parse : String -> Option SocketAddr}
    {manager : ModbusManager} {context : Context}
    {rest : NetProgram (Except ManagerError ManagedConnection)}
    (h : Program.Follows manager.opening rest (.opened context)
      (manager.Opened parse)) :
    rest = Program.ret (.ok (manager.established context)) := by
  cases rest with
  | ret result =>
      cases result with
      | error err => exact h.elim
      | ok conn =>
          have hconn : conn = manager.established context := h
          rw [hconn]
  | perform e k =>
      cases e with
      | connect connectTimeout addr => exact h.left.elim
      | sleep delay => exact h.left.elim
      | disconnect context => exact h.left.elim

inductive Recycling (manager : ModbusManager) (conn : ManagedConnection) :
    NetProgram (Except RecycleError Unit × ManagedConnection) -> Prop where
  | accepted : conn.status = true ->
      Recycling manager conn (Program.ret (.ok (), conn))
  | closing {k : Except IoError Unit ->
        NetProgram (Except RecycleError Unit × ManagedConnection)} :
      conn.status = false ->
      (forall result, Recycling manager conn (k result)) ->
      Recycling manager conn
        (Program.perform (.disconnect conn.logDisconnect.context) k)
  | refused {err : RecycleError} {recycled : ManagedConnection} :
      conn.status = false ->
      Recycling manager conn (Program.ret (.error err, recycled))

theorem recycle_recycling (manager : ModbusManager) (conn : ManagedConnection) :
    manager.Recycling conn (manager.recycle conn) := by
  unfold recycle
  cases hstatus : conn.status with
  | true => exact Recycling.accepted hstatus
  | false =>
      exact Recycling.closing hstatus (fun _ => Recycling.refused hstatus)

theorem recycle_of_status {manager : ModbusManager} {conn : ManagedConnection}
    (hstatus : conn.status = true) :
    manager.recycle conn = Program.ret (.ok (), conn) := by
  simp [recycle, hstatus]

end ModbusManager
end ConveyorModbus
