import ConveyorModbus.Library.Transition
import ConveyorModbus.Web.Server

/-!
# The running service

All tasks of the process as one transition system.  A task is an HTTP handler
or one round of the webhook monitor; its program is the source's own, and each
step either lets one task pass an await point, starts a task, or drops the
future of a handler whose client went away.

The connection pool is third-party code, so its steps say no more than the pool
promises: at most `max_size` permits are out, a permit holder takes some idle
connection and recycles it or creates one when none is idle, a connection that
fails recycling is discarded, and a dropped connection becomes idle.  The order
of the idle queue and of the waiting tasks is left open.  A PLC or a webhook
server answers with anything, at any time, or never.
-/

namespace ConveyorModbus

open Effects

/-!
## Tasks
-/

/-- What the process is started with.  The text of a pool error belongs to the
pool library. -/
structure Deployment where
  poolErrorText : ManagerError -> String
  modbus : ModbusConfig
  conveyor : ConveyorConfig

inductive ConveyorRequest where
  | write (request : ConveyorWriteRequest)
  | needPutdown (request : ConveyorNeedPutdownRequest)
  | writeSuccess (query : ConveyorWriteSuccessQuery)
  | canPutdown (query : ConveyorCanPutdownQuery)
  deriving DecidableEq, Repr

def handle (conveyor : ConveyorConfig) :
    ConveyorRequest -> WebProgram (Except ApiError (ApiResponse ResponseData))
  | .write request => do
      let result <- writeConveyor conveyor request
      pure (result.map (ApiResponse.map ResponseData.write))
  | .needPutdown request => do
      let result <- needPutdown conveyor request
      pure (result.map (ApiResponse.map ResponseData.needPutdown))
  | .writeSuccess query => do
      let result <- writeSuccess conveyor query
      pure (result.map (ApiResponse.map ResponseData.values))
  | .canPutdown query => do
      let result <- canPutdown conveyor query
      pure (result.map (ApiResponse.map ResponseData.values))

inductive TaskKind where
  | handler (request : ConveyorRequest)
  | round
  deriving DecidableEq, Repr

inductive TaskOutput where
  | response (response : Response)
  | roundDone
  deriving DecidableEq, Repr

def webProgram (conveyor : ConveyorConfig) : TaskKind -> WebProgram TaskOutput
  | .handler request => do
      let result <- handle conveyor request
      pure (.response (intoResponse result))
  | .round => do
      canPutdownWebhookRound conveyor
      pure .roundDone

def taskProgram (conveyor : ConveyorConfig) (kind : TaskKind) :
    ServiceProgram TaskOutput :=
  Program.interp serviceOps (webProgram conveyor kind)

/-- How far a task has come in the effect its program performs next. -/
inductive Phase where
  | ready
  /-- in `pool.get()`, with a permit -/
  | popping
  /-- in `pool.get()`, running `recycle` on an idle connection -/
  | recycling (connection : ManagedConnection)
      (rest : NetProgram (Except RecycleError Unit × ManagedConnection))
  /-- in `pool.get()`, running `create` -/
  | creating (rest : NetProgram (Except ManagerError ManagedConnection))
  /-- in a Modbus call whose request is on the wire -/
  | inFlight
  /-- in a webhook post whose answer is awaited -/
  | posting
  | dropped

structure Task where
  kind : TaskKind
  program : ServiceProgram TaskOutput
  phase : Phase
  log : List ServiceEvent

namespace Task

def start (conveyor : ConveyorConfig) (kind : TaskKind) : Task where
  kind := kind
  program := taskProgram conveyor kind
  phase := .ready
  log := []

def enter (task : Task) (phase : Phase) : Task :=
  { task with phase := phase }

def resume (task : Task) (e : ServiceEffect) (r : e.Reply)
    (k : e.Reply -> ServiceProgram TaskOutput) : Task where
  kind := task.kind
  program := k r
  phase := .ready
  log := task.log ++ [⟨e, r⟩]

def Finished (task : Task) : Prop :=
  exists output, task.program = .ret output

end Task

/-!
## States
-/

structure PoolState where
  pool : Pool
  permits : Nat
  idle : List ManagedConnection

namespace PoolState

def build (pool : Pool) : PoolState where
  pool := pool
  permits := pool.maxSize
  idle := []

def takePermit (state : PoolState) : PoolState :=
  { state with permits := state.permits - 1 }

def returnPermit (state : PoolState) : PoolState :=
  { state with permits := state.permits + 1 }

def removeIdle (state : PoolState) (n : Nat) : PoolState :=
  { state with idle := state.idle.eraseIdx n }

/-- Dropping an `Object`: its connection becomes idle, its permit free. -/
def giveBack (state : PoolState) (connection : ManagedConnection) :
    PoolState :=
  { state with
    permits := state.permits + 1
    idle := state.idle ++ [connection] }

end PoolState

/-- The process.  Pool `n` is the entry `n` of `pools`.  `outstanding` counts,
for each stream, the requests sent on it whose reply has not been consumed, and
`stale` those of their replies that nobody waits for any more and that come
before any other.  `failed` lists the connections of the operations that ended
in a transport error or a timeout, oldest first.  No program reads these
three. -/
structure State where
  service : ModbusService
  pools : List PoolState
  tasks : List Task
  streams : Nat
  outstanding : Nat -> Nat
  stale : Nat -> Nat
  failed : List Object

namespace State

def initial (modbus : ModbusConfig) : State where
  service := ModbusService.new modbus
  pools := []
  tasks := []
  streams := 0
  outstanding := fun _ => 0
  stale := fun _ => 0
  failed := []

def addTask (s : State) (task : Task) : State :=
  { s with tasks := s.tasks ++ [task] }

def setTask (s : State) (i : Nat) (task : Task) : State :=
  { s with tasks := s.tasks.set i task }

def setPool (s : State) (n : Nat) (pool : PoolState) : State :=
  { s with pools := s.pools.set n pool }

def addPool (s : State) (service : ModbusService) (pool : PoolState) : State :=
  { s with service := service, pools := s.pools ++ [pool] }

def setOutstanding (s : State) (stream count : Nat) : State :=
  { s with
    outstanding := fun n => if n = stream then count else s.outstanding n }

def setStale (s : State) (stream count : Nat) : State :=
  { s with stale := fun n => if n = stream then count else s.stale n }

def openStream (s : State) : State :=
  { s with streams := s.streams + 1 }

def recordFailure (s : State) (object : Object) : State :=
  { s with failed := s.failed ++ [object] }

end State

/-!
## Replies of a device
-/

inductive ModbusReply where
  | written
  | values (words : List UInt16)
  | exception (code : ExceptionCode)
  deriving DecidableEq, Repr

/-- What the client makes of a reply frame to the request; a frame of another
function is no reply to it. -/
def ModbusReply.answer :
    ModbusReply -> (request : ModbusRequest) ->
      Option (Except ExceptionCode request.Answer)
  | .written, .writeSingleRegister _ _ => some (.ok ())
  | .values words, .readHoldingRegisters _ _ => some (.ok words)
  | .exception code, _ => some (.error code)
  | _, _ => none

def CallResult.replied {A : Type} (result : Except ExceptionCode A) :
    CallResult A where
  sent := true
  outcome := .ok (.ok result)
  answered_sent := fun _ => rfl

def CallResult.transport {A : Type} (sent : Bool) (err : ClientError) :
    CallResult A where
  sent := sent
  outcome := .ok (.error err)
  answered_sent := fun h => Bool.noConfusion h

def CallResult.timedOut {A : Type} (sent : Bool) : CallResult A where
  sent := sent
  outcome := .error .elapsed
  answered_sent := fun h => Bool.noConfusion h

def Phase.isInFlight : Phase -> Bool
  | inFlight => true
  | _ => false

/-!
## Steps

A label names the task that moves and the choice the environment makes, but for
the replies that come after a handler was dropped in a call.
-/

inductive Label where
  | spawn (request : ConveyorRequest)
  | startRound
  | runtime (i : Nat)
  | acquire (i : Nat)
  | popIdle (i n : Nat)
  | popEmpty (i : Nat)
  | disconnected (i : Nat) (result : Except IoError Unit)
  | recycled (i : Nat)
  | connected (i : Nat)
  | refused (i : Nat) (err : IoError)
  | connectTimeout (i : Nat)
  | slept (i : Nat)
  | created (i : Nat)
  | send (i : Nat)
  | answer (i : Nat) (reply : ModbusReply)
  | transportError (i : Nat) (err : ClientError)
  | operationTimeout (i : Nat)
  | release (i : Nat)
  | post (i : Nat)
  | posted (i : Nat) (outcome : PostOutcome)
  | cancel (i : Nat)

open Program in
inductive Step (d : Deployment) : State -> Label -> State -> Prop where
  | spawn {s : State} {request : ConveyorRequest} :
      Step d s (.spawn request)
        (s.addTask (Task.start d.conveyor (.handler request)))
  /-- The monitor polls again only after its last round is over. -/
  | startRound {s : State} :
      (forall task, task ∈ s.tasks -> task.kind = .round -> task.Finished) ->
      Step d s .startRound (s.addTask (Task.start d.conveyor .round))
  | runtimeHit {s : State} {i : Nat} {task : Task} {address : String}
      {slaveId : UInt8} {k : ModbusRuntime -> ServiceProgram TaskOutput}
      {runtime : ModbusRuntime} :
      s.tasks[i]? = some task ->
      task.program = perform (.runtime address slaveId) k ->
      task.phase = .ready ->
      s.service.lookup address slaveId = some runtime ->
      Step d s (.runtime i)
        (s.setTask i (task.resume (.runtime address slaveId) runtime k))
  | runtimeMiss {s : State} {i : Nat} {task : Task} {address : String}
      {slaveId : UInt8} {k : ModbusRuntime -> ServiceProgram TaskOutput}
      {runtime : ModbusRuntime} {service : ModbusService} :
      s.tasks[i]? = some task ->
      task.program = perform (.runtime address slaveId) k ->
      task.phase = .ready ->
      s.service.lookup address slaveId = none ->
      s.service.entryOrInsert address slaveId = (runtime, service) ->
      Step d s (.runtime i)
        ((s.addPool service (PoolState.build runtime.pool)).setTask i
          (task.resume (.runtime address slaveId) runtime k))
  | acquire {s : State} {i : Nat} {task : Task} {pool : Pool}
      {k : Except PoolError Object -> ServiceProgram TaskOutput}
      {slots : PoolState} :
      s.tasks[i]? = some task ->
      task.program = perform (.get pool) k ->
      task.phase = .ready ->
      s.pools[pool.id]? = some slots ->
      0 < slots.permits ->
      Step d s (.acquire i)
        ((s.setPool pool.id slots.takePermit).setTask i (task.enter .popping))
  | popIdle {s : State} {i n : Nat} {task : Task} {pool : Pool}
      {k : Except PoolError Object -> ServiceProgram TaskOutput}
      {slots : PoolState} {connection : ManagedConnection} :
      s.tasks[i]? = some task ->
      task.program = perform (.get pool) k ->
      task.phase = .popping ->
      s.pools[pool.id]? = some slots ->
      slots.idle[n]? = some connection ->
      Step d s (.popIdle i n)
        ((s.setPool pool.id (slots.removeIdle n)).setTask i
          (task.enter (.recycling connection
            (pool.manager.recycle connection))))
  | popEmpty {s : State} {i : Nat} {task : Task} {pool : Pool}
      {k : Except PoolError Object -> ServiceProgram TaskOutput}
      {slots : PoolState} :
      s.tasks[i]? = some task ->
      task.program = perform (.get pool) k ->
      task.phase = .popping ->
      s.pools[pool.id]? = some slots ->
      slots.idle = [] ->
      Step d s (.popEmpty i)
        (s.setTask i
          (task.enter (.creating (pool.manager.create SocketAddr.fromStr))))
  | disconnected {s : State} {i : Nat} {task : Task} {pool : Pool}
      {k : Except PoolError Object -> ServiceProgram TaskOutput}
      {connection : ManagedConnection} {context : Context}
      {rest : Except IoError Unit ->
        NetProgram (Except RecycleError Unit × ManagedConnection)}
      {result : Except IoError Unit} :
      s.tasks[i]? = some task ->
      task.program = perform (.get pool) k ->
      task.phase =
        .recycling connection (perform (.disconnect context) rest) ->
      Step d s (.disconnected i result)
        (s.setTask i (task.enter (.recycling connection (rest result))))
  | recycleOk {s : State} {i : Nat} {task : Task} {pool : Pool}
      {k : Except PoolError Object -> ServiceProgram TaskOutput}
      {connection recycled : ManagedConnection} :
      s.tasks[i]? = some task ->
      task.program = perform (.get pool) k ->
      task.phase = .recycling connection (ret (.ok (), recycled)) ->
      Step d s (.recycled i)
        (s.setTask i
          (task.resume (.get pool) (.ok { pool, connection := recycled }) k))
  /-- The connection is discarded and the permit holder looks further. -/
  | recycleErr {s : State} {i : Nat} {task : Task} {pool : Pool}
      {k : Except PoolError Object -> ServiceProgram TaskOutput}
      {connection recycled : ManagedConnection} {err : RecycleError} :
      s.tasks[i]? = some task ->
      task.program = perform (.get pool) k ->
      task.phase = .recycling connection (ret (.error err, recycled)) ->
      Step d s (.recycled i) (s.setTask i (task.enter .popping))
  | connected {s : State} {i : Nat} {task : Task} {pool : Pool}
      {k : Except PoolError Object -> ServiceProgram TaskOutput}
      {connectTimeout : Duration} {addr : SocketAddr}
      {rest : Except Elapsed (Except IoError Context) ->
        NetProgram (Except ManagerError ManagedConnection)} :
      s.tasks[i]? = some task ->
      task.program = perform (.get pool) k ->
      task.phase = .creating (perform (.connect connectTimeout addr) rest) ->
      Step d s (.connected i)
        (s.openStream.setTask i
          (task.enter (.creating
            (rest (.ok (.ok (Context.attach s.streams)))))))
  | refused {s : State} {i : Nat} {task : Task} {pool : Pool}
      {k : Except PoolError Object -> ServiceProgram TaskOutput}
      {connectTimeout : Duration} {addr : SocketAddr}
      {rest : Except Elapsed (Except IoError Context) ->
        NetProgram (Except ManagerError ManagedConnection)}
      {err : IoError} :
      s.tasks[i]? = some task ->
      task.program = perform (.get pool) k ->
      task.phase = .creating (perform (.connect connectTimeout addr) rest) ->
      Step d s (.refused i err)
        (s.setTask i (task.enter (.creating (rest (.ok (.error err))))))
  | connectTimeout {s : State} {i : Nat} {task : Task} {pool : Pool}
      {k : Except PoolError Object -> ServiceProgram TaskOutput}
      {connectTimeout : Duration} {addr : SocketAddr}
      {rest : Except Elapsed (Except IoError Context) ->
        NetProgram (Except ManagerError ManagedConnection)} :
      s.tasks[i]? = some task ->
      task.program = perform (.get pool) k ->
      task.phase = .creating (perform (.connect connectTimeout addr) rest) ->
      Step d s (.connectTimeout i)
        (s.setTask i (task.enter (.creating (rest (.error .elapsed)))))
  | slept {s : State} {i : Nat} {task : Task} {pool : Pool}
      {k : Except PoolError Object -> ServiceProgram TaskOutput}
      {delay : Duration}
      {rest : Unit -> NetProgram (Except ManagerError ManagedConnection)} :
      s.tasks[i]? = some task ->
      task.program = perform (.get pool) k ->
      task.phase = .creating (perform (.sleep delay) rest) ->
      Step d s (.slept i) (s.setTask i (task.enter (.creating (rest ()))))
  | createOk {s : State} {i : Nat} {task : Task} {pool : Pool}
      {k : Except PoolError Object -> ServiceProgram TaskOutput}
      {connection : ManagedConnection} :
      s.tasks[i]? = some task ->
      task.program = perform (.get pool) k ->
      task.phase = .creating (ret (.ok connection)) ->
      Step d s (.created i)
        (s.setTask i (task.resume (.get pool) (.ok { pool, connection }) k))
  | createErr {s : State} {i : Nat} {task : Task} {pool : Pool}
      {k : Except PoolError Object -> ServiceProgram TaskOutput}
      {slots : PoolState} {err : ManagerError} :
      s.tasks[i]? = some task ->
      task.program = perform (.get pool) k ->
      task.phase = .creating (ret (.error err)) ->
      s.pools[pool.id]? = some slots ->
      Step d s (.created i)
        ((s.setPool pool.id slots.returnPermit).setTask i
          (task.resume (.get pool)
            (.error { cause := err, text := d.poolErrorText err }) k))
  | send {s : State} {i : Nat} {task : Task} {operationTimeout : Duration}
      {object : Object} {request : ModbusRequest}
      {k : CallResult request.Answer -> ServiceProgram TaskOutput} :
      s.tasks[i]? = some task ->
      task.program = perform (.call operationTimeout object request) k ->
      task.phase = .ready ->
      Step d s (.send i)
        ((s.setOutstanding object.connection.context.stream
            (s.outstanding object.connection.context.stream + 1)).setTask i
          (task.enter .inFlight))
  /-- The client takes the first frame of the stream for the reply, and a stale
  one fails the call as a protocol error: the call is answered only when no
  stale reply is ahead. -/
  | answer {s : State} {i : Nat} {task : Task} {operationTimeout : Duration}
      {object : Object} {request : ModbusRequest}
      {k : CallResult request.Answer -> ServiceProgram TaskOutput}
      {reply : ModbusReply} {result : Except ExceptionCode request.Answer} :
      s.tasks[i]? = some task ->
      task.program = perform (.call operationTimeout object request) k ->
      task.phase = .inFlight ->
      reply.answer request = some result ->
      s.stale object.connection.context.stream = 0 ->
      Step d s (.answer i reply)
        ((s.setOutstanding object.connection.context.stream
            (s.outstanding object.connection.context.stream - 1)).setTask i
          (task.resume (.call operationTimeout object request)
            (CallResult.replied result) k))
  | transportError {s : State} {i : Nat} {task : Task}
      {operationTimeout : Duration} {object : Object} {request : ModbusRequest}
      {k : CallResult request.Answer -> ServiceProgram TaskOutput}
      {err : ClientError} :
      s.tasks[i]? = some task ->
      task.program = perform (.call operationTimeout object request) k ->
      task.phase = .ready ∨ task.phase = .inFlight ->
      Step d s (.transportError i err)
        ((s.recordFailure object).setTask i
          (task.resume (.call operationTimeout object request)
            (CallResult.transport task.phase.isInFlight err) k))
  | operationTimeout {s : State} {i : Nat} {task : Task}
      {operationTimeout : Duration} {object : Object} {request : ModbusRequest}
      {k : CallResult request.Answer -> ServiceProgram TaskOutput} :
      s.tasks[i]? = some task ->
      task.program = perform (.call operationTimeout object request) k ->
      task.phase = .ready ∨ task.phase = .inFlight ->
      Step d s (.operationTimeout i)
        ((s.recordFailure object).setTask i
          (task.resume (.call operationTimeout object request)
            (CallResult.timedOut task.phase.isInFlight) k))
  | release {s : State} {i : Nat} {task : Task} {object : Object}
      {k : Unit -> ServiceProgram TaskOutput} {slots : PoolState} :
      s.tasks[i]? = some task ->
      task.program = perform (.release object) k ->
      task.phase = .ready ->
      s.pools[object.pool.id]? = some slots ->
      Step d s (.release i)
        ((s.setPool object.pool.id (slots.giveBack object.connection)).setTask i
          (task.resume (.release object) () k))
  | post {s : State} {i : Nat} {task : Task} {url : String}
      {payload : ConveyorCanPutdownWebhookPayload}
      {k : PostOutcome -> ServiceProgram TaskOutput} :
      s.tasks[i]? = some task ->
      task.program = perform (.post url payload) k ->
      task.phase = .ready ->
      Step d s (.post i) (s.setTask i (task.enter .posting))
  | posted {s : State} {i : Nat} {task : Task} {url : String}
      {payload : ConveyorCanPutdownWebhookPayload}
      {k : PostOutcome -> ServiceProgram TaskOutput} {outcome : PostOutcome} :
      s.tasks[i]? = some task ->
      task.program = perform (.post url payload) k ->
      task.phase = .posting ->
      Step d s (.posted i outcome)
        (s.setTask i (task.resume (.post url payload) outcome k))
  /-- A handler is dropped before or while it waits for a permit. -/
  | cancelWaiting {s : State} {i : Nat} {task : Task}
      {request : ConveyorRequest} {e : ServiceEffect}
      {k : e.Reply -> ServiceProgram TaskOutput} :
      s.tasks[i]? = some task ->
      task.kind = .handler request ->
      task.program = perform e k ->
      (exists address slaveId, e = .runtime address slaveId) ∨
        (exists pool, e = .get pool) ->
      task.phase = .ready ->
      Step d s (.cancel i) (s.setTask i (task.enter .dropped))
  /-- A handler is dropped inside `pool.get()`: its permit is free again, and a
  connection it was recycling or creating is discarded. -/
  | cancelGetting {s : State} {i : Nat} {task : Task}
      {request : ConveyorRequest} {pool : Pool}
      {k : Except PoolError Object -> ServiceProgram TaskOutput}
      {slots : PoolState} :
      s.tasks[i]? = some task ->
      task.kind = .handler request ->
      task.program = perform (.get pool) k ->
      task.phase ≠ .ready ->
      task.phase ≠ .dropped ->
      s.pools[pool.id]? = some slots ->
      Step d s (.cancel i)
        ((s.setPool pool.id slots.returnPermit).setTask i
          (task.enter .dropped))
  /-- A handler is dropped inside a Modbus call: the connection goes back to
  the pool as it is.  The device may have answered, or answer before the next
  call, any of the requests that nobody waits for now. -/
  | cancelCall {s : State} {i : Nat} {task : Task}
      {handled : ConveyorRequest} {operationTimeout : Duration}
      {object : Object} {request : ModbusRequest}
      {k : CallResult request.Answer -> ServiceProgram TaskOutput}
      {slots : PoolState} {count : Nat} :
      s.tasks[i]? = some task ->
      task.kind = .handler handled ->
      task.program = perform (.call operationTimeout object request) k ->
      task.phase = .ready ∨ task.phase = .inFlight ->
      s.pools[object.pool.id]? = some slots ->
      s.stale object.connection.context.stream ≤ count ->
      count ≤ s.outstanding object.connection.context.stream ->
      Step d s (.cancel i)
        (((s.setStale object.connection.context.stream count).setPool
          object.pool.id (slots.giveBack object.connection)).setTask i
            (task.enter .dropped))

def machine (d : Deployment) : Transition.System State Label where
  init s := s = State.initial d.modbus
  step := Step d

abbrev Reachable (d : Deployment) (s : State) : Prop :=
  (machine d).Reachable s

end ConveyorModbus
