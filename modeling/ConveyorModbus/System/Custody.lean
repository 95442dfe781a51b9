import ConveyorModbus.System.Machine

/-!
# What a task holds

Between two calls of the web layer a task holds nothing.  Inside a Modbus
operation it first knows a runtime, then owns a connection fresh from the pool,
and after the call a connection it can only drop.  The discipline is a
typestate over the effects of a task, every operation of the service follows
it, and so does every task.
-/

namespace ConveyorModbus

open Effects Program

inductive Holding where
  | nothing
  | looked (runtime : ModbusRuntime)
  /-- owns a connection on which it has not called yet -/
  | fresh (object : Object)
  /-- owns a connection after the call on it -/
  | used (object : Object)
  deriving DecidableEq, Repr

namespace Holding

def Allowed : Holding -> ServiceEffect -> Prop
  | nothing, .runtime _ _ => True
  | nothing, .post _ _ => True
  | looked runtime, .get pool => pool = runtime.pool
  | fresh object, .call operationTimeout connection _ =>
      connection = object ∧
        operationTimeout = object.connection.operationTimeout
  | used object, .release connection => connection = object
  | _, _ => False

def next : Holding -> (e : ServiceEffect) -> e.Reply -> Holding
  | _, .runtime _ _, runtime => looked runtime
  | _, .get _, .ok object => fresh object
  | _, .get _, .error _ => nothing
  | _, .call _ object _, result => used (object.afterCall result)
  | _, .release _, _ => nothing
  | holding, .post _ _, _ => holding

end Holding

/-- The order in which a task takes and drops connections. -/
def custody : Typestate ServiceEffect ServiceEffect.Reply Holding where
  allowed := Holding.Allowed
  next := Holding.next

/-!
## The operations follow the discipline
-/

theorem operate_follows {T : Type} (address : String) (slaveId : UInt8)
    (request : ModbusRequest)
    (finish : CallOutcome request.Answer -> Except ModbusError T) :
    Follows custody (ModbusService.operate address slaveId request finish)
      .nothing (fun holding _ => holding = .nothing) := by
  unfold ModbusService.operate ModbusService.connection
  refine ⟨trivial, fun runtime => ⟨rfl, fun reply => ?_⟩⟩
  cases reply with
  | error err => exact rfl
  | ok object => exact ⟨⟨rfl, rfl⟩, fun result => ⟨rfl, fun _ => rfl⟩⟩

theorem serviceOps_follows (e : WebEffect) :
    Follows custody (serviceOps e) .nothing
      (fun holding _ => holding = .nothing) := by
  cases e with
  | writeSingleRegister address slaveId registerAddress value =>
      rw [serviceOps_writeSingleRegister]
      exact operate_follows address slaveId _ _
  | readHoldingRegisters address slaveId registerAddress quantity =>
      rw [serviceOps_readHoldingRegisters]
      exact operate_follows address slaveId _ _
  | post url payload => exact ⟨trivial, fun _ => rfl⟩

theorem taskProgram_follows (conveyor : ConveyorConfig) (kind : TaskKind) :
    Follows custody (taskProgram conveyor kind) .nothing
      (fun holding _ => holding = .nothing) :=
  follows_interp serviceOps_follows (webProgram conveyor kind)

/-!
## What the next effect says about the holding
-/

section Next

variable {p : ServiceProgram TaskOutput} {holding : Holding}
  {post : Holding -> TaskOutput -> Prop}

theorem holding_of_runtime {address : String} {slaveId : UInt8}
    {k : ModbusRuntime -> ServiceProgram TaskOutput}
    (h : Follows custody (perform (.runtime address slaveId) k) holding post) :
    holding = .nothing := by
  cases holding with
  | nothing => rfl
  | looked runtime => exact h.left.elim
  | fresh object => exact h.left.elim
  | used object => exact h.left.elim

theorem holding_of_post {url : String}
    {payload : ConveyorCanPutdownWebhookPayload}
    {k : PostOutcome -> ServiceProgram TaskOutput}
    (h : Follows custody (perform (.post url payload) k) holding post) :
    holding = .nothing := by
  cases holding with
  | nothing => rfl
  | looked runtime => exact h.left.elim
  | fresh object => exact h.left.elim
  | used object => exact h.left.elim

theorem holding_of_get {pool : Pool}
    {k : Except PoolError Object -> ServiceProgram TaskOutput}
    (h : Follows custody (perform (.get pool) k) holding post) :
    exists runtime, holding = .looked runtime ∧ runtime.pool = pool := by
  cases holding with
  | nothing => exact h.left.elim
  | looked runtime => exact ⟨runtime, rfl, h.left.symm⟩
  | fresh object => exact h.left.elim
  | used object => exact h.left.elim

theorem holding_of_call {operationTimeout : Duration} {object : Object}
    {request : ModbusRequest}
    {k : CallResult request.Answer -> ServiceProgram TaskOutput}
    (h : Follows custody (perform (.call operationTimeout object request) k)
      holding post) : holding = .fresh object := by
  cases holding with
  | nothing => exact h.left.elim
  | looked runtime => exact h.left.elim
  | fresh owned => exact congrArg Holding.fresh h.left.left.symm
  | used owned => exact h.left.elim

theorem holding_of_release {object : Object}
    {k : Unit -> ServiceProgram TaskOutput}
    (h : Follows custody (perform (.release object) k) holding post) :
    holding = .used object := by
  cases holding with
  | nothing => exact h.left.elim
  | looked runtime => exact h.left.elim
  | fresh owned => exact h.left.elim
  | used owned => exact congrArg Holding.used h.left.symm

end Next

/-!
## What the holding says about the next effect
-/

section Head

variable {p : ServiceProgram TaskOutput}

abbrev Disciplined (p : ServiceProgram TaskOutput) (holding : Holding) : Prop :=
  Follows custody p holding (fun final _ => final = .nothing)

theorem head_of_looked {runtime : ModbusRuntime}
    (h : Disciplined p (.looked runtime)) :
    exists k, p = perform (.get runtime.pool) k := by
  cases p with
  | ret output => cases h
  | perform e k =>
      cases e with
      | get pool =>
          have hpool : pool = runtime.pool := h.left
          subst hpool
          exact ⟨k, rfl⟩
      | runtime address slaveId => exact h.left.elim
      | call operationTimeout object request => exact h.left.elim
      | release object => exact h.left.elim
      | post url payload => exact h.left.elim

theorem head_of_fresh {object : Object} (h : Disciplined p (.fresh object)) :
    exists request k, p = perform
      (.call object.connection.operationTimeout object request) k := by
  cases p with
  | ret output => cases h
  | perform e k =>
      cases e with
      | call operationTimeout connection request =>
          rcases h.left with ⟨rfl, rfl⟩
          exact ⟨request, k, rfl⟩
      | get pool => exact h.left.elim
      | runtime address slaveId => exact h.left.elim
      | release object => exact h.left.elim
      | post url payload => exact h.left.elim

theorem head_of_used {object : Object} (h : Disciplined p (.used object)) :
    exists k, p = perform (.release object) k := by
  cases p with
  | ret output => cases h
  | perform e k =>
      cases e with
      | release connection =>
          have hobject : connection = object := h.left
          subst hobject
          exact ⟨k, rfl⟩
      | get pool => exact h.left.elim
      | runtime address slaveId => exact h.left.elim
      | call operationTimeout object request => exact h.left.elim
      | post url payload => exact h.left.elim

theorem head_of_nothing (h : Disciplined p .nothing) :
    (exists output, p = ret output) ∨
      (exists address slaveId k, p = perform (.runtime address slaveId) k) ∨
      (exists url payload k, p = perform (.post url payload) k) := by
  cases p with
  | ret output => exact Or.inl ⟨output, rfl⟩
  | perform e k =>
      cases e with
      | runtime address slaveId => exact Or.inr (Or.inl ⟨address, slaveId, k, rfl⟩)
      | post url payload => exact Or.inr (Or.inr ⟨url, payload, k, rfl⟩)
      | get pool => exact h.left.elim
      | call operationTimeout object request => exact h.left.elim
      | release object => exact h.left.elim

end Head

end ConveyorModbus
