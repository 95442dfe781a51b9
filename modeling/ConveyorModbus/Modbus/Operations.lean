import ConveyorModbus.Modbus.Runtime

/-!
# What an operation performs

The complete traces of the two Modbus operations.  Both look the runtime up and
ask its pool for a connection; with a connection they make one call under its
operation timeout and drop it, flagged as the result demands.
-/

namespace ConveyorModbus

open Effects Program

/-- The object after a call, with the flag as the result arms leave it. -/
def Object.afterCall {A : Type} (object : Object) (result : CallResult A) :
    Object :=
  if result.outcome.answered then object else object.markUnhealthy

namespace ModbusService

def connectionEvents (address : String) (slaveId : UInt8)
    (runtime : ModbusRuntime) (reply : Except PoolError Object) :
    List ServiceEvent :=
  [⟨.runtime address slaveId, runtime⟩, ⟨.get runtime.pool, reply⟩]

def callEvents (object : Object) (request : ModbusRequest)
    (result : CallResult request.Answer) : List ServiceEvent :=
  [⟨.call object.connection.operationTimeout object request, result⟩,
    ⟨.release (object.afterCall result), ()⟩]

def writeResult (address : String) (registerAddress value : UInt16) :
    CallOutcome Unit -> Except ModbusError Unit
  | .ok (.ok (.ok ())) => .ok ()
  | .ok (.ok (.error exception)) =>
      .error (.writeException address registerAddress value exception)
  | .ok (.error err) =>
      .error (.writeTransport address registerAddress value err)
  | .error _ =>
      .error
        (.writeTransport address registerAddress value "operation timeout")

def readResult (address : String) (registerAddress quantity : UInt16) :
    CallOutcome (List UInt16) -> Except ModbusError (List UInt16)
  | .ok (.ok (.ok values)) => .ok values
  | .ok (.ok (.error exception)) =>
      .error (.readException address registerAddress quantity exception)
  | .ok (.error err) =>
      .error (.readTransport address registerAddress quantity err)
  | .error _ =>
      .error
        (.readTransport address registerAddress quantity "operation timeout")

/-!
## One scheme for both operations
-/

/-- Yield a connection, call on it, drop it and finish with the outcome. -/
def operate {T : Type} (address : String) (slaveId : UInt8)
    (request : ModbusRequest)
    (finish : CallOutcome request.Answer -> Except ModbusError T) :
    ServiceProgram (Except ModbusError T) := do
  match <- connection address slaveId with
  | .error err => pure (.error err)
  | .ok object => do
      let result <- Service.call object.connection.operationTimeout object
        request
      Service.release (object.afterCall result)
      pure (finish result.outcome)

section Operations

variable (address : String) (slaveId : UInt8) (registerAddress : UInt16)

theorem writeSingleRegister_eq_operate (value : UInt16) :
    writeSingleRegister address slaveId registerAddress value =
      operate address slaveId (.writeSingleRegister registerAddress value)
        (writeResult address registerAddress value) := by
  unfold writeSingleRegister operate
  congr 1
  funext yielded
  cases yielded with
  | error err => rfl
  | ok object =>
      apply congrArg (perform _)
      funext result
      rcases result with ⟨sent, _ | _ | _ | _, hsent⟩ <;> rfl

theorem readHoldingRegisters_eq_operate (quantity : UInt16) :
    readHoldingRegisters address slaveId registerAddress quantity =
      operate address slaveId (.readHoldingRegisters registerAddress quantity)
        (readResult address registerAddress quantity) := by
  unfold readHoldingRegisters operate
  congr 1
  funext yielded
  cases yielded with
  | error err => rfl
  | ok object =>
      apply congrArg (perform _)
      funext result
      rcases result with ⟨sent, _ | _ | _ | _, hsent⟩ <;> rfl

end Operations

/-!
## Complete traces
-/

section Traces

variable {address : String} {slaveId : UInt8} {registerAddress : UInt16}
  {l : List ServiceEvent}

theorem connection_returns_iff {out : Except ModbusError Object} :
    Returns (connection address slaveId) l out <->
      exists runtime reply,
        l = connectionEvents address slaveId runtime reply ∧
        out = reply.mapError
          (fun err => ModbusError.connectionPool address err.text) := by
  unfold connection
  simp only [lift_bind, returns_perform_iff]
  constructor
  · intro h
    rcases h with ⟨runtime, rest, rfl, reply, tail, rfl, htail⟩
    cases reply with
    | ok object =>
        rcases returns_ret_iff.mp htail with ⟨rfl, rfl⟩
        exact ⟨runtime, .ok object, rfl, rfl⟩
    | error err =>
        rcases returns_ret_iff.mp htail with ⟨rfl, rfl⟩
        exact ⟨runtime, .error err, rfl, rfl⟩
  · intro h
    rcases h with ⟨runtime, reply, rfl, rfl⟩
    refine ⟨runtime, _, rfl, reply, [], rfl, ?_⟩
    cases reply <;> exact After.refl _

theorem operate_returns_iff {T : Type} {request : ModbusRequest}
    {finish : CallOutcome request.Answer -> Except ModbusError T}
    {out : Except ModbusError T} :
    Returns (operate address slaveId request finish) l out <->
      (exists runtime err,
        l = connectionEvents address slaveId runtime (.error err) ∧
        out = .error (.connectionPool address err.text)) ∨
      (exists runtime object result,
        l = connectionEvents address slaveId runtime (.ok object) ++
          callEvents object request result ∧
        out = finish result.outcome) := by
  unfold operate
  rw [returns_bind_iff]
  constructor
  · intro h
    rcases h with ⟨first, yielded, rest, rfl, hfirst, hrest⟩
    rcases connection_returns_iff.mp hfirst with ⟨runtime, reply, rfl, rfl⟩
    cases reply with
    | error err =>
        rcases returns_ret_iff.mp hrest with ⟨rfl, rfl⟩
        exact Or.inl ⟨runtime, err, List.append_nil _, rfl⟩
    | ok object =>
        rcases returns_perform_iff.mp hrest with ⟨result, tail, rfl, htail⟩
        rcases returns_perform_iff.mp htail with ⟨_, after, rfl, hafter⟩
        rcases returns_ret_iff.mp hafter with ⟨rfl, rfl⟩
        exact Or.inr ⟨runtime, object, result, rfl, rfl⟩
  · intro h
    rcases h with ⟨runtime, err, rfl, rfl⟩ | ⟨runtime, object, result, rfl, rfl⟩
    · exact ⟨_, _, [], (List.append_nil _).symm,
        connection_returns_iff.mpr ⟨runtime, .error err, rfl, rfl⟩,
        After.refl _⟩
    · exact ⟨_, _, _, rfl,
        connection_returns_iff.mpr ⟨runtime, .ok object, rfl, rfl⟩,
        After.step (After.step (After.refl _))⟩

end Traces

/-!
## Transport failures
-/

def isTransport : ModbusError -> Bool
  | .writeTransport _ _ _ _ => true
  | .readTransport _ _ _ _ => true
  | _ => false

/-- Write operations fail with a transport error exactly when no reply came. -/
theorem writeResult_transport (address : String)
    (registerAddress value : UInt16) (outcome : CallOutcome Unit) :
    (exists err, writeResult address registerAddress value outcome =
      .error err ∧ isTransport err = true) <-> outcome.answered = false := by
  rcases outcome with _ | _ | _ | _ <;>
    simp [writeResult, isTransport, CallOutcome.answered]

theorem readResult_transport (address : String)
    (registerAddress quantity : UInt16) (outcome : CallOutcome (List UInt16)) :
    (exists err, readResult address registerAddress quantity outcome =
      .error err ∧ isTransport err = true) <-> outcome.answered = false := by
  rcases outcome with _ | _ | _ | _ <;>
    simp [readResult, isTransport, CallOutcome.answered]

end ModbusService
end ConveyorModbus
