import ConveyorModbus.Library.Ledger
import ConveyorModbus.System.Plan
import ConveyorModbus.System.Replay
import ConveyorModbus.Web.Round

/-!
# What the tasks cost

A tariff prices the steps of the service.  A task is budgeted for the worst
replies to its program: every attempt to connect may fail, and the connection
it returns may have to be closed by a later borrower, which the task pays for
in advance.  No step then exceeds the budgets, so a run costs no more than the
tasks that were started in it.
-/

namespace ConveyorModbus

open Counting Effects Program

structure Tariff where
  start : Nat
  runtime : Nat
  acquire : Nat
  pop : Nat
  disconnected : Nat
  recycled : Nat
  connect : Nat
  sleep : Nat
  created : Nat
  send : Nat
  reply : Nat
  release : Nat
  post : Nat
  posted : Nat
  cancel : Nat
  deriving DecidableEq, Repr

namespace Tariff

variable (t : Tariff)

def price : Label -> Nat
  | .spawn _ => t.start
  | .startRound => t.start
  | .runtime _ => t.runtime
  | .acquire _ => t.acquire
  | .popIdle _ _ => t.pop
  | .popEmpty _ => t.pop
  | .disconnected _ _ => t.disconnected
  | .recycled _ => t.recycled
  | .connected _ => t.connect
  | .refused _ _ => t.connect
  | .connectTimeout _ => t.connect
  | .slept _ => t.sleep
  | .created _ => t.created
  | .send _ => t.send
  | .answer _ _ => t.reply
  | .transportError _ _ => t.reply
  | .operationTimeout _ => t.reply
  | .release _ => t.release
  | .post _ => t.post
  | .posted _ _ => t.posted
  | .cancel _ => t.cancel

/-!
## Budgets of the manager functions

`attempts` is the number of connection attempts of a pool manager.
-/

def netCost : NetEffect -> Nat
  | .connect _ _ => t.connect
  | .sleep _ => t.sleep
  | .disconnect _ => t.disconnected

/-- Every attempt fails, and all but the last are followed by the delay. -/
def opening (attempts : Nat) : Nat :=
  attempts * t.connect + (attempts - 1) * t.sleep

def popping (attempts : Nat) : Nat :=
  t.pop + max t.recycled (t.opening attempts + t.created)

def discard : Nat :=
  t.pop + t.disconnected + t.recycled

theorem connectLoop_costs (manager : ModbusManager) (socketAddr : SocketAddr)
    (attempt left : Nat) (lastError : Option String) :
    Costs t.netCost
      (manager.connectLoop socketAddr (attempt + left)
        (List.range' (attempt + 1) left) lastError)
      (t.opening left) := by
  induction left generalizing attempt lastError with
  | zero => trivial
  | succ left ih =>
      have hlast : attempt + (left + 1) = attempt + 1 + left := by omega
      have hrest := fun error => ih (attempt + 1) error
      rw [<- hlast] at hrest
      have hprice : t.opening (left + 1) =
          t.connect + (left * t.connect + left * t.sleep) := by
        simp only [opening, Nat.add_mul, Nat.add_sub_cancel]
        omega
      -- a failed attempt is followed by the delay when others are left
      have hfailed : forall error, Costs t.netCost (do
          if attempt + 1 < attempt + (left + 1) then
            Net.sleep manager.reconnectDelay
          manager.connectLoop socketAddr (attempt + (left + 1))
            (List.range' (attempt + 1 + 1) left) error)
          (left * t.connect + left * t.sleep) := by
        intro error
        by_cases hmore : attempt + 1 < attempt + (left + 1)
        · have hsleep : left * t.connect + left * t.sleep =
              t.sleep + t.opening left := by
            obtain ⟨before, rfl⟩ : exists before, left = before + 1 :=
              ⟨left - 1, by omega⟩
            simp only [opening, Nat.add_mul, Nat.add_sub_cancel]
            omega
          simp only [hmore, if_true, hsleep]
          exact Costs.perform_add t.netCost (fun _ => hrest error)
        · have hzero : left = 0 := by omega
          subst hzero
          simp only [hmore, if_false]
          trivial
      rw [hprice, List.range'_succ]
      refine Costs.perform_add t.netCost (fun outcome => ?_)
      rcases outcome with ⟨⟨⟩⟩ | message | context
      · exact hfailed (some "timeout")
      · exact hfailed (some message)
      · trivial

theorem create_costs (parse : String -> Option SocketAddr)
    (manager : ModbusManager) :
    Costs t.netCost (manager.create parse)
      (t.opening (max manager.maxConnectAttempts 1)) := by
  unfold ModbusManager.create
  cases manager.parseSocketAddr parse with
  | error err => trivial
  | ok socketAddr =>
      have h := t.connectLoop_costs manager socketAddr 0
        (max manager.maxConnectAttempts 1) none
      rw [Nat.zero_add] at h
      exact h

theorem recycle_costs (manager : ModbusManager) (conn : ManagedConnection) :
    Costs t.netCost (manager.recycle conn) t.disconnected := by
  unfold ModbusManager.recycle
  cases conn.status with
  | true => trivial
  | false => exact ⟨Nat.le_refl _, fun _ => trivial⟩

/-!
## Budgets of the tasks
-/

def debt (connection : ManagedConnection) : Nat :=
  if connection.status then 0 else t.discard

/-- The price of an effect at worst.  Returning an unhealthy connection
includes the price of discarding it. -/
def cost (attempts : Nat) : ServiceEffect -> Nat
  | .runtime _ _ => t.runtime
  | .get _ => t.acquire + t.popping attempts
  | .call _ _ _ => t.send + t.reply
  | .release object => t.release + t.debt object.connection
  | .post _ _ => t.post + t.posted

def operation (attempts : Nat) : Nat :=
  t.runtime + (t.acquire + t.popping attempts) + (t.send + t.reply) +
    (t.release + t.discard)

def webCost (attempts : Nat) : WebEffect -> Nat
  | .writeSingleRegister _ _ _ _ => t.operation attempts
  | .readHoldingRegisters _ _ _ _ => t.operation attempts
  | .post _ _ => t.post + t.posted

def handlerBudget (attempts : Nat) : Nat :=
  t.operation attempts + t.cancel

def roundBudget (attempts : Nat) (conveyor : ConveyorConfig) : Nat :=
  conveyor.polledChecks.length *
      (t.operation attempts + (t.post + t.posted)) + t.cancel

def budget (attempts : Nat) (conveyor : ConveyorConfig) : TaskKind -> Nat
  | .handler _ => t.handlerBudget attempts
  | .round => t.roundBudget attempts conveyor

section Programs

variable (attempts : Nat)

theorem release_costs_le (object : Object) :
    t.cost attempts (.release object) ≤ t.release + t.discard := by
  simp only [cost, debt]
  split <;> omega

theorem operate_costs {T : Type} (address : String) (slaveId : UInt8)
    (request : ModbusRequest)
    (finish : CallOutcome request.Answer -> Except ModbusError T) :
    Costs (t.cost attempts)
      (ModbusService.operate address slaveId request finish)
      (t.operation attempts) := by
  unfold operation
  rw [Nat.add_assoc, Nat.add_assoc]
  refine Costs.perform_add (t.cost attempts) (fun runtime => ?_)
  refine Costs.perform_add (t.cost attempts) (fun reply => ?_)
  cases reply with
  | error err => trivial
  | ok object =>
      refine Costs.perform_add (t.cost attempts) (fun result => ?_)
      exact ⟨t.release_costs_le attempts _, fun _ => trivial⟩

theorem serviceOps_costs (e : WebEffect) :
    Costs (t.cost attempts) (serviceOps e) (t.webCost attempts e) := by
  cases e with
  | writeSingleRegister address slaveId registerAddress value =>
      rw [serviceOps_writeSingleRegister]
      exact t.operate_costs attempts address slaveId _ _
  | readHoldingRegisters address slaveId registerAddress quantity =>
      rw [serviceOps_readHoldingRegisters]
      exact t.operate_costs attempts address slaveId _ _
  | post url payload => exact ⟨Nat.le_refl _, fun _ => trivial⟩

theorem handler_costs (conveyor : ConveyorConfig) (request : ConveyorRequest) :
    Costs (t.cost attempts) (taskProgram conveyor (.handler request))
      (t.operation attempts) := by
  cases hplan : request.plan conveyor with
  | none =>
      rcases handler_program_of_no_plan hplan with ⟨message, hprogram⟩
      rw [hprogram]
      trivial
  | some plan =>
      rw [handler_program_of_plan hplan]
      exact (t.operate_costs attempts plan.device plan.slaveId _ _).bind
        (n := 0) (fun _ => trivial)

theorem notify_costs (conveyor : ConveyorConfig) (check : ConveyorReadCheck)
    (values : List UInt16) :
    Costs (t.webCost attempts) (notifyCanPutdownWebhook conveyor check values)
      (t.post + t.posted) := by
  unfold notifyCanPutdownWebhook
  split
  · trivial
  · split
    · trivial
    · exact ⟨Nat.le_refl _, fun _ => trivial⟩

theorem pollCheck_costs (conveyor : ConveyorConfig)
    (check : ConveyorReadCheck) :
    Costs (t.webCost attempts) (pollCheck conveyor check)
      (t.operation attempts + (t.post + t.posted)) := by
  unfold pollCheck executeCanPutdownCheck
  split
  · refine Costs.perform_add (t.webCost attempts) (fun reply => ?_)
    cases reply with
    | error err => trivial
    | ok values =>
        show Costs (t.webCost attempts)
          (if shouldTriggerCanPutdownWebhook check values then
            notifyCanPutdownWebhook conveyor check values
          else
            pure ()) (t.post + t.posted)
        split
        · exact t.notify_costs attempts conveyor check values
        · trivial
  · trivial

theorem pollChecks_costs (conveyor : ConveyorConfig)
    (checks : List ConveyorReadCheck)
    (hnotify : forall check, check ∈ checks ->
      check.hookNotify.isSome = true) :
    Costs (t.webCost attempts) (pollChecks conveyor checks)
      ((checks.filter ConveyorReadCheck.polled).length *
        (t.operation attempts + (t.post + t.posted))) := by
  -- the induction is on the checks that are left in the round
  induction checks with
  | nil => trivial
  | cons check checks ih =>
      have hrest := ih (fun other hother =>
        hnotify other (List.mem_cons_of_mem check hother))
      cases hpolled : check.polled with
      | true =>
          rw [List.filter_cons_of_pos hpolled, List.length_cons, Nat.add_mul,
            Nat.one_mul, Nat.add_comm]
          exact (t.pollCheck_costs attempts conveyor check).bind
            (fun _ => hrest)
      | false =>
          rw [List.filter_cons_of_neg (by simp [hpolled]), pollChecks,
            pollCheck_of_not_polled (hnotify check List.mem_cons_self) hpolled]
          exact hrest

theorem round_costs (conveyor : ConveyorConfig) :
    Costs (t.cost attempts) (taskProgram conveyor .round)
      (conveyor.polledChecks.length *
        (t.operation attempts + (t.post + t.posted))) := by
  have hchecks := t.pollChecks_costs attempts conveyor _
    (round_checks_notify conveyor)
  rw [polledChecks_eq] at hchecks
  refine Costs.interp (t.serviceOps_costs attempts) ?_
  exact hchecks.bind (n := 0) (fun _ => trivial)

theorem task_costs (conveyor : ConveyorConfig) (kind : TaskKind) :
    exists n, Costs (t.cost attempts) (taskProgram conveyor kind) n ∧
      n + t.cancel = t.budget attempts conveyor kind := by
  cases kind with
  | handler request =>
      exact ⟨_, t.handler_costs attempts conveyor request, rfl⟩
  | round => exact ⟨_, t.round_costs attempts conveyor, rfl⟩

end Programs

end Tariff
end ConveyorModbus
