import ConveyorModbus.System.Budgets

/-!
# The work of a run

Two ledgers over the budgets: one for all tasks together and one for a single
task.  With a price of one on every step the first bounds the length of a run
by what was started in it; with a price on sending only, the second bounds the
requests a task puts on the wire.
-/

namespace ConveyorModbus

open Counting Effects Program

def Label.starts : Label -> Option TaskKind
  | spawn request => some (.handler request)
  | startRound => some .round
  | _ => none

section Starts

variable {d : Deployment} {s s' : State} {l : Label}

theorem task_of_starts {kind : TaskKind} (h : l.starts = some kind) :
    l.task = none := by
  cases l <;> first | rfl | cases h

theorem step_starts (hstep : Step d s l s') (hl : l.task = none) :
    exists kind, l.starts = some kind ∧
      s' = s.addTask (Task.start d.conveyor kind) := by
  cases hstep
  case spawn => exact ⟨_, rfl, rfl⟩
  case startRound => exact ⟨_, rfl, rfl⟩
  all_goals cases hl

theorem price_of_starts {kind : TaskKind} (h : l.starts = some kind)
    (t : Tariff) : t.price l = t.start := by
  cases l <;> first | rfl | cases h

theorem length_tasks_le (hstep : Step d s l s') :
    s.tasks.length ≤ s'.tasks.length := by
  cases hstep <;>
    simp [State.addTask, State.setTask, State.setPool, State.addPool,
      State.openStream, State.setOutstanding, State.setStale,
      State.recordFailure]

end Starts

/-!
## All tasks together
-/

namespace Tariff

variable (t : Tariff) (d : Deployment)

def income (l : Label) : Nat :=
  match l.starts with
  | some kind =>
      t.start + t.budget d.modbus.clampedMaxConnectAttempts d.conveyor kind
  | none => 0

theorem ledger : (machine d).Ledger
    (t.Funds d.modbus.clampedMaxConnectAttempts (fun _ => true)) t.price
    (t.income d) where
  step := by
    intro s l s' n hs hfunds hstep
    cases hl : l.task with
    | some i =>
        rcases funds_step (reachable_wired hs) (fun h => Bool.noConfusion h)
          hfunds hstep hl with ⟨m, hm, hle⟩
        simp only [if_true] at hle
        exact ⟨m, hm, by omega⟩
    | none =>
        rcases step_starts hstep hl with ⟨kind, hkind, rfl⟩
        refine ⟨_, hfunds.start d.conveyor kind (fun _ => Nat.le_refl _), ?_⟩
        rw [price_of_starts hkind, income, hkind]
        simp only
        omega

theorem funds_initial (attempts : Nat) (watched : Nat -> Bool) :
    t.Funds attempts watched (State.initial d.modbus) 0 := by
  refine ⟨[], rfl, ?_, Nat.le_refl _⟩
  intro i task m _ htask
  cases htask

theorem run_cost_le {s : State} {ls : List Label}
    (hrun : (machine d).Run (State.initial d.modbus) ls s) :
    total t.price ls ≤ total (t.income d) ls := by
  have hpaid := (t.ledger d).paid_le (Transition.System.Reachable.init rfl)
    (t.funds_initial d _ _) hrun
  omega

/-!
## One task
-/

def priceOf (i : Nat) (l : Label) : Nat :=
  if l.task = some i then t.price l else 0

/-- Without a price on discarding, a task is not charged for the others. -/
theorem ledger_of (hfree : t.discard = 0) (i : Nat) : (machine d).Ledger
    (fun s n => i < s.tasks.length ∧
      t.Funds d.modbus.clampedMaxConnectAttempts (fun j => j == i) s n)
    (t.priceOf i) (fun _ => 0) where
  step := by
    rintro s l s' n hs ⟨hlt, hfunds⟩ hstep
    have hlonger := length_tasks_le hstep
    cases hl : l.task with
    | some j =>
        rcases funds_step (reachable_wired hs) (fun _ => hfree) hfunds hstep hl
          with ⟨m, hm, hle⟩
        refine ⟨m, ⟨by omega, hm⟩, ?_⟩
        simp only [priceOf, hl, Option.some.injEq]
        simp only [beq_iff_eq] at hle
        omega
    | none =>
        rcases step_starts hstep hl with ⟨kind, _, rfl⟩
        refine ⟨_, ⟨by omega, hfunds.start (m := 0) d.conveyor kind ?_⟩, ?_⟩
        · intro hnew
          rw [beq_iff_eq] at hnew
          omega
        · simp only [priceOf, hl]
          exact Nat.le_refl _

theorem funds_started (hfree : t.discard = 0) (attempts : Nat) (s : State)
    (conveyor : ConveyorConfig) (kind : TaskKind) :
    t.Funds attempts (fun j => j == s.tasks.length)
      (s.addTask (Task.start conveyor kind))
      (t.budget attempts conveyor kind) := by
  have hnone : t.Funds attempts (fun j => j == s.tasks.length) s 0 := by
    refine ⟨List.replicate s.tasks.length 0, by simp, ?_, ?_⟩
    · intro i task m hi htask
      have hlt := (List.getElem?_eq_some_iff.mp htask).1
      rw [beq_iff_eq] at hi
      omega
    · rw [debts_eq_zero hfree]
      simp [total]
  have h := hnone.start conveyor kind (fun _ => Nat.le_refl _)
  rwa [Nat.zero_add] at h

theorem task_cost_le (hfree : t.discard = 0) {s s' : State} {l : Label}
    {ls : List Label} {kind : TaskKind} (hs : Reachable d s)
    (hl : l.starts = some kind) (hrun : (machine d).Run s (l :: ls) s') :
    total (t.priceOf s.tasks.length) ls ≤
      t.budget d.modbus.clampedMaxConnectAttempts d.conveyor kind := by
  cases hrun with
  | cons hstep hrest =>
      have hnext := Transition.System.Reachable.step hs hstep
      rcases step_starts hstep (task_of_starts hl) with ⟨started, hkind, rfl⟩
      rw [hl, Option.some.injEq] at hkind
      subst hkind
      have hlt : s.tasks.length <
          (s.addTask (Task.start d.conveyor kind)).tasks.length := by
        simp [State.addTask]
      have hpaid := (t.ledger_of d hfree s.tasks.length).paid_le hnext
        ⟨hlt, t.funds_started hfree _ s d.conveyor kind⟩ hrest
      have hnone : total (fun _ : Label => 0) ls = 0 :=
        total_eq_zero (fun _ _ => rfl)
      omega

end Tariff

/-!
## The length of a run
-/

def stepTariff : Tariff where
  start := 1
  runtime := 1
  acquire := 1
  pop := 1
  disconnected := 1
  recycled := 1
  connect := 1
  sleep := 1
  created := 1
  send := 1
  reply := 1
  release := 1
  post := 1
  posted := 1
  cancel := 1

theorem stepTariff_price (l : Label) : stepTariff.price l = 1 := by
  cases l <;> rfl

theorem total_stepTariff (ls : List Label) :
    total stepTariff.price ls = ls.length := by
  induction ls with
  | nil => rfl
  | cons l ls ih =>
      rw [total_cons, stepTariff_price, ih, List.length_cons]
      omega

theorem stepTariff_operation {attempts : Nat} (hpos : 0 < attempts) :
    stepTariff.operation attempts = 2 * attempts + 9 := by
  simp only [Tariff.operation, Tariff.popping, Tariff.opening, Tariff.discard,
    stepTariff]
  omega

def Label.isSpawn : Label -> Bool
  | spawn _ => true
  | _ => false

def Label.isStartRound : Label -> Bool
  | startRound => true
  | _ => false

theorem attempts_pos (config : ModbusConfig) :
    0 < config.clampedMaxConnectAttempts :=
  Nat.lt_of_lt_of_le Nat.one_pos (Nat.le_max_right _ _)

theorem stepTariff_income (d : Deployment) (ls : List Label) :
    total (stepTariff.income d) ls =
      ls.countP Label.isSpawn *
          (2 * d.modbus.clampedMaxConnectAttempts + 11) +
        ls.countP Label.isStartRound *
          (d.conveyor.polledChecks.length *
            (2 * d.modbus.clampedMaxConnectAttempts + 11) + 2) := by
  have hoperation := stepTariff_operation (attempts_pos d.modbus)
  induction ls with
  | nil => simp
  | cons l ls ih =>
      rw [total_cons, ih, List.countP_cons, List.countP_cons, Nat.add_mul,
        Nat.add_mul]
      cases l
      case spawn request =>
        simp only [Tariff.income, Label.starts, Tariff.budget,
          Tariff.handlerBudget, hoperation, Label.isSpawn, Label.isStartRound]
        simp only [stepTariff, if_true, Bool.false_eq_true, if_false]
        omega
      case startRound =>
        have hcheck : 2 * d.modbus.clampedMaxConnectAttempts + 9 + (1 + 1) =
            2 * d.modbus.clampedMaxConnectAttempts + 11 := by omega
        simp only [Tariff.income, Label.starts, Tariff.budget,
          Tariff.roundBudget, hoperation, Label.isSpawn, Label.isStartRound]
        simp only [stepTariff, if_true, Bool.false_eq_true, if_false, hcheck]
        omega
      all_goals
        simp [Tariff.income, Label.starts, Label.isSpawn, Label.isStartRound]

/-- The work per request is bounded, whatever devices and clients do. -/
theorem run_length_le (d : Deployment) (s : State) (ls : List Label)
    (hrun : (machine d).Run (State.initial d.modbus) ls s) :
    ls.length ≤
      ls.countP Label.isSpawn *
          (2 * d.modbus.clampedMaxConnectAttempts + 11) +
        ls.countP Label.isStartRound *
          (d.conveyor.polledChecks.length *
            (2 * d.modbus.clampedMaxConnectAttempts + 11) + 2) := by
  have hpaid := stepTariff.run_cost_le d hrun
  rw [total_stepTariff, stepTariff_income] at hpaid
  exact hpaid

theorem run_length_le_line :
    exists s, (machine lineDeployment).Run
        (State.initial lineDeployment.modbus) writeLabels s ∧
      writeLabels.length ≤ 17 := by
  have hreplay : (replay lineDeployment (State.initial lineDeployment.modbus)
      writeLabels).any (fun _ => true) = true := by
    decide
  rcases exists_of_replay hreplay with ⟨s, hs, _⟩
  exact ⟨s, replay_run hs,
    run_length_le lineDeployment s writeLabels (replay_run hs)⟩

/-!
## The requests of a task
-/

/-- Only sending a request costs. -/
def sendTariff : Tariff where
  start := 0
  runtime := 0
  acquire := 0
  pop := 0
  disconnected := 0
  recycled := 0
  connect := 0
  sleep := 0
  created := 0
  send := 1
  reply := 0
  release := 0
  post := 0
  posted := 0
  cancel := 0

def Label.sends (i : Nat) : Label -> Bool
  | send j => j == i
  | _ => false

/-- A handler makes one Modbus call, a round one for each check it polls. -/
def TaskKind.requests (conveyor : ConveyorConfig) : TaskKind -> Nat
  | handler _ => 1
  | round => conveyor.polledChecks.length

theorem sendTariff_budget (attempts : Nat) (conveyor : ConveyorConfig)
    (kind : TaskKind) :
    sendTariff.budget attempts conveyor kind = kind.requests conveyor := by
  cases kind <;>
    simp [Tariff.budget, Tariff.handlerBudget, Tariff.roundBudget,
      Tariff.operation, Tariff.popping, Tariff.opening, Tariff.discard,
      sendTariff, TaskKind.requests]

theorem sendTariff_priceOf (i : Nat) (ls : List Label) :
    total (sendTariff.priceOf i) ls =
      ls.countP (Label.sends i) := by
  induction ls with
  | nil => rfl
  | cons l ls ih =>
      rw [total_cons, ih, List.countP_cons, Nat.add_comm]
      congr 1
      cases l <;>
        simp [Tariff.priceOf, Tariff.price, sendTariff, Label.task, Label.sends]

theorem sends_le (d : Deployment) (s s' : State) (l : Label)
    (ls : List Label) (kind : TaskKind) (hs : Reachable d s)
    (hl : l.starts = some kind) (hrun : (machine d).Run s (l :: ls) s') :
    ls.countP (Label.sends s.tasks.length) ≤ kind.requests d.conveyor := by
  have hpaid := sendTariff.task_cost_le d rfl hs hl hrun
  rw [sendTariff_budget, sendTariff_priceOf] at hpaid
  exact hpaid

end ConveyorModbus
