import ConveyorModbus.System.Tariff
import ConveyorModbus.System.Wiring

/-!
# No step exceeds the budgets

What is set aside for a task covers the effect it is in and the worst that can
follow.  Every idle connection that a borrower will have to discard is covered
too, by what the task that broke it has left behind.  Each step pays its price
out of these funds.
-/

namespace ConveyorModbus

open Counting Effects Program

namespace Tariff

variable (t : Tariff) (attempts : Nat)

/-!
## Funds of a task
-/

/-- `n` covers what is left of the effect in this phase. -/
def PhaseFunds (e : ServiceEffect) : Phase -> Nat -> Prop
  | .ready, n => t.cost attempts e ≤ n
  | .popping, n => t.popping attempts ≤ n
  | .recycling connection rest, n =>
      if connection.status then
        t.recycled ≤ n
      else
        exists m, Costs t.netCost rest m ∧
          m + t.recycled + t.popping attempts ≤ n
  | .creating rest, n => exists m, Costs t.netCost rest m ∧ m + t.created ≤ n
  | .inFlight, n => t.reply ≤ n
  | .posting, n => t.posted ≤ n
  | .dropped, _ => False

def TaskFunds (task : Task) (n : Nat) : Prop :=
  match task.program with
  | ret _ => True
  | perform e k =>
      task.phase = .dropped ∨
        exists m left, t.PhaseFunds attempts e task.phase m ∧
          (forall r, Costs (t.cost attempts) (k r) left) ∧
          m + left + t.cancel ≤ n

section Task

variable {t attempts} {task : Task} {e : ServiceEffect}
  {k : e.Reply -> ServiceProgram TaskOutput} {n : Nat}

theorem taskFunds_of_costs (hphase : task.phase = .ready)
    (hcosts : Costs (t.cost attempts) task.program n) :
    t.TaskFunds attempts task (n + t.cancel) := by
  unfold TaskFunds
  cases hprogram : task.program with
  | ret output => trivial
  | perform e k =>
      rw [hprogram] at hcosts
      rcases hcosts with ⟨hcost, hrest⟩
      refine Or.inr ⟨t.cost attempts e, n - t.cost attempts e, ?_, hrest, ?_⟩
      · rw [hphase]
        exact Nat.le_refl _
      · omega

theorem taskFunds_start (conveyor : ConveyorConfig) (kind : TaskKind) :
    t.TaskFunds attempts (Task.start conveyor kind)
      (t.budget attempts conveyor kind) := by
  rcases t.task_costs attempts conveyor kind with ⟨n, hcosts, hbudget⟩
  rw [<- hbudget]
  exact taskFunds_of_costs rfl hcosts

theorem TaskFunds.inside (h : t.TaskFunds attempts task n)
    (hprogram : task.program = perform e k) (hdropped : task.phase ≠ .dropped) :
    exists m left, t.PhaseFunds attempts e task.phase m ∧
      (forall r, Costs (t.cost attempts) (k r) left) ∧
      m + left + t.cancel ≤ n := by
  unfold TaskFunds at h
  rw [hprogram] at h
  rcases h with hphase | hfunds
  · exact absurd hphase hdropped
  · exact hfunds

theorem TaskFunds.mono (h : t.TaskFunds attempts task n) {m : Nat}
    (hle : n ≤ m) : t.TaskFunds attempts task m := by
  unfold TaskFunds at h ⊢
  cases hprogram : task.program with
  | ret output => trivial
  | perform e k =>
      rw [hprogram] at h
      rcases h with hdropped | ⟨spent, left, hphase, hleft, hsum⟩
      · exact Or.inl hdropped
      · exact Or.inr ⟨spent, left, hphase, hleft, Nat.le_trans hsum hle⟩

theorem TaskFunds.enter (h : t.TaskFunds attempts task n)
    (hprogram : task.program = perform e k) (hdropped : task.phase ≠ .dropped)
    {phase : Phase} {price gain : Nat}
    (hpay : forall m, t.PhaseFunds attempts e task.phase m ->
      exists m', t.PhaseFunds attempts e phase m' ∧ m' + price ≤ m + gain) :
    exists n', t.TaskFunds attempts (task.enter phase) n' ∧
      n' + price ≤ n + gain := by
  rcases h.inside hprogram hdropped with ⟨m, left, hphase, hleft, hle⟩
  rcases hpay m hphase with ⟨m', hnext, hpaid⟩
  refine ⟨m' + left + t.cancel, ?_, by omega⟩
  unfold TaskFunds
  rw [show (task.enter phase).program = perform e k from hprogram]
  exact Or.inr ⟨m', left, hnext, hleft, Nat.le_refl _⟩

theorem TaskFunds.resume (h : t.TaskFunds attempts task n)
    (hprogram : task.program = perform e k) (hdropped : task.phase ≠ .dropped)
    {price : Nat}
    (hpay : forall m, t.PhaseFunds attempts e task.phase m -> price ≤ m)
    (r : e.Reply) :
    exists n', t.TaskFunds attempts (task.resume e r k) n' ∧
      n' + price ≤ n := by
  rcases h.inside hprogram hdropped with ⟨m, left, hphase, hleft, hle⟩
  have hpaid := hpay m hphase
  refine ⟨left + t.cancel, ?_, by omega⟩
  exact taskFunds_of_costs rfl (hleft r)

theorem TaskFunds.drop (h : t.TaskFunds attempts task n)
    (hprogram : task.program = perform e k)
    (hdropped : task.phase ≠ .dropped) :
    exists n', t.TaskFunds attempts (task.enter .dropped) n' ∧
      n' + t.cancel ≤ n := by
  rcases h.inside hprogram hdropped with ⟨m, left, _, _, hle⟩
  refine ⟨0, ?_, by omega⟩
  unfold TaskFunds
  rw [show (task.enter .dropped).program = perform e k from hprogram]
  exact Or.inl rfl

end Task

/-!
## Funds of a state
-/

def debts (s : State) : Nat :=
  total (fun slots => total t.debt slots.idle) s.pools

/-- `n` covers what is left of the watched tasks and of the idle connections. -/
def Funds (watched : Nat -> Bool) (s : State) (n : Nat) : Prop :=
  exists purses : List Nat, purses.length = s.tasks.length ∧
    (forall (i : Nat) (task : Task) (m : Nat), watched i = true ->
      s.tasks[i]? = some task -> purses[i]? = some m ->
        t.TaskFunds attempts task m) ∧
    total id purses + t.debts s ≤ n

section State

variable {t attempts} {watched : Nat -> Bool} {s u : State} {i : Nat}
  {task task' : Task} {n price : Nat}

theorem debts_setPool {p : Nat} {slots : PoolState}
    (hslots : s.pools[p]? = some slots) (slots' : PoolState) :
    t.debts (s.setPool p slots') + total t.debt slots.idle =
      t.debts s + total t.debt slots'.idle :=
  total_set (fun slots : PoolState => total t.debt slots.idle) hslots slots'

@[simp] theorem debts_setTask (i : Nat) (task : Task) :
    t.debts (s.setTask i task) = t.debts s := rfl

theorem debts_eq_zero (hfree : t.discard = 0) (s : State) : t.debts s = 0 := by
  refine total_eq_zero (fun slots _ => total_eq_zero (fun connection _ => ?_))
  unfold debt
  rw [hfree]
  exact ite_self 0

/-- One task moves.  What it pays goes to the price and to the connections. -/
theorem Funds.move (h : t.Funds attempts watched s n)
    (htask : s.tasks[i]? = some task) (htasks : u.tasks = s.tasks)
    (hfree : watched i = false -> t.discard = 0)
    (hmove : forall m, t.TaskFunds attempts task m ->
      exists m', t.TaskFunds attempts task' m' ∧
        m' + price + t.debts u ≤ m + t.debts s) :
    exists m, t.Funds attempts watched (u.setTask i task') m ∧
      m + (if watched i then price else 0) ≤ n := by
  rcases h with ⟨purses, hlength, hpurses, hle⟩
  have hlt : i < purses.length := by
    rw [hlength]
    exact (List.getElem?_eq_some_iff.mp htask).1
  have hpurse : purses[i]? = some purses[i] := List.getElem?_eq_getElem hlt
  have hsame : (u.setTask i task').tasks = s.tasks.set i task' := by
    rw [State.setTask, htasks]
  cases hwatched : watched i with
  | false =>
      refine ⟨n, ⟨purses, ?_, ?_, ?_⟩, Nat.le_refl _⟩
      · rw [hsame, List.length_set]
        exact hlength
      · intro j other m hj hother hm
        rw [hsame, getElem?_set_of_some htask] at hother
        have hne : j ≠ i := by
          rintro rfl
          rw [hwatched] at hj
          cases hj
        rw [if_neg hne] at hother
        exact hpurses j other m hj hother hm
      · rw [debts_setTask, debts_eq_zero (hfree hwatched)]
        omega
  | true =>
      rcases hmove _ (hpurses i task _ hwatched htask hpurse) with
        ⟨m', hfunds, hpaid⟩
      have hset := total_set id hpurse m'
      simp only [id] at hset
      refine ⟨total id (purses.set i m') + t.debts u,
        ⟨purses.set i m', ?_, ?_, Nat.le_refl _⟩, ?_⟩
      · rw [hsame, List.length_set, List.length_set]
        exact hlength
      · intro j other m hj hother hm
        rw [hsame, getElem?_set_of_some htask] at hother
        rw [getElem?_set_of_some hpurse] at hm
        by_cases hji : j = i
        · rw [if_pos hji, Option.some.injEq] at hother hm
          rw [<- hother, <- hm]
          exact hfunds
        · rw [if_neg hji] at hother hm
          exact hpurses j other m hj hother hm
      · simp only [if_true]
        omega

theorem Funds.start (h : t.Funds attempts watched s n) (conveyor : ConveyorConfig)
    (kind : TaskKind) {m : Nat}
    (hbudget : watched s.tasks.length = true ->
      t.budget attempts conveyor kind ≤ m) :
    t.Funds attempts watched (s.addTask (Task.start conveyor kind)) (n + m) := by
  rcases h with ⟨purses, hlength, hpurses, hle⟩
  refine ⟨purses ++ [m], ?_, ?_, ?_⟩
  · simp [State.addTask, hlength]
  · intro i task purse hi htask hpurse
    rcases getElem?_concat_cases htask with hold | ⟨hnew, rfl⟩
    · rcases getElem?_concat_cases hpurse with hkept | ⟨hlast, _⟩
      · exact hpurses i task purse hi hold hkept
      · have hlt := (List.getElem?_eq_some_iff.mp hold).1
        omega
    · rw [hnew, <- hlength, List.getElem?_concat_length,
        Option.some.injEq] at hpurse
      rw [<- hpurse]
      rw [hnew] at hi
      exact (taskFunds_start conveyor kind).mono (hbudget hi)
  · have hsame : t.debts (s.addTask (Task.start conveyor kind)) = t.debts s := rfl
    rw [total_append, total_cons, total_nil, hsame]
    simp only [id]
    omega

end State

/-!
## Steps
-/

section Steps

variable {t attempts} {d : Deployment} {watched : Nat -> Bool} {s u : State} {i : Nat}
  {task : Task} {n price : Nat} {e : ServiceEffect}
  {k : e.Reply -> ServiceProgram TaskOutput}

theorem Funds.enter (h : t.Funds attempts watched s n) (gain : Nat)
    (htask : s.tasks[i]? = some task) (htasks : u.tasks = s.tasks)
    (hfree : watched i = false -> t.discard = 0)
    (hprogram : task.program = perform e k) (hdropped : task.phase ≠ .dropped)
    {phase : Phase} (hdebts : t.debts u + gain = t.debts s)
    (hpay : forall m, t.PhaseFunds attempts e task.phase m ->
      exists m', t.PhaseFunds attempts e phase m' ∧ m' + price ≤ m + gain) :
    exists m, t.Funds attempts watched (u.setTask i (task.enter phase)) m ∧
      m + (if watched i then price else 0) ≤ n := by
  refine h.move htask htasks hfree (fun m hm => ?_)
  rcases hm.enter hprogram hdropped hpay with ⟨m', hnext, hle⟩
  exact ⟨m', hnext, by omega⟩

theorem Funds.resume (h : t.Funds attempts watched s n) (left : Nat)
    (htask : s.tasks[i]? = some task) (htasks : u.tasks = s.tasks)
    (hfree : watched i = false -> t.discard = 0)
    (hprogram : task.program = perform e k) (hdropped : task.phase ≠ .dropped)
    {r : e.Reply} (hdebts : t.debts u = t.debts s + left)
    (hpay : forall m, t.PhaseFunds attempts e task.phase m ->
      price + left ≤ m) :
    exists m, t.Funds attempts watched (u.setTask i (task.resume e r k)) m ∧
      m + (if watched i then price else 0) ≤ n := by
  refine h.move htask htasks hfree (fun m hm => ?_)
  rcases hm.resume hprogram hdropped hpay r with ⟨m', hnext, hle⟩
  exact ⟨m', hnext, by omega⟩

theorem Funds.drop (h : t.Funds attempts watched s n)
    (htask : s.tasks[i]? = some task) (htasks : u.tasks = s.tasks)
    (hfree : watched i = false -> t.discard = 0)
    (hprogram : task.program = perform e k) (hdropped : task.phase ≠ .dropped)
    (hdebts : t.debts u = t.debts s) :
    exists m, t.Funds attempts watched (u.setTask i (task.enter .dropped)) m ∧
      m + (if watched i then t.cancel else 0) ≤ n := by
  refine h.move htask htasks hfree (fun m hm => ?_)
  rcases hm.drop hprogram hdropped with ⟨m', hnext, hle⟩
  exact ⟨m', hnext, by omega⟩

theorem debts_same {p : Nat} {slots slots' : PoolState}
    (hslots : s.pools[p]? = some slots) (hidle : slots'.idle = slots.idle) :
    t.debts (s.setPool p slots') = t.debts s := by
  have hset := debts_setPool (t := t) hslots slots'
  rw [hidle] at hset
  omega

theorem debts_giveBack {p : Nat} {slots : PoolState}
    (hslots : s.pools[p]? = some slots) (connection : ManagedConnection) :
    t.debts (s.setPool p (slots.giveBack connection)) =
      t.debts s + t.debt connection := by
  have hset := debts_setPool (t := t) hslots (slots.giveBack connection)
  simp only [PoolState.giveBack, total_append, total_cons, total_nil] at hset
  simp only [PoolState.giveBack]
  omega

theorem debts_removeIdle {p m : Nat} {slots : PoolState}
    {connection : ManagedConnection} (hslots : s.pools[p]? = some slots)
    (hidle : slots.idle[m]? = some connection) :
    t.debts (s.setPool p (slots.removeIdle m)) + t.debt connection =
      t.debts s := by
  have hset := debts_setPool (t := t) hslots (slots.removeIdle m)
  have herase := total_eraseIdx t.debt hidle
  simp only [PoolState.removeIdle] at hset ⊢
  omega

theorem debts_addPool (service : ModbusService) (pool : Pool) :
    t.debts (s.addPool service (PoolState.build pool)) = t.debts s := by
  simp [debts, State.addPool, PoolState.build]

theorem costs_next {A : Type} {cause : NetEffect}
    {rest : cause.Reply -> NetProgram A} {m : Nat}
    (h : Costs t.netCost (perform cause rest) m) (r : cause.Reply) :
    exists m', Costs t.netCost (rest r) m' ∧ m' + t.netCost cause ≤ m :=
  ⟨m - t.netCost cause, h.right r, by have := h.left; omega⟩

/-- The end of a call is paid for, also when its request was not sent. -/
theorem reply_paid {operationTimeout : Duration} {object : Object}
    {request : ModbusRequest} {phase : Phase} {m : Nat}
    (hphase : phase = .ready ∨ phase = .inFlight)
    (hm : t.PhaseFunds attempts (.call operationTimeout object request) phase
      m) : t.reply ≤ m := by
  rcases hphase with rfl | rfl
  · simp only [PhaseFunds, cost] at hm
    omega
  · exact hm

theorem Funds.creating (h : t.Funds attempts watched s n)
    (htask : s.tasks[i]? = some task) (htasks : u.tasks = s.tasks)
    (hpools : u.pools = s.pools)
    (hfree : watched i = false -> t.discard = 0)
    {pool : Pool} {k : Except PoolError Object -> ServiceProgram TaskOutput}
    (hprogram : task.program = perform (.get pool) k) {cause : NetEffect}
    {rest : cause.Reply -> NetProgram (Except ManagerError ManagedConnection)}
    (hphase : task.phase = .creating (perform cause rest)) (r : cause.Reply) :
    exists m, t.Funds attempts watched
        (u.setTask i (task.enter (.creating (rest r)))) m ∧
      m + (if watched i then t.netCost cause else 0) ≤ n := by
  have hdebts : t.debts u = t.debts s := by
    rw [debts, debts, hpools]
  refine h.enter 0 htask htasks hfree hprogram (by simp [hphase])
    hdebts ?_
  intro m hm
  rw [hphase] at hm
  rcases hm with ⟨spent, hspent, hle⟩
  rcases costs_next hspent r with ⟨left, hleft, hpaid⟩
  exact ⟨left + t.created, ⟨left, hleft, Nat.le_refl _⟩, by omega⟩

end Steps

theorem attempts_of_handle {d : Deployment} {s : State} (h : Wired d s)
    {pool : Pool} (hhandle : Handle s pool) :
    max pool.manager.maxConnectAttempts 1 =
      d.modbus.clampedMaxConnectAttempts := by
  have hattempts : pool.manager.maxConnectAttempts =
      d.modbus.clampedMaxConnectAttempts := by
    rw [(h.pool_built hhandle).right]
    rfl
  rw [hattempts, ModbusConfig.clampedMaxConnectAttempts]
  omega

theorem status_of_closing {manager : ModbusManager}
    {connection : ManagedConnection} {e : NetEffect}
    {rest : e.Reply -> NetProgram (Except RecycleError Unit × ManagedConnection)}
    (h : manager.Recycling connection (perform e rest)) :
    connection.status = false := by
  cases h with
  | closing hstatus hnext => exact hstatus

theorem funds_step {t : Tariff} {d : Deployment} {watched : Nat -> Bool}
    {s s' : State} {l : Label} {i n : Nat} (hwired : Wired d s)
    (hfree : watched i = false -> t.discard = 0)
    (h : t.Funds d.modbus.clampedMaxConnectAttempts watched s n)
    (hstep : Step d s l s') (hl : l.task = some i) :
    exists m, t.Funds d.modbus.clampedMaxConnectAttempts watched s' m ∧
      m + (if watched i then t.price l else 0) ≤ n := by
  cases hstep with
  | spawn => cases hl
  | startRound hfinished => cases hl
  | runtimeHit htask hprogram hphase hlookup =>
      cases hl
      refine h.resume 0 htask rfl hfree hprogram (by simp [hphase])
        rfl (fun m hm => ?_)
      rw [hphase] at hm
      exact hm
  | runtimeMiss htask hprogram hphase hlookup hinsert =>
      cases hl
      refine h.resume (u := s.addPool _ (PoolState.build _)) 0 htask
        rfl hfree hprogram (by simp [hphase]) (debts_addPool _ _)
        (fun m hm => ?_)
      rw [hphase] at hm
      exact hm
  | acquire htask hprogram hphase hslots hpermit =>
      cases hl
      refine h.enter (u := s.setPool _ _) 0 htask rfl hfree hprogram
        (by simp [hphase]) (debts_same hslots rfl) (fun m hm => ?_)
      rw [hphase] at hm
      refine ⟨t.popping d.modbus.clampedMaxConnectAttempts, Nat.le_refl _, ?_⟩
      simp only [PhaseFunds, cost] at hm
      simp only [price]
      omega
  | popIdle htask hprogram hphase hslots hidle =>
      rename_i pool k slots connection
      cases hl
      refine h.enter (u := s.setPool _ _) (t.debt connection) htask rfl
        hfree hprogram (by simp [hphase]) (debts_removeIdle hslots hidle)
        (fun m hm => ?_)
      rw [hphase] at hm
      have hcosts := t.recycle_costs pool.manager connection
      simp only [PhaseFunds] at hm ⊢
      cases hstatus : connection.status with
      | true =>
          refine ⟨t.recycled, Nat.le_refl _, ?_⟩
          simp only [popping, price] at hm ⊢
          omega
      | false =>
          refine ⟨_, ⟨t.disconnected, hcosts, Nat.le_refl _⟩, ?_⟩
          simp only [debt, discard, hstatus, price]
          simp only [Bool.false_eq_true, if_false]
          omega
  | popEmpty htask hprogram hphase hslots hidle =>
      rename_i pool k slots
      cases hl
      have htaskWired := hwired.tasks _ (List.mem_of_getElem? htask)
      have hcosts := t.create_costs SocketAddr.fromStr pool.manager
      rw [attempts_of_handle hwired (htaskWired.handle_of_get hprogram)]
        at hcosts
      refine h.enter 0 htask rfl hfree hprogram (by simp [hphase])
        rfl (fun m hm => ?_)
      rw [hphase] at hm
      refine ⟨_, ⟨_, hcosts, Nat.le_refl _⟩, ?_⟩
      simp only [PhaseFunds, popping, price] at hm ⊢
      omega
  | disconnected htask hprogram hphase =>
      rename_i pool k connection context rest result
      cases hl
      have htaskWired := hwired.tasks _ (List.mem_of_getElem? htask)
      have hrecycling := htaskWired.phase
      rcases htaskWired.holding_of_get hprogram with ⟨runtime, hholding, _⟩
      rw [hholding, hphase] at hrecycling
      have hstatus := status_of_closing hrecycling.right
      refine h.enter 0 htask rfl hfree hprogram (by simp [hphase])
        rfl (fun m hm => ?_)
      rw [hphase] at hm
      simp only [PhaseFunds, hstatus, Bool.false_eq_true, if_false] at hm ⊢
      rcases hm with ⟨spent, hspent, hle⟩
      rcases costs_next hspent result with ⟨left, hleft, hpaid⟩
      refine ⟨_, ⟨left, hleft, Nat.le_refl _⟩, ?_⟩
      simp only [netCost] at hpaid
      simp only [price]
      omega
  | recycleOk htask hprogram hphase =>
      rename_i pool k connection recycled
      cases hl
      have htaskWired := hwired.tasks _ (List.mem_of_getElem? htask)
      have hrecycling := htaskWired.phase
      rcases htaskWired.holding_of_get hprogram with ⟨runtime, hholding, _⟩
      rw [hholding, hphase] at hrecycling
      cases hrecycling.right with
      | accepted hstatus =>
          refine h.resume 0 htask rfl hfree hprogram
            (by simp [hphase]) rfl (fun m hm => ?_)
          rw [hphase] at hm
          simp only [PhaseFunds, hstatus, if_true] at hm
          exact hm
  | recycleErr htask hprogram hphase =>
      rename_i pool k connection recycled err
      cases hl
      have htaskWired := hwired.tasks _ (List.mem_of_getElem? htask)
      have hrecycling := htaskWired.phase
      rcases htaskWired.holding_of_get hprogram with ⟨runtime, hholding, _⟩
      rw [hholding, hphase] at hrecycling
      cases hrecycling.right with
      | refused hstatus =>
          refine h.enter 0 htask rfl hfree hprogram
            (by simp [hphase]) rfl (fun m hm => ?_)
          rw [hphase] at hm
          simp only [PhaseFunds, hstatus, Bool.false_eq_true, if_false] at hm
          rcases hm with ⟨spent, _, hle⟩
          refine ⟨t.popping d.modbus.clampedMaxConnectAttempts,
            Nat.le_refl _, ?_⟩
          simp only [price]
          omega
  | connected htask hprogram hphase =>
      cases hl
      exact h.creating htask rfl rfl hfree hprogram hphase _
  | refused htask hprogram hphase =>
      cases hl
      exact h.creating htask rfl rfl hfree hprogram hphase _
  | connectTimeout htask hprogram hphase =>
      cases hl
      exact h.creating htask rfl rfl hfree hprogram hphase _
  | slept htask hprogram hphase =>
      cases hl
      exact h.creating htask rfl rfl hfree hprogram hphase _
  | createOk htask hprogram hphase =>
      cases hl
      refine h.resume 0 htask rfl hfree hprogram (by simp [hphase])
        rfl (fun m hm => ?_)
      rw [hphase] at hm
      rcases hm with ⟨spent, _, hle⟩
      simp only [price]
      omega
  | createErr htask hprogram hphase hslots =>
      cases hl
      refine h.resume (u := s.setPool _ _) 0 htask rfl hfree hprogram
        (by simp [hphase]) (debts_same hslots rfl) (fun m hm => ?_)
      rw [hphase] at hm
      rcases hm with ⟨spent, _, hle⟩
      simp only [price]
      omega
  | send htask hprogram hphase =>
      cases hl
      refine h.enter 0 htask rfl hfree hprogram (by simp [hphase])
        rfl (fun m hm => ?_)
      rw [hphase] at hm
      refine ⟨t.reply, Nat.le_refl _, ?_⟩
      simp only [PhaseFunds, cost] at hm
      simp only [price]
      omega
  | answer htask hprogram hphase hanswer hstale =>
      cases hl
      refine h.resume 0 htask rfl hfree hprogram (by simp [hphase])
        rfl (fun m hm => ?_)
      rw [hphase] at hm
      exact hm
  | transportError htask hprogram hphase =>
      cases hl
      refine h.resume 0 htask rfl hfree hprogram ?_ rfl
        (fun m hm => ?_)
      · rcases hphase with hphase | hphase <;> simp [hphase]
      · exact reply_paid hphase hm
  | operationTimeout htask hprogram hphase =>
      cases hl
      refine h.resume 0 htask rfl hfree hprogram ?_ rfl
        (fun m hm => ?_)
      · rcases hphase with hphase | hphase <;> simp [hphase]
      · exact reply_paid hphase hm
  | release htask hprogram hphase hslots =>
      cases hl
      refine h.resume (u := s.setPool _ _) _ htask rfl hfree hprogram
        (by simp [hphase]) (debts_giveBack hslots _) (fun m hm => ?_)
      rw [hphase] at hm
      exact hm
  | post htask hprogram hphase =>
      cases hl
      refine h.enter 0 htask rfl hfree hprogram (by simp [hphase])
        rfl (fun m hm => ?_)
      rw [hphase] at hm
      refine ⟨t.posted, Nat.le_refl _, ?_⟩
      simp only [PhaseFunds, cost] at hm
      simp only [price]
      omega
  | posted htask hprogram hphase =>
      cases hl
      refine h.resume 0 htask rfl hfree hprogram (by simp [hphase])
        rfl (fun m hm => ?_)
      rw [hphase] at hm
      exact hm
  | cancelWaiting htask hkind hprogram heffect hphase =>
      cases hl
      exact h.drop htask rfl hfree hprogram (by simp [hphase]) rfl
  | cancelGetting htask hkind hprogram hready hdropped hslots =>
      cases hl
      exact h.drop (u := s.setPool _ _) htask rfl hfree hprogram hdropped
        (debts_same hslots rfl)
  | cancelCall htask hkind hprogram hphase hslots hstale hsent =>
      rename_i task handled operationTimeout object request k slots count
      cases hl
      have htaskWired := hwired.tasks _ (List.mem_of_getElem? htask)
      have hhealthy := (htaskWired.object_of_call hprogram).right.right
      refine h.drop (u := (s.setStale _ _).setPool _ _) htask rfl hfree
        hprogram ?_ ?_
      · rcases hphase with hphase | hphase <;> simp [hphase]
      · rw [debts_giveBack (s := s.setStale _ _) hslots, debt, hhealthy]
        rfl

end Tariff
end ConveyorModbus
