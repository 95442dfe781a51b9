import ConveyorModbus.System.Abstraction

/-!
# Stale replies

A stale reply fails the next call on its connection, and recycling discards the
connection after that.  A fresh stream has none, and neither has a connection
that was called on and is still healthy, so only a handler dropped in flight
brings a stale reply to the idle connections.
-/

namespace ConveyorModbus

open Counting Effects Program

structure StaleInvariant (s : State) : Prop where
  fresh : forall n, s.streams ≤ n -> s.stale n = 0
  used : forall (i : Nat) (task : Task) (object : Object),
    s.tasks[i]? = some task -> task.holding = .used object ->
      task.phase = .ready -> object.connection.status = true ->
        s.stale object.connection.context.stream = 0

/-!
## One step
-/

section Step

variable {d : Deployment} {s t : State} {i : Nat} {task task' : Task}
  {phase : Phase} {e : ServiceEffect} {r : e.Reply}
  {k : e.Reply -> ServiceProgram TaskOutput}

theorem staleInvariant_setTask (h : StaleInvariant s)
    (htask : s.tasks[i]? = some task) (htasks : t.tasks = s.tasks)
    (hstreams : s.streams ≤ t.streams) (hstale : t.stale = s.stale)
    (hafter : forall object, task'.holding = .used object ->
      task'.phase = .ready -> object.connection.status = true ->
        s.stale object.connection.context.stream = 0) :
    StaleInvariant (t.setTask i task') where
  fresh n hn := by
    show t.stale n = 0
    rw [hstale]
    exact h.fresh n (Nat.le_trans hstreams hn)
  used j other object hother := by
    show _ -> _ -> _ -> t.stale _ = 0
    rw [State.setTask, htasks, getElem?_set_of_some htask] at hother
    rw [hstale]
    split at hother
    · cases hother
      exact hafter object
    · exact h.used j other object hother

theorem staleInvariant_enter (h : StaleInvariant s)
    (htask : s.tasks[i]? = some task) (htasks : t.tasks = s.tasks)
    (hstreams : s.streams ≤ t.streams) (hstale : t.stale = s.stale)
    (hphase : phase ≠ .ready) :
    StaleInvariant (t.setTask i (task.enter phase)) :=
  staleInvariant_setTask h htask htasks hstreams hstale
    (fun _ _ hready => absurd hready hphase)

/-- Only a call leaves a used connection. -/
theorem staleInvariant_resume (h : StaleInvariant s)
    (htask : s.tasks[i]? = some task) (htasks : t.tasks = s.tasks)
    (hstreams : s.streams ≤ t.streams) (hstale : t.stale = s.stale)
    (hnext : forall object, task.holding.next e r ≠ .used object) :
    StaleInvariant (t.setTask i (task.resume e r k)) := by
  refine staleInvariant_setTask h htask htasks hstreams hstale ?_
  intro object hused
  rw [Task.holding_resume] at hused
  exact absurd hused (hnext object)

/-- The connection of a failed call is not healthy. -/
theorem staleInvariant_failure (h : StaleInvariant s)
    (htask : s.tasks[i]? = some task) {operationTimeout : Duration}
    {object : Object} {request : ModbusRequest}
    {k : CallResult request.Answer -> ServiceProgram TaskOutput}
    {result : CallResult request.Answer}
    (hfailed : result.outcome.answered = false) :
    StaleInvariant ((s.recordFailure object).setTask i
      (task.resume (.call operationTimeout object request) result k)) := by
  refine staleInvariant_setTask h htask rfl (Nat.le_refl _) rfl ?_
  intro owned hused _ hstatus
  rw [Task.holding_resume] at hused
  have howned : object.afterCall result = owned := Holding.used.inj hused
  rw [<- howned, Object.afterCall, hfailed] at hstatus
  cases hstatus

theorem staleInvariant_addTask (h : StaleInvariant s) (conveyor : ConveyorConfig)
    (kind : TaskKind) :
    StaleInvariant (s.addTask (Task.start conveyor kind)) where
  fresh := h.fresh
  used j other object hother hused := by
    rcases getElem?_concat_cases hother with hold | ⟨_, hnew⟩
    · exact h.used j other object hold hused
    · rw [hnew] at hused
      cases hused

theorem stale_setStale_of_ne {n stream count : Nat} (hne : n ≠ stream) :
    (s.setStale stream count).stale n = s.stale n :=
  if_neg hne

/-- A handler dropped in a call leaves stale replies on its own connection
only. -/
theorem staleInvariant_dropped (hs : Reachable d s) (h : StaleInvariant s)
    (htask : s.tasks[i]? = some task) {operationTimeout : Duration}
    {object : Object} {request : ModbusRequest}
    {k : CallResult request.Answer -> ServiceProgram TaskOutput}
    (hprogram : task.program =
      perform (.call operationTimeout object request) k)
    (hphase : task.phase = .ready ∨ task.phase = .inFlight) {n count : Nat}
    {slots : PoolState} :
    StaleInvariant
      (((s.setStale object.connection.context.stream count).setPool n
        slots).setTask i (task.enter .dropped)) := by
  have hpools := reachable_custodies hs
  have hweigh := weigh_of_call
    ((reachable_wired hs).tasks task (List.mem_of_getElem? htask)) hprogram
    hphase
  constructor
  · intro m hm
    have hlt := ConnectionPool.client_stream_lt
      (ConnectionPool.reachable_streamInvariant hpools)
      (custodies_client htask) hweigh
    exact (stale_setStale_of_ne (Nat.ne_of_gt (Nat.lt_of_lt_of_le hlt hm))).trans
      (h.fresh m hm)
  · intro j other owned hother hused hready hstatus
    have hcases : (s.tasks.set i (task.enter .dropped))[j]? = some other := hother
    rw [getElem?_set_of_some htask] at hcases
    split at hcases
    · cases hcases
      cases hready
    · rename_i hne
      have hweigh' : forall w, other.claim.weigh w = w owned.token := by
        intro w
        rw [claim_eq hused hready]
        rfl
      have hother' := ConnectionPool.stream_ne_of_clients hpools
        (custodies_client hcases) (custodies_client htask) hne hweigh' hweigh
      exact (stale_setStale_of_ne hother').trans
        (h.used j other owned hcases hused hready hstatus)

end Step

theorem staleInvariant_step {d : Deployment} {s s' : State} {l : Label}
    (hs : Reachable d s) (h : StaleInvariant s) (hstep : Step d s l s') :
    StaleInvariant s' := by
  have hwired := reachable_wired hs
  cases hstep with
  | spawn => exact staleInvariant_addTask h _ _
  | startRound => exact staleInvariant_addTask h _ _
  | runtimeHit htask =>
      exact staleInvariant_resume h htask rfl (Nat.le_refl _) rfl
        (fun _ => Holding.noConfusion)
  | runtimeMiss htask =>
      exact staleInvariant_resume h htask rfl (Nat.le_refl _) rfl
        (fun _ => Holding.noConfusion)
  | acquire htask =>
      exact staleInvariant_enter h htask rfl (Nat.le_refl _) rfl Phase.noConfusion
  | popIdle htask =>
      exact staleInvariant_enter h htask rfl (Nat.le_refl _) rfl Phase.noConfusion
  | popEmpty htask =>
      exact staleInvariant_enter h htask rfl (Nat.le_refl _) rfl Phase.noConfusion
  | disconnected htask =>
      exact staleInvariant_enter h htask rfl (Nat.le_refl _) rfl Phase.noConfusion
  | recycleOk htask =>
      exact staleInvariant_resume h htask rfl (Nat.le_refl _) rfl
        (fun _ => Holding.noConfusion)
  | recycleErr htask =>
      exact staleInvariant_enter h htask rfl (Nat.le_refl _) rfl Phase.noConfusion
  | connected htask =>
      exact staleInvariant_enter h htask rfl (Nat.le_succ _) rfl Phase.noConfusion
  | refused htask =>
      exact staleInvariant_enter h htask rfl (Nat.le_refl _) rfl Phase.noConfusion
  | connectTimeout htask =>
      exact staleInvariant_enter h htask rfl (Nat.le_refl _) rfl Phase.noConfusion
  | slept htask =>
      exact staleInvariant_enter h htask rfl (Nat.le_refl _) rfl Phase.noConfusion
  | createOk htask =>
      exact staleInvariant_resume h htask rfl (Nat.le_refl _) rfl
        (fun _ => Holding.noConfusion)
  | createErr htask =>
      exact staleInvariant_resume h htask rfl (Nat.le_refl _) rfl
        (fun _ => Holding.noConfusion)
  | send htask =>
      exact staleInvariant_enter h htask rfl (Nat.le_refl _) rfl Phase.noConfusion
  | answer htask hprogram hphase hreply hstale =>
      rename_i i task operationTimeout object request k reply result
      refine staleInvariant_setTask h htask rfl (Nat.le_refl _) rfl ?_
      intro owned hused _ _
      rw [Task.holding_resume] at hused
      have howned : object = owned := Holding.used.inj hused
      rw [<- howned]
      exact hstale
  | transportError htask => exact staleInvariant_failure h htask rfl
  | operationTimeout htask => exact staleInvariant_failure h htask rfl
  | release htask =>
      exact staleInvariant_resume h htask rfl (Nat.le_refl _) rfl
        (fun _ => Holding.noConfusion)
  | post htask =>
      exact staleInvariant_enter h htask rfl (Nat.le_refl _) rfl Phase.noConfusion
  | posted htask hprogram =>
      have hnothing := (hwired.tasks _
        (List.mem_of_getElem? htask)).holding_of_post hprogram
      refine staleInvariant_resume h htask rfl (Nat.le_refl _) rfl ?_
      intro object
      rw [hnothing]
      exact Holding.noConfusion
  | cancelWaiting htask =>
      exact staleInvariant_enter h htask rfl (Nat.le_refl _) rfl Phase.noConfusion
  | cancelGetting htask =>
      exact staleInvariant_enter h htask rfl (Nat.le_refl _) rfl Phase.noConfusion
  | cancelCall htask hkind hprogram hphase =>
      exact staleInvariant_dropped hs h htask hprogram hphase

theorem reachable_staleInvariant {d : Deployment} {s : State}
    (h : Reachable d s) : StaleInvariant s := by
  apply h.invariant
  · rintro s rfl
    exact ⟨fun _ _ => rfl, by simp [State.initial]⟩
  · intro s l s' hs hinv hstep
    exact staleInvariant_step hs hinv hstep

/-!
## Idle connections
-/

/-- Recycling accepts the connection although a stale reply is ahead. -/
def State.staleOn (s : State) (connection : ManagedConnection) : Nat :=
  if connection.status = true ∧ s.stale connection.context.stream ≠ 0 then 1
  else 0

/-- The idle connections of pool `p` on which the next call fails. -/
def State.staleIdle (s : State) (p : Nat) : Nat :=
  match s.pools[p]? with
  | some slots => total s.staleOn slots.idle
  | none => 0

section Idle

variable {s : State} {n p : Nat} {slots : PoolState}

theorem staleIdle_eq (hslots : s.pools[p]? = some slots) :
    s.staleIdle p = total s.staleOn slots.idle := by
  unfold State.staleIdle
  rw [hslots]

theorem staleIdle_setPool (hslots : s.pools[n]? = some slots)
    (slots' : PoolState) (p : Nat) :
    (s.setPool n slots').staleIdle p =
      if p = n then total s.staleOn slots'.idle else s.staleIdle p := by
  unfold State.staleIdle
  rw [getElem?_setPool hslots]
  by_cases hp : p = n
  · simp only [hp, if_true]
    rfl
  · simp only [hp, if_false]
    rfl

theorem staleIdle_setPool_le (hslots : s.pools[n]? = some slots)
    (slots' : PoolState)
    (hle : total s.staleOn slots'.idle ≤ total s.staleOn slots.idle) (p : Nat) :
    (s.setPool n slots').staleIdle p ≤ s.staleIdle p := by
  rw [staleIdle_setPool hslots]
  split
  · rename_i hp
    rw [hp, staleIdle_eq hslots]
    exact hle
  · exact Nat.le_refl _

theorem staleIdle_removeIdle (hslots : s.pools[p]? = some slots)
    {connection : ManagedConnection} (hidle : slots.idle[n]? = some connection) :
    (s.setPool p (slots.removeIdle n)).staleIdle p + s.staleOn connection =
      s.staleIdle p := by
  rw [staleIdle_setPool hslots, if_pos rfl, staleIdle_eq hslots]
  exact total_eraseIdx s.staleOn hidle

theorem staleOn_eq_zero {connection : ManagedConnection}
    (h : connection.status = true -> s.stale connection.context.stream = 0) :
    s.staleOn connection = 0 :=
  if_neg (fun hstale => hstale.right (h hstale.left))

theorem staleIdle_giveBack (hslots : s.pools[n]? = some slots)
    {connection : ManagedConnection} (hquiet : s.staleOn connection = 0)
    (p : Nat) :
    (s.setPool n (slots.giveBack connection)).staleIdle p ≤ s.staleIdle p := by
  apply staleIdle_setPool_le hslots
  rw [PoolState.giveBack, total_append, total_cons, hquiet]
  exact Nat.le_refl _

theorem stale_of_staleIdle (hslots : s.pools[p]? = some slots)
    (hnone : s.staleIdle p = 0) {connection : ManagedConnection}
    (hidle : connection ∈ slots.idle) (hstatus : connection.status = true) :
    s.stale connection.context.stream = 0 := by
  have hle := weight_le_total s.staleOn hidle
  rw [<- staleIdle_eq hslots, hnone] at hle
  by_contra hstale
  rw [State.staleOn, if_pos ⟨hstatus, hstale⟩] at hle
  cases hle

end Idle

end ConveyorModbus
