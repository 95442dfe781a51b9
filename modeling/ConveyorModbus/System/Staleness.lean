import ConveyorModbus.Library.Ledger
import ConveyorModbus.System.Handout
import ConveyorModbus.System.Recovery

/-!
# How stale a connection is

A request on the wire is answered, or its reply stays in the stream for whoever
reads from it next.  On a stream no operation has failed on, the only requests
nobody waits for are those of handlers that were dropped in flight, and every
one of them stays: a connection is handed out with as many unread replies ahead
of it as handlers were dropped on its stream before.
-/

namespace ConveyorModbus

open Counting Effects Program

def Task.awaits (stream : Nat) (task : Task) : Nat :=
  match task.program, task.phase with
  | .perform (.call _ object _) _, .inFlight =>
      if object.connection.context.stream = stream then 1 else 0
  | _, _ => 0

def State.awaiting (stream : Nat) (s : State) : Nat :=
  total (Task.awaits stream) s.tasks

/-- A handler is dropped while it waits for a reply on the stream. -/
def State.droppedInFlight (stream : Nat) (s : State) : Label -> Nat
  | .cancel i =>
      match s.tasks[i]? with
      | some task => task.awaits stream
      | none => 0
  | _ => 0

/-- The unanswered requests of a stream, unless an operation failed on it. -/
def Unread (stream dropped : Nat) (s : State) : Prop :=
  (forall failed, failed ∈ s.failed ->
    failed.connection.context.stream ≠ stream) ->
  s.outstanding stream = s.awaiting stream + dropped

/-!
## One step
-/

section Step

variable {d : Deployment} {s : State} {stream dropped i : Nat}
  {task task' : Task}

theorem awaits_of_phase (h : task.phase ≠ .inFlight) :
    task.awaits stream = 0 := by
  unfold Task.awaits
  split
  · rename_i hphase
    exact absurd hphase h
  · rfl

theorem awaits_of_ready (h : task.phase = .ready) : task.awaits stream = 0 := by
  apply awaits_of_phase
  rw [h]
  exact Phase.noConfusion

theorem awaits_enter {phase : Phase} (h : phase ≠ .inFlight) :
    (task.enter phase).awaits stream = 0 :=
  awaits_of_phase h

theorem awaits_resume {e : ServiceEffect} {r : e.Reply}
    {k : e.Reply -> ServiceProgram TaskOutput} :
    (task.resume e r k).awaits stream = 0 :=
  awaits_of_ready rfl

theorem awaits_of_call (stream : Nat) {operationTimeout : Duration} {object : Object}
    {request : ModbusRequest}
    {k : CallResult request.Answer -> ServiceProgram TaskOutput}
    (hprogram : task.program =
      perform (.call operationTimeout object request) k)
    (hphase : task.phase = .inFlight) :
    task.awaits stream =
      if object.connection.context.stream = stream then 1 else 0 := by
  unfold Task.awaits
  rw [hprogram, hphase]

theorem awaits_of_get {pool : Pool}
    {k : Except PoolError Object -> ServiceProgram TaskOutput}
    (hprogram : task.program = perform (.get pool) k) :
    task.awaits stream = 0 := by
  unfold Task.awaits
  rw [hprogram]

theorem awaiting_setTask (stream : Nat) (htask : s.tasks[i]? = some task) {t : State}
    (htasks : t.tasks = s.tasks) (task' : Task) :
    (t.setTask i task').awaiting stream + task.awaits stream =
      s.awaiting stream + task'.awaits stream := by
  rw [State.awaiting, State.setTask, htasks]
  exact total_set (Task.awaits stream) htask task'

theorem droppedInFlight_cancel (htask : s.tasks[i]? = some task) :
    s.droppedInFlight stream (.cancel i) = task.awaits stream := by
  rw [State.droppedInFlight, htask]

theorem unread_still (h : Unread stream dropped s)
    (htask : s.tasks[i]? = some task) {t : State} (htasks : t.tasks = s.tasks)
    (hfailed : t.failed = s.failed) (houtstanding : t.outstanding = s.outstanding)
    (hbefore : task.awaits stream = 0) (hafter : task'.awaits stream = 0) :
    Unread stream dropped (t.setTask i task') := by
  intro hnever
  have hnever' : forall failed, failed ∈ s.failed ->
      failed.connection.context.stream ≠ stream := by
    rw [<- hfailed]
    exact hnever
  have hcount := h hnever'
  have hawaiting := awaiting_setTask stream htask htasks task'
  have hsame : (t.setTask i task').outstanding stream =
      s.outstanding stream := congrFun houtstanding stream
  omega

theorem unread_addTask (h : Unread stream dropped s)
    (conveyor : ConveyorConfig) (kind : TaskKind) :
    Unread stream dropped (s.addTask (Task.start conveyor kind)) := by
  intro hnever
  have hcount := h hnever
  have hnone : (Task.start conveyor kind).awaits stream = 0 :=
    awaits_of_phase (fun hphase => by cases hphase)
  have hawaiting : (s.addTask (Task.start conveyor kind)).awaiting stream =
      s.awaiting stream := by
    simp only [State.awaiting, State.addTask, total_append, total_cons,
      total_nil, hnone, Nat.add_zero]
  rw [hawaiting]
  exact hcount

theorem unread_failure (h : Unread stream dropped s)
    (htask : s.tasks[i]? = some task) {operationTimeout : Duration}
    {object : Object} {request : ModbusRequest}
    {k : CallResult request.Answer -> ServiceProgram TaskOutput}
    (hprogram : task.program =
      perform (.call operationTimeout object request) k)
    (result : CallResult request.Answer) :
    Unread stream dropped ((s.recordFailure object).setTask i
      (task.resume (.call operationTimeout object request) result k)) := by
  intro hnever
  have hother : object.connection.context.stream ≠ stream :=
    hnever object (List.mem_append_right s.failed (List.mem_singleton.mpr rfl))
  have hcount := h (fun failed hfailed =>
    hnever failed (List.mem_append_left [object] hfailed))
  have hbefore : task.awaits stream = 0 := by
    by_cases hphase : task.phase = .inFlight
    · rw [awaits_of_call stream hprogram hphase, if_neg hother]
    · exact awaits_of_phase hphase
  have hawaiting := awaiting_setTask stream htask
    (t := s.recordFailure object) rfl
    (task.resume (.call operationTimeout object request) result k)
  rw [awaits_resume, hbefore] at hawaiting
  show s.outstanding stream = _
  omega

theorem unread_call (h : Unread stream dropped s)
    (htask : s.tasks[i]? = some task) {object : Object} {count : Nat}
    (hown : object.connection.context.stream = stream ->
      s.outstanding stream = s.awaiting stream + dropped ->
      count + task.awaits stream =
        s.outstanding stream + task'.awaits stream)
    (hother : object.connection.context.stream ≠ stream ->
      task.awaits stream = task'.awaits stream) :
    Unread stream dropped
      ((s.setOutstanding object.connection.context.stream count).setTask i
        task') := by
  intro hnever
  have hcount := h hnever
  have hawaiting := awaiting_setTask stream htask
    (t := s.setOutstanding object.connection.context.stream count) rfl task'
  show (if stream = object.connection.context.stream then count
    else s.outstanding stream) = _
  by_cases hstream : object.connection.context.stream = stream
  · have hmoved := hown hstream hcount
    rw [if_pos hstream.symm]
    omega
  · have hsame := hother hstream
    rw [if_neg (Ne.symm hstream)]
    omega

end Step

theorem unread_step {d : Deployment} {s s' : State} {l : Label}
    {stream dropped : Nat} (h : Unread stream dropped s)
    (hstep : Step d s l s') :
    Unread stream (dropped + s.droppedInFlight stream l) s' := by
  cases hstep with
  | spawn => exact unread_addTask h _ _
  | startRound => exact unread_addTask h _ _
  | runtimeHit htask hprogram hphase =>
      exact unread_still h htask rfl rfl rfl (awaits_of_ready hphase)
        awaits_resume
  | runtimeMiss htask hprogram hphase =>
      exact unread_still h htask rfl rfl rfl (awaits_of_ready hphase)
        awaits_resume
  | acquire htask hprogram =>
      exact unread_still h htask rfl rfl rfl (awaits_of_get hprogram)
        (awaits_enter Phase.noConfusion)
  | popIdle htask hprogram =>
      exact unread_still h htask rfl rfl rfl (awaits_of_get hprogram)
        (awaits_enter Phase.noConfusion)
  | popEmpty htask hprogram =>
      exact unread_still h htask rfl rfl rfl (awaits_of_get hprogram)
        (awaits_enter Phase.noConfusion)
  | disconnected htask hprogram =>
      exact unread_still h htask rfl rfl rfl (awaits_of_get hprogram)
        (awaits_enter Phase.noConfusion)
  | recycleOk htask hprogram =>
      exact unread_still h htask rfl rfl rfl (awaits_of_get hprogram)
        awaits_resume
  | recycleErr htask hprogram =>
      exact unread_still h htask rfl rfl rfl (awaits_of_get hprogram)
        (awaits_enter Phase.noConfusion)
  | connected htask hprogram =>
      exact unread_still h htask rfl rfl rfl (awaits_of_get hprogram)
        (awaits_enter Phase.noConfusion)
  | refused htask hprogram =>
      exact unread_still h htask rfl rfl rfl (awaits_of_get hprogram)
        (awaits_enter Phase.noConfusion)
  | connectTimeout htask hprogram =>
      exact unread_still h htask rfl rfl rfl (awaits_of_get hprogram)
        (awaits_enter Phase.noConfusion)
  | slept htask hprogram =>
      exact unread_still h htask rfl rfl rfl (awaits_of_get hprogram)
        (awaits_enter Phase.noConfusion)
  | createOk htask hprogram =>
      exact unread_still h htask rfl rfl rfl (awaits_of_get hprogram)
        awaits_resume
  | createErr htask hprogram =>
      exact unread_still h htask rfl rfl rfl (awaits_of_get hprogram)
        awaits_resume
  | send htask hprogram hphase =>
      rename_i i task operationTimeout object request k
      have hbefore : task.awaits stream = 0 := awaits_of_ready hphase
      have hafter : (task.enter .inFlight).awaits stream =
          if object.connection.context.stream = stream then 1 else 0 :=
        awaits_of_call stream hprogram rfl
      apply unread_call h htask
      · intro hstream _
        rw [hbefore, hafter, if_pos hstream, hstream]
      · intro hstream
        rw [hbefore, hafter, if_neg hstream]
  | answer htask hprogram hphase hreply hstale =>
      rename_i i task operationTimeout object request k reply result
      have hbefore := awaits_of_call stream hprogram hphase
      apply unread_call h htask
      · intro hstream hcount
        rw [if_pos hstream] at hbefore
        -- the task's own request is among the outstanding ones
        have hle := weight_le_total (Task.awaits stream)
          (List.mem_of_getElem? htask)
        rw [awaits_resume, hbefore, hstream]
        unfold State.awaiting at hcount
        omega
      · intro hstream
        rw [awaits_resume, hbefore, if_neg hstream]
  | transportError htask hprogram => exact unread_failure h htask hprogram _
  | operationTimeout htask hprogram => exact unread_failure h htask hprogram _
  | release htask hprogram hphase =>
      exact unread_still h htask rfl rfl rfl (awaits_of_ready hphase)
        awaits_resume
  | post htask hprogram hphase =>
      exact unread_still h htask rfl rfl rfl (awaits_of_ready hphase)
        (awaits_enter Phase.noConfusion)
  | posted htask hprogram hphase =>
      exact unread_still h htask rfl rfl rfl
        (awaits_of_phase (by rw [hphase]; exact Phase.noConfusion))
        awaits_resume
  | cancelWaiting htask hkind hprogram hwaiting hphase =>
      have hbefore : Task.awaits stream _ = 0 := awaits_of_ready hphase
      rw [droppedInFlight_cancel htask, hbefore]
      exact unread_still h htask rfl rfl rfl hbefore
        (awaits_enter Phase.noConfusion)
  | cancelGetting htask hkind hprogram =>
      rw [droppedInFlight_cancel htask, awaits_of_get hprogram]
      exact unread_still h htask rfl rfl rfl (awaits_of_get hprogram)
        (awaits_enter Phase.noConfusion)
  | cancelCall htask hkind hprogram hphase hslots hstale hsent =>
      rename_i i task handled operationTimeout object request k slots count
      rw [droppedInFlight_cancel htask]
      intro hnever
      have hcount := h hnever
      have hawaiting := awaiting_setTask stream htask
        (t := (s.setStale object.connection.context.stream count).setPool
          object.pool.id (slots.giveBack object.connection)) rfl
        (task.enter .dropped)
      rw [awaits_enter Phase.noConfusion] at hawaiting
      show s.outstanding stream = _
      omega

/-!
## Whole runs
-/

theorem unread_run {d : Deployment} {s s' : State} {ls : List Label}
    {stream dropped more : Nat} (h : Unread stream dropped s)
    (hrun : (machine d).Metered (State.droppedInFlight stream) s ls more s') :
    Unread stream (dropped + more) s' := by
  induction hrun generalizing dropped with
  | nil s => exact h
  | cons hstep _ ih =>
      rw [<- Nat.add_assoc]
      exact ih (unread_step h hstep)

theorem unread_initial (d : Deployment) (stream : Nat) :
    Unread stream 0 (State.initial d.modbus) :=
  fun _ => rfl

theorem awaits_le_claim {d : Deployment} {s : State} {task : Task}
    (hwired : TaskWired d s task) (stream : Nat) :
    task.awaits stream ≤
      task.claim.awaits (ConnectionPool.healthyOn stream) := by
  unfold Task.awaits
  split
  · rename_i operationTimeout object request k hprogram hphase
    have hhealthy := (hwired.object_of_call hprogram).right.right
    rw [claim_eq (hwired.holding_of_call hprogram) hphase]
    simp [Holding.claim, ConnectionPool.Custody.awaits,
      ConnectionPool.healthyOn, Object.token, hhealthy]
  · exact Nat.zero_le _

/-- Nobody waits for a reply on a connection that was just handed out. -/
theorem awaiting_of_yielded {d : Deployment} {s : State} (hs : Reachable d s)
    {i : Nat} {object : Object} (hyielded : s.yielded i = some object) :
    s.awaiting object.connection.context.stream = 0 := by
  have hwired := reachable_wired hs
  rcases yielded_holding hwired hyielded with ⟨hclient, hhealthy⟩
  have hnone := ConnectionPool.awaited_eq_zero_of_holding
    (ConnectionPool.reachable_streamInvariant (reachable_custodies hs))
    hclient hhealthy
  have hle : s.awaiting object.connection.context.stream ≤
      ConnectionPool.awaited object.token.stream s.custodies := by
    rw [State.awaiting, ConnectionPool.awaited, State.custodies, total_map]
    exact total_mono (fun task htask =>
      awaits_le_claim (hwired.tasks task htask) _)
  omega

/-- On a stream without failures the unanswered requests are those somebody
waits for and those of the handlers dropped in flight, and a connection is
handed out with exactly the latter ahead of it. -/
theorem outstanding_accounted (d : Deployment) (stream dropped : Nat)
    (ls : List Label) (s : State)
    (hrun : (machine d).Metered (State.droppedInFlight stream)
      (State.initial d.modbus) ls dropped s) :
    (NeverFailed s stream ->
      s.outstanding stream = s.awaiting stream + dropped) ∧
    forall i object, s.yielded i = some object ->
      object.connection.context.stream = stream ->
      s.outstanding stream = dropped := by
  have hs : Reachable d s :=
    hrun.run.reachable (Transition.System.Reachable.init rfl)
  have hunread := unread_run (unread_initial d stream) hrun
  rw [Nat.zero_add] at hunread
  constructor
  · intro hnever
    exact hunread ((neverFailed_iff hs stream).mp hnever)
  · rintro i object hyielded rfl
    rcases yielded_holding (reachable_wired hs) hyielded with
      ⟨hclient, hhealthy⟩
    have hcount := hunread (failed_stream_ne hs hclient hhealthy)
    rw [awaiting_of_yielded hs hyielded, Nat.zero_add] at hcount
    exact hcount

/-- Two handlers dropped one after the other leave two replies behind. -/
theorem outstanding_accounted_line :
    exists s dropped object,
      (machine lineDeployment).Metered (State.droppedInFlight 0)
        (State.initial lineDeployment.modbus)
        ([.spawn (.write { source := "A1", destination := "B1" })] ++
          connectLabels 0 ++ [.send 0, .cancel 0,
          .spawn (.canPutdown { location := "B1" })] ++ reuseLabels 1 ++
          [.send 1, .cancel 1, .spawn (.canPutdown { location := "B1" })] ++
          reuseLabels 2) dropped s ∧
      s.yielded 2 = some object ∧ s.outstanding 0 = 2 ∧
      s.outstanding 0 = dropped := by
  have hreplay : (replay lineDeployment (State.initial lineDeployment.modbus)
      ([.spawn (.write { source := "A1", destination := "B1" })] ++
        connectLabels 0 ++ [.send 0, .cancel 0,
        .spawn (.canPutdown { location := "B1" })] ++ reuseLabels 1 ++
        [.send 1, .cancel 1, .spawn (.canPutdown { location := "B1" })] ++
        reuseLabels 2)).any
      (fun s => (s.yielded 2).any (fun object =>
        object.connection.context.stream == 0 && s.outstanding 0 == 2)) =
        true := by
    decide
  rcases exists_of_replay hreplay with ⟨s, hs, hgood⟩
  rcases (Option.any_eq_true _ _).mp hgood with ⟨object, hyielded, hstream⟩
  rw [Bool.and_eq_true, beq_iff_eq, beq_iff_eq] at hstream
  rcases Transition.System.exists_metered (State.droppedInFlight 0)
    (replay_run hs) with ⟨dropped, hmetered⟩
  exact ⟨s, dropped, object, hmetered, hyielded, hstream.right,
    (outstanding_accounted lineDeployment 0 dropped _ s hmetered).right 2 object
      hyielded hstream.left⟩

end ConveyorModbus
