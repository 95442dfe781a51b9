import ConveyorModbus.System.Abstraction
import ConveyorModbus.System.Replay

/-!
# Connections as they are handed out

`ModbusService::connection` yields a connection to an operation, which then
sends its request on it.  If the previous request on that connection still
awaits its reply, that reply is the next frame the new operation reads.

The result arms of the operations keep such connections out of the pool: a
transport error and a timeout both set the flag that recycling checks.  A
handler dropped between sending and receiving passes none of these arms, and
its connection is handed out with the request outstanding.
-/

namespace ConveyorModbus

open Effects Program

/-- The connection task `i` was given and has not sent a request on yet. -/
def State.yielded (s : State) (i : Nat) : Option Object :=
  match s.tasks[i]? with
  | some task =>
      match task.program, task.phase with
      | perform (.call _ object _) _, .ready => some object
      | _, _ => none
  | none => none

/-- Every request sent before on a connection that is handed out has had its
reply consumed. -/
def YieldsQuiet (s : State) : Prop :=
  forall i object, s.yielded i = some object ->
    s.outstanding object.connection.context.stream = 0

theorem yielded_holding {d : Deployment} {s : State} (hwired : Wired d s)
    {i : Nat} {object : Object} (h : s.yielded i = some object) :
    s.custodies.clients[i]? = some (.holding object.token) ∧
      object.token.healthy = true := by
  unfold State.yielded at h
  split at h
  · rename_i task htask
    split at h
    · rename_i operationTimeout found request k hprogram hphase
      cases h
      have htaskWired := hwired.tasks task (List.mem_of_getElem? htask)
      have hclaim := claim_eq (htaskWired.holding_of_call hprogram) hphase
      refine ⟨?_, (htaskWired.object_of_call hprogram).right.right⟩
      rw [custodies_client htask, hclaim]
      rfl
    · cases h
  · cases h

/-- A handler dropped with its request on the wire leaves a connection that the
next operation is handed with the request outstanding. -/
theorem yields_outstanding :
    ¬ forall (d : Deployment) (s : State), Reachable d s -> YieldsQuiet s := by
  intro hclaim
  have hreplay : (replay lineDeployment (State.initial lineDeployment.modbus)
      ([.spawn (.write { source := "A1", destination := "B1" })] ++
        connectLabels 0 ++ [.send 0, .cancel 0,
        .spawn (.canPutdown { location := "B1" })] ++ reuseLabels 1)).any
      (fun s => (s.yielded 1).any (fun object =>
        s.outstanding object.connection.context.stream == 1)) = true := by
    decide
  rcases exists_of_replay hreplay with ⟨s, hs, hbad⟩
  rcases (Option.any_eq_true _ _).mp hbad with ⟨object, hyielded, hone⟩
  have hquiet := hclaim lineDeployment s (replay_reachable hs) 1 object hyielded
  rw [hquiet] at hone
  cases hone

/-- As long as no handler is dropped in flight, connections are handed out
without outstanding requests. -/
theorem yieldsQuiet_of_noneDroppedInFlight {d : Deployment} {s : State}
    (h : ((machine d).restrict NoneDroppedInFlight).Reachable s) :
    YieldsQuiet s := by
  intro i object hyielded
  rcases yielded_holding (reachable_wired h.of_restrict) hyielded with
    ⟨hclient, hhealthy⟩
  exact ConnectionPool.outstanding_eq_zero_of_holding
    ((undisturbed_abstraction d).reachable h) hclient hhealthy

theorem yieldsQuiet_reused :
    exists (s : State) (object : Object), s.yielded 1 = some object ∧
      object.connection.context.stream = 0 ∧ YieldsQuiet s := by
  have hreplay : (replay lineDeployment (State.initial lineDeployment.modbus)
      ([.spawn (.write { source := "A1", destination := "B1" })] ++
        connectLabels 0 ++ [.send 0, .answer 0 .written, .release 0,
        .spawn (.canPutdown { location := "B1" })] ++ reuseLabels 1)).any
      (fun s => (s.yielded 1).any (fun object =>
        object.connection.context.stream == 0)) = true := by
    decide
  rcases exists_of_replay hreplay with ⟨s, hs, hgood⟩
  rcases (Option.any_eq_true _ _).mp hgood with ⟨object, hyielded, hstream⟩
  have hkept : forall (t : State) (l : Label),
      l ∈ ([.spawn (.write { source := "A1", destination := "B1" })] ++
        connectLabels 0 ++ [.send 0, .answer 0 .written, .release 0,
        .spawn (.canPutdown { location := "B1" })] ++ reuseLabels 1) ->
      NoneDroppedInFlight t l := by
    intro t l hl i task hcancel
    simp [hcancel, connectLabels, reuseLabels] at hl
  have hrun := (replay_run hs).restrict hkept
  exact ⟨s, object, hyielded, by simpa using hstream,
    yieldsQuiet_of_noneDroppedInFlight
      (hrun.reachable (Transition.System.Reachable.init rfl))⟩

end ConveyorModbus
