import ConveyorModbus.System.Progress
import ConveyorModbus.System.Work

/-!
# The service comes to rest

When no further task is started, every run is finite, whatever the devices,
the webhook servers and the clients do, and a run that cannot go on has ended
all tasks: each has finished or was dropped, and every permit is free again.
So there is neither a deadlock nor a livelock among the tasks.
-/

namespace ConveyorModbus

open Counting Effects Program Transition

def Label.Underway (l : Label) : Prop :=
  l.task ≠ none

/-- The service while no task is started. -/
def underway (d : Deployment) : System State Label :=
  (machine d).restrict (fun _ l => l.Underway)

/-- All tasks are over and all permits are free. -/
structure Settled (s : State) : Prop where
  ended : forall task, task ∈ s.tasks -> task.Finished ∨ task.phase = .dropped
  free : forall slots, slots ∈ s.pools -> slots.permits = slots.pool.maxSize

section Progress

variable {d : Deployment} {s : State}

/-- A task that is not over advances, unless it awaits a webhook. -/
theorem task_advances (hs : Reachable d s) {i : Nat} {task : Task}
    (htask : s.tasks[i]? = some task) (hrunning : ¬ task.Finished)
    (hdropped : task.phase ≠ .dropped) (hposting : task.phase ≠ .posting) :
    Advances d s i := by
  have hwired := reachable_wired hs
  have hdisciplined :=
    (hwired.tasks task (List.mem_of_getElem? htask)).disciplined
  cases hholding : task.holding with
  | nothing =>
      exact Or.inl
        (moves_between hwired htask hholding hdropped hposting hrunning)
  | looked runtime =>
      rw [hholding] at hdisciplined
      rcases head_of_looked hdisciplined with ⟨k, hprogram⟩
      by_cases hready : task.phase = .ready
      · exact advances_waiting hs htask hprogram hready
      · exact Or.inl
          (moves_getting hwired htask hprogram hready hdropped)
  | fresh object =>
      exact Or.inl (moves_owning hwired htask (Or.inl hholding) hdropped)
  | used object =>
      exact Or.inl (moves_owning hwired htask (Or.inr hholding) hdropped)

theorem underway_of_moves {j : Nat} (h : Moves d s j) :
    exists l s', (underway d).step s l s' := by
  rcases h with ⟨l, s', hstep, hl, _⟩
  refine ⟨l, s', hstep, ?_⟩
  intro hnone
  rw [hl] at hnone
  cases hnone

theorem underway_of_running (hs : Reachable d s) {i : Nat} {task : Task}
    (htask : s.tasks[i]? = some task) (hrunning : ¬ task.Finished)
    (hdropped : task.phase ≠ .dropped) :
    exists l s', (underway d).step s l s' := by
  by_cases hposting : task.phase = .posting
  · have hshape := reachable_shaped hs task (List.mem_of_getElem? htask)
    rcases hshape.posting hposting with ⟨url, payload, k, hprogram⟩
    exact ⟨.posted i (.ok 200), _, Step.posted htask hprogram hposting,
      Option.some_ne_none i⟩
  · rcases task_advances hs htask hrunning hdropped hposting with
      hmoves | ⟨_, _, _, _, _, _, _, _, hmoves⟩
    · exact underway_of_moves hmoves
    · exact underway_of_moves hmoves

theorem claim_of_over (hwired : Wired d s) {task : Task}
    (htask : task ∈ s.tasks)
    (hover : task.Finished ∨ task.phase = .dropped) :
    task.claim = .nothing := by
  rcases hover with ⟨output, hprogram⟩ | hdropped
  · have hdisciplined := (hwired.tasks task htask).disciplined
    rw [hprogram] at hdisciplined
    exact claim_of_holding_nothing hdisciplined
  · rw [Task.claim, hdropped]
    cases task.holding <;> rfl

theorem settled_of_stuck (hs : Reachable d s)
    (hstuck : (underway d).Stuck s) : Settled s := by
  have hwired := reachable_wired hs
  have hover : forall task, task ∈ s.tasks ->
      task.Finished ∨ task.phase = .dropped := by
    intro task hmem
    by_contra hnot
    rw [not_or] at hnot
    rcases List.getElem?_of_mem hmem with ⟨i, htask⟩
    rcases underway_of_running hs htask hnot.left hnot.right with
      ⟨l, s', hstep⟩
    exact hstuck l s' hstep
  refine ⟨hover, ?_⟩
  intro slots hmem
  rcases List.getElem?_of_mem hmem with ⟨p, hslots⟩
  have hconserved := (ConnectionPool.reachable_permitInvariant
    (reachable_custodies hs)).conserved p _ (custodies_shelf hslots)
  have hnone : total (ConnectionPool.Custody.permits p)
      s.custodies.clients = 0 := by
    refine total_eq_zero (fun custody hcustody => ?_)
    rcases List.mem_map.mp hcustody with ⟨task, htask, rfl⟩
    rw [claim_of_over hwired htask (hover task htask)]
    rfl
  rw [hnone] at hconserved
  exact hconserved

end Progress

/-!
## Every run is finite
-/

section Runs

variable {d : Deployment} {s s' : State} {ls : List Label}

theorem reachable_funds (hs : Reachable d s) :
    exists n, stepTariff.Funds d.modbus.clampedMaxConnectAttempts
      (fun _ => true) s n := by
  induction hs with
  | init hinit =>
      rw [show _ = State.initial d.modbus from hinit]
      exact ⟨0, stepTariff.funds_initial d _ _⟩
  | step hreach hstep ih =>
      rcases ih with ⟨n, hfunds⟩
      rcases (stepTariff.ledger d).step _ _ _ n hreach hfunds hstep with
        ⟨m, hnext, _⟩
      exact ⟨m, hnext⟩

theorem length_le_of_funds (hs : Reachable d s) {n : Nat}
    (hfunds : stepTariff.Funds d.modbus.clampedMaxConnectAttempts
      (fun _ => true) s n)
    (hrun : (underway d).Run s ls s') : ls.length ≤ n := by
  have hpaid := (stepTariff.ledger d).paid_le hs hfunds hrun.of_restrict
  have hnone : total (stepTariff.income d) ls = 0 := by
    refine total_eq_zero (fun l hl => ?_)
    have htask : l.Underway := System.Run.labels_of_restrict hrun l hl
    cases l <;> first | rfl | exact absurd rfl htask
  rw [total_stepTariff, hnone] at hpaid
  exact hpaid

/-- From every reachable state the runs that start no task are of bounded
length; one that cannot go on has settled, and every other can be continued
until it has. -/
theorem service_settles (d : Deployment) (s : State) (hs : Reachable d s) :
    (exists n, forall ls s', (underway d).Run s ls s' -> ls.length ≤ n) ∧
      forall ls s', (underway d).Run s ls s' ->
        ((underway d).Stuck s' -> Settled s') ∧
        exists ls' t, (underway d).Run s' ls' t ∧ Settled t := by
  rcases reachable_funds hs with ⟨n, hfunds⟩
  refine ⟨⟨n, fun ls s' hrun => length_le_of_funds hs hfunds hrun⟩, ?_⟩
  intro ls s' hrun
  have hs' := hrun.of_restrict.reachable hs
  refine ⟨settled_of_stuck hs', ?_⟩
  rcases reachable_funds hs' with ⟨m, hleft⟩
  rcases System.exists_stuck_run
    (fun ls' t hrun' => length_le_of_funds hs' hleft hrun') with
    ⟨ls', t, hrun', hstuck⟩
  exact ⟨ls', t, hrun',
    settled_of_stuck (hrun'.of_restrict.reachable hs') hstuck⟩

end Runs

/-- A write and a round, both waiting for one permit. -/
theorem service_settles_line :
    exists s, Reachable lineDeployment s ∧ s.tasks.length = 2 ∧
      exists ls t, (underway lineDeployment).Run s ls t ∧ Settled t := by
  have hreplay : (replay lineDeployment (State.initial lineDeployment.modbus)
      [.spawn (.write { source := "A1", destination := "B1" }), .startRound,
        .runtime 0, .runtime 1]).any (fun s => s.tasks.length == 2) = true := by
    decide
  rcases exists_of_replay hreplay with ⟨s, hs, htwo⟩
  rcases (service_settles lineDeployment s (replay_reachable hs)).right [] s
    (System.Run.nil s) with ⟨_, ls, t, hrun, hsettled⟩
  exact ⟨s, replay_reachable hs, beq_iff_eq.mp htwo, ls, t, hrun, hsettled⟩

end ConveyorModbus
