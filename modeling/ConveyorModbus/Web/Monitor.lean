import ConveyorModbus.Library.Counting
import ConveyorModbus.Library.Ticker
import ConveyorModbus.Web.Round

/-!
# The pace of the webhook monitor

`run_can_putdown_webhook_monitor` waits for a tick of a one-second interval
before each round.  The interval is left at the behaviour it is created with,
which delivers missed ticks in a burst, so the pace depends on all the rounds
so far.  Times are in nanoseconds.
-/

namespace ConveyorModbus

open Counting Effects Program Ticker

/-- `Duration::from_secs(1)` -/
def intervalDuration : Nat := 1000000000

/-- The time at which round `k` of the loop starts, when round `j` takes
`durations j`. -/
def runCanPutdownWebhookMonitor (start : Nat) (durations : Nat -> Nat) (k : Nat) :
    Nat :=
  Ticker.started start intervalDuration durations k

/-- The rounds among the first `n` that start within `seconds` from `time`. -/
def roundsWithin (start : Nat) (durations : Nat -> Nat) (n time seconds : Nat) :
    List Nat :=
  (List.range n).filter (fun k =>
    time ≤ runCanPutdownWebhookMonitor start durations k ∧
      runCanPutdownWebhookMonitor start durations k ≤
        time + seconds * intervalDuration)

def notified (l : List WebEvent) : Nat :=
  (l.filterMap postedTo).length

theorem pollCheck_notified_le {conveyor : ConveyorConfig}
    {check : ConveyorReadCheck} {l : List WebEvent}
    (hnotify : check.hookNotify.isSome = true)
    (h : Returns (pollCheck conveyor check) l ()) : notified l ≤ 1 := by
  cases hpolled : check.polled with
  | true =>
      rcases (pollCheck_returns_iff hpolled).mp h with
        ⟨outcome, posts, rfl, hposts⟩
      have hposted := (postsFor_iff _ hposts).right.right
      rw [notified, List.filterMap_cons]
      simp only [postedTo, hposted]
      cases notification conveyor check outcome <;> simp
  | false =>
      rw [(pollCheck_returns_of_not_polled hnotify hpolled).mp h]
      exact Nat.zero_le 1

/-!
## Notifications in time
-/

/-- An entry is polled in round `k`, every event at some moment of the round. -/
structure PolledIn (start : Nat) (durations : Nat -> Nat)
    (conveyor : ConveyorConfig) (check : ConveyorReadCheck) (k : Nat)
    (poll : List (Nat × WebEvent)) : Prop where
  returns : Returns (pollCheck conveyor check) (poll.map Prod.snd) ()
  ordered : poll.Pairwise (fun first second => first.1 ≤ second.1)
  during : forall time event, (time, event) ∈ poll ->
    runCanPutdownWebhookMonitor start durations k ≤ time ∧
      time ≤ runCanPutdownWebhookMonitor start durations k + durations k

def notificationTimes (poll : List (Nat × WebEvent)) : List Nat :=
  poll.filterMap (fun event => (postedTo event.2).map (fun _ => event.1))

/-- The notifications of an entry within `seconds` from `time`, when it is
polled by the first `n` rounds. -/
def notifiedWithin (polls : Nat -> List (Nat × WebEvent))
    (n time seconds : Nat) : Nat :=
  marksWithin intervalDuration (fun k => notificationTimes (polls k)) n time
    seconds

theorem length_notificationTimes (poll : List (Nat × WebEvent)) :
    (notificationTimes poll).length = notified (poll.map Prod.snd) := by
  induction poll with
  | nil => rfl
  | cons event poll ih =>
      unfold notificationTimes notified at ih ⊢
      rw [List.map_cons, List.filterMap_cons, List.filterMap_cons]
      cases hposted : postedTo event.2 with
      | none => simpa [hposted] using ih
      | some post => simpa [hposted] using ih

theorem mem_notificationTimes {poll : List (Nat × WebEvent)} {time : Nat}
    (h : time ∈ notificationTimes poll) : exists event, (time, event) ∈ poll := by
  rcases List.mem_filterMap.mp h with ⟨event, hevent, hposted⟩
  rcases Option.map_eq_some_iff.mp hposted with ⟨_, _, rfl⟩
  exact ⟨event.2, hevent⟩

theorem notification_marks {start : Nat} {durations : Nat -> Nat}
    {conveyor : ConveyorConfig} {check : ConveyorReadCheck}
    {polls : Nat -> List (Nat × WebEvent)}
    (hnotify : check.hookNotify.isSome = true)
    (hpolls : forall k, PolledIn start durations conveyor check k (polls k)) :
    Marks start intervalDuration durations
      (fun k => notificationTimes (polls k)) where
  one k := by
    rw [length_notificationTimes]
    exact pollCheck_notified_le hnotify (hpolls k).returns
  during k time htime := by
    rcases mem_notificationTimes htime with ⟨event, hevent⟩
    exact (hpolls k).during time event hevent

/-- In every window of whole seconds at most two rounds more than seconds
start, and no entry is notified more often in it. -/
def PollingRateCap (start : Nat) (durations : Nat -> Nat) : Prop :=
  (forall n time seconds,
    (roundsWithin start durations n time seconds).length ≤ seconds + 2) ∧
  forall (conveyor : ConveyorConfig) (check : ConveyorReadCheck)
    (polls : Nat -> List (Nat × WebEvent)),
    check ∈ conveyor.canPutdownChecks ->
    check.hookNotify.isSome = true ->
    (forall k, PolledIn start durations conveyor check k (polls k)) ->
    forall n time seconds, notifiedWithin polls n time seconds ≤ seconds + 2

theorem roundsWithin_length_le {start n time seconds width : Nat}
    {durations : Nat -> Nat}
    (hclose : forall j k,
      time ≤ runCanPutdownWebhookMonitor start durations j ->
      runCanPutdownWebhookMonitor start durations k ≤
        time + seconds * intervalDuration -> k < j + width) :
    (roundsWithin start durations n time seconds).length ≤ width := by
  apply length_le_of_close
  · exact List.pairwise_lt_range.filter _
  · intro j k hj hk
    simp only [roundsWithin, List.mem_filter, decide_eq_true_eq] at hj hk
    exact hclose j k hj.right.left hk.right.right

/-!
An entry whose first register stays at 6 can be notified at any moment of a
round, so its notifications are as close as the marks of the loop.
-/

def calledCheck : ConveyorReadCheck where
  location := "B1"
  device := "10.0.0.5:502"
  slaveId := 1
  function := .readHoldingRegisters
  registerAddress := 300
  quantity := 1
  hookNotify := some "wms"

def calledConveyor : ConveyorConfig :=
  { (default : ConveyorConfig) with
    canPutdownChecks := [calledCheck]
    webhooks := [{ name := "wms", url := "http://wms.local/hook" }] }

/-- The entry is notified at the first of the times, if there is one. -/
def calledPoll (now : Nat) : List Nat -> List (Nat × WebEvent)
  | [] =>
      [(now, ⟨.readHoldingRegisters "10.0.0.5:502" 1 300 1, .ok [0]⟩)]
  | time :: _ =>
      [(time, ⟨.readHoldingRegisters "10.0.0.5:502" 1 300 1, .ok [6]⟩),
        (time, ⟨.post "http://wms.local/hook"
          { location := "B1", values := [6] }, .ok StatusCode.ok⟩)]

theorem calledPoll_returns (now : Nat) (times : List Nat) :
    Returns (pollCheck calledConveyor calledCheck)
      ((calledPoll now times).map Prod.snd) () := by
  have hpolled : calledCheck.polled = true := rfl
  rw [pollCheck_returns_iff hpolled]
  cases times with
  | nil => exact ⟨.ok [0], [], rfl, rfl⟩
  | cons time times => exact ⟨.ok [6], _, rfl, .ok StatusCode.ok, rfl⟩

theorem calledPoll_polledIn {start : Nat} {durations : Nat -> Nat}
    {marks : Nat -> List Nat}
    (hmarks : Marks start intervalDuration durations marks) (k : Nat) :
    PolledIn start durations calledConveyor calledCheck k
      (calledPoll (runCanPutdownWebhookMonitor start durations k)
        (marks k)) where
  returns := calledPoll_returns _ _
  ordered := by
    cases marks k <;> simp [calledPoll]
  during := by
    intro time event hmem
    cases hmark : marks k with
    | nil =>
        rw [hmark] at hmem
        simp only [calledPoll, List.mem_singleton, Prod.mk.injEq] at hmem
        rw [hmem.left]
        exact ⟨Nat.le_refl _, Nat.le_add_right _ _⟩
    | cons mark rest =>
        rw [hmark] at hmem
        simp only [calledPoll, List.mem_cons, List.not_mem_nil, or_false,
          Prod.mk.injEq] at hmem
        have hat : time = mark := by
          rcases hmem with h | h <;> exact h.left
        rw [hat]
        exact hmarks.during k mark (hmark ▸ List.mem_cons_self)

theorem calledPoll_times {start : Nat} {durations : Nat -> Nat}
    {marks : Nat -> List Nat}
    (hmarks : Marks start intervalDuration durations marks) (now k : Nat) :
    notificationTimes (calledPoll now (marks k)) = marks k := by
  have hone := hmarks.one k
  cases hmark : marks k with
  | nil => rfl
  | cons mark rest =>
      cases rest with
      | nil => rfl
      | cons other rest =>
          rw [hmark] at hone
          simp at hone

/-- The monitor keeps the rate exactly when it never makes up a whole second of
delay. -/
theorem pollingRateCap_iff (start : Nat) (durations : Nat -> Nat) :
    PollingRateCap start durations <->
      PromptCatchUp intervalDuration durations := by
  have hperiod : 0 < intervalDuration := by decide
  constructor
  · intro h
    have hcapped : RateCapped start intervalDuration durations := by
      intro marks hmarks n time seconds
      have hcalled := h.right calledConveyor calledCheck _ List.mem_cons_self
        rfl (calledPoll_polledIn hmarks) n time seconds
      simpa only [notifiedWithin, calledPoll_times hmarks] using hcalled
    exact hcapped.promptCatchUp hperiod
  · intro h
    constructor
    · intro n time seconds
      apply roundsWithin_length_le
      intro j k hfrom hto
      exact h.close (Nat.le_trans hfrom (Nat.le_add_right _ _)) hto
    · intro conveyor check polls _ hnotify hpolls n time seconds
      exact h.rateCapped _ (notification_marks hnotify hpolls) n time seconds

/-- One round of ten seconds, such as reconnecting to an unreachable device,
among rounds of ten milliseconds. -/
def outageDurations (k : Nat) : Nat :=
  if k = 0 then 10000000000 else 10000000

theorem outage_rounds :
    roundsWithin 0 outageDurations 20 10000000000 1 =
      [1, 2, 3, 4, 5, 6, 7, 8, 9, 10, 11] := by
  decide +kernel

theorem outage_exceeds : ¬ PollingRateCap 0 outageDurations := by
  intro h
  have hlength := h.left 20 10000000000 1
  rw [outage_rounds] at hlength
  exact absurd hlength (by decide)

/-!
## When the rounds start

Between two outages the loop makes up what it lost, and from then on it polls
once a second.
-/

/-- A round starts as soon as its tick and the rounds before it allow, and at
its tick when no stretch of rounds took longer than the ticks it covers. -/
theorem monitor_starts_iff (start : Nat) (durations : Nat -> Nat) (k : Nat) :
    (forall time, runCanPutdownWebhookMonitor start durations k ≤ time <->
      forall j n, j + n = k ->
        start + j * intervalDuration + spent durations j n ≤ time) ∧
    (runCanPutdownWebhookMonitor start durations k =
        start + k * intervalDuration <->
      forall j n, j + n = k -> spent durations j n ≤ n * intervalDuration) := by
  constructor
  · intro time
    exact started_le_iff
  · exact punctual_iff

section Recovers

variable {start j time : Nat} {durations : Nat -> Nat}

theorem round_of_late
    (hpunctual : runCanPutdownWebhookMonitor start durations j =
      start + j * intervalDuration)
    (hlate : start + j * intervalDuration < time) {k : Nat}
    (hfrom : time ≤
      runCanPutdownWebhookMonitor start durations k + durations k) :
    j ≤ k := by
  by_contra hearly
  have hended : runCanPutdownWebhookMonitor start durations k + durations k ≤
      runCanPutdownWebhookMonitor start durations j :=
    ended_le_started (Nat.lt_of_not_le hearly)
  omega

end Recovers

/-- Once the rounds are shorter than a second again, the delay is made up at
the rate of the difference; then every round starts at its tick, and no entry
is notified more often than once a second. -/
theorem monitor_recovers (start j gain n : Nat) (durations : Nat -> Nat)
    (hshort : forall k, j ≤ k -> durations k + gain ≤ intervalDuration)
    (hmade : runCanPutdownWebhookMonitor start durations j ≤
      start + j * intervalDuration + n * gain) :
    (forall k, j + n ≤ k ->
      runCanPutdownWebhookMonitor start durations k =
        start + k * intervalDuration) ∧
    forall m time seconds, start + (j + n) * intervalDuration < time ->
      (roundsWithin start durations m time seconds).length ≤ seconds + 1 ∧
      (0 < gain ->
        forall (conveyor : ConveyorConfig) (check : ConveyorReadCheck)
          (polls : Nat -> List (Nat × WebEvent)),
          check.hookNotify.isSome = true ->
          (forall k, PolledIn start durations conveyor check k (polls k)) ->
          notifiedWithin polls m time seconds ≤ seconds + 1) := by
  have hbacklog : backlog intervalDuration durations j ≤ n * gain := by
    have hstarted : runCanPutdownWebhookMonitor start durations j =
        start + j * intervalDuration + backlog intervalDuration durations j :=
      started_eq j
    omega
  have hpunctual : forall k, j + n ≤ k ->
      runCanPutdownWebhookMonitor start durations k =
        start + k * intervalDuration := by
    intro k hk
    exact punctual_of_short hshort hbacklog hk
  have hrecovered := hpunctual (j + n) (Nat.le_refl _)
  -- a round of the window began on its tick, and so did every later one
  have hclose : forall {time seconds late first last : Nat},
      start + (j + n) * intervalDuration < time -> late < intervalDuration ->
      late ≤ durations first ->
      time ≤ runCanPutdownWebhookMonitor start durations first + late ->
      runCanPutdownWebhookMonitor start durations last ≤
        time + seconds * intervalDuration -> last < first + (seconds + 1) := by
    intro time seconds late first last htime hlate hduration hfrom hto
    have hfirst : j + n ≤ first :=
      round_of_late hrecovered htime (by omega)
    by_cases horder : first ≤ last
    · exact punctual_close hlate (hpunctual first hfirst)
        (hpunctual last (Nat.le_trans hfirst horder)) hfrom hto
    · omega
  constructor
  · exact hpunctual
  · intro m time seconds htime
    constructor
    · apply roundsWithin_length_le
      intro first last hfrom hto
      exact hclose htime (by decide) (Nat.zero_le _) hfrom hto
    · intro hgain conveyor check polls hnotify hpolls
      have hmarks := notification_marks hnotify hpolls
      apply hmarks.within_le
      intro first last early late hearly hlate hfrom hto
      have hend := (hmarks.during first early hearly).right
      have hbegan := (hmarks.during last late hlate).left
      have hfirst : j + n ≤ first :=
        round_of_late hrecovered htime (Nat.le_trans hfrom hend)
      have hround := hshort first (by omega)
      exact hclose htime (by omega) (Nat.le_refl _)
        (Nat.le_trans hfrom hend) (Nat.le_trans hbegan hto)

/-- Ten rounds after the outage the loop is back on its ticks. -/
theorem monitor_recovers_outage :
    runCanPutdownWebhookMonitor 0 outageDurations 11 =
        0 + 11 * intervalDuration ∧
      (roundsWithin 0 outageDurations 40 12000000000 3).length ≤ 3 + 1 := by
  have hshort : forall k, 1 ≤ k ->
      outageDurations k + 990000000 ≤ intervalDuration := by
    intro k hk
    rw [outageDurations, if_neg (Nat.ne_of_gt hk)]
    decide
  have hrecovers := monitor_recovers 0 1 990000000 10 outageDurations hshort
    (by decide)
  constructor
  · exact hrecovers.left 11 (Nat.le_refl 11)
  · exact (hrecovers.right 40 12000000000 3 (by decide)).left

end ConveyorModbus
