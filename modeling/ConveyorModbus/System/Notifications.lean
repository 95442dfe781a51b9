import ConveyorModbus.Library.Ledger
import ConveyorModbus.System.Progress
import ConveyorModbus.System.Wire

/-!
# Webhook notifications

What the monitor posts, over whole runs.  A post is made by a round that has
just read the entry it is about: the device answered, in time, with a first
register of 6, and the values it answered with are the ones posted.  A reading
is posted once at most, so a webhook is never notified more often than its
devices reported 6.
-/

namespace ConveyorModbus

open Counting Effects Program

/-!
## What a task that posts has done
-/

def NoPost : ServiceEffect -> Prop
  | .post _ _ => False
  | _ => True

theorem operate_never_posts {T : Type} (address : String) (slaveId : UInt8)
    (request : ModbusRequest)
    (finish : CallOutcome request.Answer -> Except ModbusError T) :
    Performs NoPost (ModbusService.operate address slaveId request finish) := by
  unfold ModbusService.operate ModbusService.connection
  refine ⟨trivial, fun runtime => ⟨trivial, fun reply => ?_⟩⟩
  cases reply with
  | error err => trivial
  | ok object =>
      exact ⟨trivial, fun result => ⟨trivial, fun _ => trivial⟩⟩

theorem handler_never_posts (conveyor : ConveyorConfig)
    (request : ConveyorRequest) :
    Performs NoPost (taskProgram conveyor (.handler request)) := by
  cases hplan : request.plan conveyor with
  | none =>
      rcases handler_program_of_no_plan hplan with ⟨message, hprogram⟩
      rw [hprogram]
      trivial
  | some plan =>
      rw [handler_program_of_plan hplan]
      exact (operate_never_posts _ _ _ _).bind (fun _ => trivial)

def ReadEvents (check : ConveyorReadCheck) (values : List UInt16)
    (l : List ServiceEvent) : Prop :=
  exists runtime object result,
    result.outcome = .ok (.ok (.ok values)) ∧
    l = ModbusService.connectionEvents check.device check.slaveId runtime
        (.ok object) ++
      ModbusService.callEvents object
        (.readHoldingRegisters check.registerAddress check.quantity) result

theorem readResult_ok {address : String} {registerAddress quantity : UInt16}
    {outcome : CallOutcome (List UInt16)} {values : List UInt16}
    (h : ModbusService.readResult address registerAddress quantity outcome =
      .ok values) : outcome = .ok (.ok (.ok values)) := by
  rcases outcome with _ | _ | _ | _
  · cases h
  · cases h
  · cases h
  · cases h
    rfl

theorem read_returns {check : ConveyorReadCheck} {values : List UInt16}
    {l : List ServiceEvent}
    (h : Returns (serviceOps (.readHoldingRegisters check.device check.slaveId
      check.registerAddress check.quantity)) l (.ok values)) :
    ReadEvents check values l := by
  rw [serviceOps_readHoldingRegisters] at h
  rcases ModbusService.operate_returns_iff.mp h with
    ⟨runtime, err, _, hout⟩ | ⟨runtime, object, result, hl, hout⟩
  · cases hout
  · exact ⟨runtime, object, result, readResult_ok hout.symm, hl⟩

/-- A task about to post is a round that has just read what it posts. -/
theorem task_posting {conveyor : ConveyorConfig} {kind : TaskKind}
    {l : List ServiceEvent} {url : String}
    {payload : ConveyorCanPutdownWebhookPayload}
    {k : PostOutcome -> ServiceProgram TaskOutput}
    (h : After (taskProgram conveyor kind) l (perform (.post url payload) k)) :
    kind = .round ∧ exists check values before reading,
      check ∈ conveyor.polledChecks ∧
      notification conveyor check (.ok values) = some (url, payload) ∧
      l = before ++ reading ∧ ReadEvents check values reading := by
  cases kind with
  | handler request =>
      exact ((h.performs (handler_never_posts conveyor request)).right.left).elim
  | round =>
      refine ⟨rfl, ?_⟩
      rcases after_interp h with
        ⟨events, e, next, first, rest, inner, hevents, rfl, hexpands, hinner⟩
      cases roundProgram_awaits hevents with
      | read hpolled hmem =>
          rw [serviceOps_readHoldingRegisters] at hinner
          exact ((hinner.performs
            (operate_never_posts _ _ _ _)).right.left).elim
      | post hpolled hmem hcalled =>
          rename_i check earlier values url' payload'
          rcases after_perform_iff.mp hinner with
            ⟨rfl, hhead⟩ | ⟨answer, tail, _, htail⟩
          · cases hhead
            rcases expands_append_iff.mp hexpands with
              ⟨before, last, rfl, _, hlast⟩
            rcases expands_cons_iff.mp hlast with
              ⟨reading, nothing, rfl, hreading, hnothing⟩
            rcases expands_nil_iff.mp hnothing with rfl
            refine ⟨check, values, before, reading,
              List.mem_filter.mpr ⟨hmem, hpolled⟩, hcalled, ?_,
              read_returns hreading⟩
            simp
          · cases htail

/-!
## Readings that are still to be posted
-/

/-- The last call of the log returned a first register of 6, and nothing was
posted since. -/
def dueNext (due : Bool) : ServiceEvent -> Bool
  | ⟨.call _ _ (.readHoldingRegisters _ _), result⟩ =>
      match result.outcome with
      | .ok (.ok (.ok values)) => values.head? = some 6
      | _ => false
  | ⟨.call _ _ (.writeSingleRegister _ _), _⟩ => false
  | ⟨.post _ _, _⟩ => false
  | _ => due

def due (l : List ServiceEvent) : Bool :=
  l.foldl dueNext false

theorem due_concat (l : List ServiceEvent) (event : ServiceEvent) :
    due (l ++ [event]) = dueNext (due l) event := by
  simp [due, List.foldl_append]

theorem due_of_reading {check : ConveyorReadCheck} {values : List UInt16}
    {before reading : List ServiceEvent}
    (hreading : ReadEvents check values reading)
    (hfirst : values.head? = some 6) : due (before ++ reading) = true := by
  rcases hreading with ⟨runtime, object, result, houtcome, rfl⟩
  simp [due, List.foldl_append, ModbusService.connectionEvents,
    ModbusService.callEvents, dueNext, houtcome, hfirst]

theorem notification_some {conveyor : ConveyorConfig}
    {check : ConveyorReadCheck} {values : List UInt16} {url : String}
    {payload : ConveyorCanPutdownWebhookPayload}
    (h : notification conveyor check (.ok values) = some (url, payload)) :
    values.head? = some 6 ∧ exists name webhook,
      check.hookNotify = some name ∧
      conveyor.findWebhook name = some webhook ∧ url = webhook.url ∧
      payload = { location := check.location, values := values } := by
  unfold notification at h
  cases hname : check.hookNotify with
  | none =>
      rw [hname] at h
      cases h
  | some name =>
      simp only [hname] at h
      split at h
      · rename_i hfirst
        rcases Option.map_eq_some_iff.mp h with ⟨webhook, hfound, hpost⟩
        cases hpost
        exact ⟨hfirst, name, webhook, rfl, hfound, rfl, rfl⟩
      · cases h

/-!
## The ledger of a task
-/

def Label.posts (i : Nat) : Label -> Bool
  | post j => j == i
  | _ => false

def Label.readsSix (i : Nat) : Label -> Bool
  | answer j (.values words) => j == i && words.head? = some 6
  | _ => false

def Phase.closed : Phase -> Bool
  | posting => true
  | dropped => true
  | _ => false

/-- The posts the task may still make for what it has read. -/
def Task.credit (task : Task) : Nat :=
  if !task.phase.closed && due task.log then 1 else 0

section Credit

variable {task : Task}

theorem credit_enter (hphase : task.phase.closed = false) (phase : Phase) :
    (task.enter phase).credit ≤ task.credit := by
  cases hclosed : phase.closed with
  | true => simp [Task.credit, Task.enter, hclosed]
  | false => simp [Task.credit, Task.enter, hclosed, hphase]

theorem credit_closed {phase : Phase} (hclosed : phase.closed = true) :
    (task.enter phase).credit = 0 := by
  simp [Task.credit, Task.enter, hclosed]

theorem credit_of_resume (task : Task) (e : ServiceEffect) (r : e.Reply)
    (k : e.Reply -> ServiceProgram TaskOutput) :
    (task.resume e r k).credit =
      if dueNext (due task.log) ⟨e, r⟩ then 1 else 0 := by
  simp [Task.credit, Task.resume, due_concat, Phase.closed]

theorem credit_resume (hphase : task.phase.closed = false) {e : ServiceEffect}
    {r : e.Reply} {k : e.Reply -> ServiceProgram TaskOutput}
    (hkeep : dueNext (due task.log) ⟨e, r⟩ = due task.log) :
    (task.resume e r k).credit ≤ task.credit := by
  rw [credit_of_resume, hkeep, Task.credit, hphase]
  exact Nat.le_refl _

theorem credit_spent {e : ServiceEffect} {r : e.Reply}
    {k : e.Reply -> ServiceProgram TaskOutput}
    (hspent : dueNext (due task.log) ⟨e, r⟩ = false) :
    (task.resume e r k).credit = 0 := by
  rw [credit_of_resume, hspent]
  rfl

theorem credit_answer (i : Nat) {operationTimeout : Duration} {object : Object}
    {request : ModbusRequest} {reply : ModbusReply}
    {result : Except ExceptionCode request.Answer}
    {k : CallResult request.Answer -> ServiceProgram TaskOutput}
    (hanswer : reply.answer request = some result) :
    (task.resume (.call operationTimeout object request)
        (CallResult.replied result) k).credit ≤
      if Label.readsSix i (.answer i reply) then 1 else 0 := by
  rw [credit_of_resume]
  cases request with
  | writeSingleRegister registerAddress value => exact Nat.zero_le _
  | readHoldingRegisters registerAddress quantity =>
      cases reply with
      | written => cases hanswer
      | exception code =>
          cases hanswer
          exact Nat.zero_le _
      | values words =>
          cases hanswer
          simp [dueNext, CallResult.replied, Label.readsSix]

theorem unanswered_spent {before : Bool} {operationTimeout : Duration}
    {object : Object} {request : ModbusRequest}
    {result : CallResult request.Answer}
    (hunanswered : result.outcome.answered = false) :
    dueNext before ⟨.call operationTimeout object request, result⟩ = false := by
  cases request with
  | writeSingleRegister registerAddress value => rfl
  | readHoldingRegisters registerAddress quantity =>
      rcases result with ⟨sent, _ | _ | _ | _, hsent⟩
      · rfl
      · rfl
      · rfl
      · cases hunanswered

theorem credit_of_post {d : Deployment} {s : State} (hs : Reachable d s)
    (htask : task ∈ s.tasks) {url : String}
    {payload : ConveyorCanPutdownWebhookPayload}
    {k : PostOutcome -> ServiceProgram TaskOutput}
    (hprogram : task.program = perform (.post url payload) k)
    (hphase : task.phase = .ready) : task.credit = 1 := by
  have htrace := ((reachable_wired hs).tasks task htask).trace
  rw [hprogram] at htrace
  rcases task_posting htrace with
    ⟨_, check, values, before, reading, _, hcalled, hlog, hreading⟩
  rw [Task.credit, hphase, hlog,
    due_of_reading hreading (notification_some hcalled).left]
  rfl

end Credit

section Ledger

variable {d : Deployment} {s s' : State} {l : Label} {i : Nat} {task : Task}

/-- A step of a task pays for a post out of its credit. -/
theorem credit_step (hs : Reachable d s) (hstep : Step d s l s')
    (hl : l.task = some i) :
    exists task task', s.tasks[i]? = some task ∧
      s'.tasks = s.tasks.set i task' ∧
      task'.credit + (if l.posts i then 1 else 0) ≤
        task.credit + (if l.readsSix i then 1 else 0) := by
  cases hstep with
  | spawn => cases hl
  | startRound => cases hl
  | runtimeHit htask hprogram hphase =>
      cases hl
      exact ⟨_, _, htask, rfl, credit_resume (by rw [hphase]; rfl) rfl⟩
  | runtimeMiss htask hprogram hphase =>
      cases hl
      exact ⟨_, _, htask, rfl, credit_resume (by rw [hphase]; rfl) rfl⟩
  | acquire htask hprogram hphase =>
      cases hl
      exact ⟨_, _, htask, rfl, credit_enter (by rw [hphase]; rfl) _⟩
  | popIdle htask hprogram hphase =>
      cases hl
      exact ⟨_, _, htask, rfl, credit_enter (by rw [hphase]; rfl) _⟩
  | popEmpty htask hprogram hphase =>
      cases hl
      exact ⟨_, _, htask, rfl, credit_enter (by rw [hphase]; rfl) _⟩
  | disconnected htask hprogram hphase =>
      cases hl
      exact ⟨_, _, htask, rfl, credit_enter (by rw [hphase]; rfl) _⟩
  | recycleOk htask hprogram hphase =>
      cases hl
      exact ⟨_, _, htask, rfl, credit_resume (by rw [hphase]; rfl) rfl⟩
  | recycleErr htask hprogram hphase =>
      cases hl
      exact ⟨_, _, htask, rfl, credit_enter (by rw [hphase]; rfl) _⟩
  | connected htask hprogram hphase =>
      cases hl
      exact ⟨_, _, htask, rfl, credit_enter (by rw [hphase]; rfl) _⟩
  | refused htask hprogram hphase =>
      cases hl
      exact ⟨_, _, htask, rfl, credit_enter (by rw [hphase]; rfl) _⟩
  | connectTimeout htask hprogram hphase =>
      cases hl
      exact ⟨_, _, htask, rfl, credit_enter (by rw [hphase]; rfl) _⟩
  | slept htask hprogram hphase =>
      cases hl
      exact ⟨_, _, htask, rfl, credit_enter (by rw [hphase]; rfl) _⟩
  | createOk htask hprogram hphase =>
      cases hl
      exact ⟨_, _, htask, rfl, credit_resume (by rw [hphase]; rfl) rfl⟩
  | createErr htask hprogram hphase =>
      cases hl
      exact ⟨_, _, htask, rfl, credit_resume (by rw [hphase]; rfl) rfl⟩
  | send htask hprogram hphase =>
      cases hl
      exact ⟨_, _, htask, rfl, credit_enter (by rw [hphase]; rfl) _⟩
  | answer htask hprogram hphase hanswer =>
      cases hl
      exact ⟨_, _, htask, rfl,
        Nat.le_trans (credit_answer i hanswer) (Nat.le_add_left _ _)⟩
  | transportError htask hprogram hphase =>
      cases hl
      refine ⟨_, _, htask, rfl, ?_⟩
      rw [credit_spent (unanswered_spent rfl)]
      exact Nat.zero_le _
  | operationTimeout htask hprogram hphase =>
      cases hl
      refine ⟨_, _, htask, rfl, ?_⟩
      rw [credit_spent (unanswered_spent rfl)]
      exact Nat.zero_le _
  | release htask hprogram hphase =>
      cases hl
      exact ⟨_, _, htask, rfl, credit_resume (by rw [hphase]; rfl) rfl⟩
  | post htask hprogram hphase =>
      cases hl
      refine ⟨_, _, htask, rfl, ?_⟩
      rw [credit_closed rfl, credit_of_post hs (List.mem_of_getElem? htask)
        hprogram hphase]
      simp [Label.posts]
  | posted htask hprogram hphase =>
      cases hl
      refine ⟨_, _, htask, rfl, ?_⟩
      rw [credit_spent rfl]
      exact Nat.zero_le _
  | cancelWaiting htask =>
      cases hl
      refine ⟨_, _, htask, rfl, ?_⟩
      rw [credit_closed rfl]
      exact Nat.zero_le _
  | cancelGetting htask =>
      cases hl
      refine ⟨_, _, htask, rfl, ?_⟩
      rw [credit_closed rfl]
      exact Nat.zero_le _
  | cancelCall htask =>
      cases hl
      refine ⟨_, _, htask, rfl, ?_⟩
      rw [credit_closed rfl]
      exact Nat.zero_le _

theorem creditLedger (d : Deployment) (i : Nat) : (machine d).Ledger
    (fun s n => forall task, s.tasks[i]? = some task -> task.credit ≤ n)
    (fun l => if l.posts i then 1 else 0)
    (fun l => if l.readsSix i then 1 else 0) where
  step := by
    intro s l s' n hs hfunds hstep
    by_cases hown : l.task = some i
    · rcases credit_step hs hstep hown with ⟨task, task', htask, htasks, hle⟩
      have hcredit := hfunds task htask
      refine ⟨task'.credit, ?_, by omega⟩
      intro new hnew
      rw [htasks, getElem?_set_of_some htask] at hnew
      simp only [if_true, Option.some.injEq] at hnew
      rw [hnew]
    · have hnothing : l.posts i = false := by
        cases l <;> first | rfl | skip
        rename_i j
        simp only [Label.posts, beq_eq_false_iff_ne]
        rintro rfl
        exact hown rfl
      refine ⟨n, ?_, by simp [hnothing]⟩
      intro new hnew
      cases hl : l.task with
      | none =>
          rcases step_starts hstep hl with ⟨kind, _, rfl⟩
          rcases getElem?_concat_cases hnew with hold | ⟨_, rfl⟩
          · exact hfunds new hold
          · exact Nat.zero_le n
      | some j =>
          rcases step_own hstep hl with ⟨task, task', htask, htasks, _⟩
          have hne : i ≠ j := by
            rintro rfl
            exact hown hl
          rw [htasks, getElem?_set_of_some htask, if_neg hne] at hnew
          exact hfunds new hnew

end Ledger

/-!
## Posts of a run
-/

/-- The task made the post when its log was `before`. -/
def Task.Posted (task : Task) (before : List ServiceEvent) (url : String)
    (payload : ConveyorCanPutdownWebhookPayload) : Prop :=
  (exists outcome after,
    task.log = before ++ ⟨.post url payload, outcome⟩ :: after) ∨
  task.phase = .posting ∧ task.log = before ∧
    exists k, task.program = perform (.post url payload) k

section Posted

variable {task : Task} {before : List ServiceEvent} {url : String}
  {payload : ConveyorCanPutdownWebhookPayload}

theorem Task.Posted.prefix (h : task.Posted before url payload) :
    exists rest, task.log = before ++ rest := by
  rcases h with ⟨outcome, after, hlog⟩ | ⟨_, hlog, _⟩
  · exact ⟨_, hlog⟩
  · exact ⟨[], by rw [hlog, List.append_nil]⟩

theorem Task.Posted.reached {conveyor : ConveyorConfig}
    (htrace : After (taskProgram conveyor task.kind) task.log task.program)
    (h : task.Posted before url payload) :
    exists k, After (taskProgram conveyor task.kind) before
      (perform (.post url payload) k) := by
  rcases h with ⟨outcome, after, hlog⟩ | ⟨_, hlog, k, hprogram⟩
  · rw [hlog] at htrace
    exact htrace.before
  · rw [hlog, hprogram] at htrace
    exact ⟨k, htrace⟩

/-- A post that was made before another stands in the log of the other. -/
theorem Task.Posted.event_of_lt (h : task.Posted before url payload)
    {later : List ServiceEvent} {rest : List ServiceEvent}
    (hlater : task.log = later ++ rest) (hlt : before.length < later.length) :
    exists outcome,
      later[before.length]? = some ⟨.post url payload, outcome⟩ := by
  rcases h with ⟨outcome, after, hlog⟩ | ⟨_, hlog, _⟩
  · refine ⟨outcome, ?_⟩
    have hleft : (later ++ rest)[before.length]? = later[before.length]? :=
      List.getElem?_append_left hlt
    rw [<- hleft, <- hlater, hlog,
      List.getElem?_append_right (Nat.le_refl _), Nat.sub_self]
    rfl
  · rw [hlog] at hlater
    rw [hlater, List.length_append] at hlt
    omega

end Posted

theorem ReadEvents.noPost {check : ConveyorReadCheck} {values : List UInt16}
    {reading : List ServiceEvent} (h : ReadEvents check values reading) :
    forall event, event ∈ reading -> NoPost event.1 := by
  rcases h with ⟨runtime, object, result, _, rfl⟩
  simp [ModbusService.connectionEvents, ModbusService.callEvents, NoPost]

/-- A post follows directly on a reading of its own. -/
structure PostedReading (d : Deployment) (task : Task)
    (before : List ServiceEvent) (payload : ConveyorCanPutdownWebhookPayload) :
    Prop where
  triggered : payload.values.head? = some 6
  read : exists check earlier reading,
    check ∈ d.conveyor.canPutdownChecks ∧ before = earlier ++ reading ∧
      ReadEvents check payload.values reading ∧
      -- the reading came after every post made before
      forall other url payload', task.Posted other url payload' ->
        other.length < before.length -> other.length < earlier.length

theorem posted_reading {d : Deployment} {s : State} (hs : Reachable d s)
    {task : Task} (htask : task ∈ s.tasks) {before : List ServiceEvent}
    {url : String} {payload : ConveyorCanPutdownWebhookPayload}
    (hposted : task.Posted before url payload) :
    PostedReading d task before payload := by
  rcases hposted.reached ((reachable_wired hs).tasks task htask).trace with
    ⟨k, hreached⟩
  rcases task_posting hreached with
    ⟨_, check, values, earlier, reading, hcheck, hcalled, hbefore, hreading⟩
  rcases notification_some hcalled with ⟨hfirst, _, _, _, _, _, rfl⟩
  refine ⟨hfirst, check, earlier, reading, (List.mem_filter.mp hcheck).left,
    hbefore, hreading, ?_⟩
  intro other url' payload' hother hlt
  by_contra hge
  rcases hposted.prefix with ⟨rest, hlog⟩
  rcases hother.event_of_lt hlog hlt with ⟨outcome, hevent⟩
  rw [hbefore, List.getElem?_append_right (Nat.le_of_not_lt hge)] at hevent
  exact hreading.noPost _ (List.mem_of_getElem? hevent)

/-- A task never posts more often than a device answered it with a first
register of 6, and every post follows directly on a successful reading, posts
what was read and has that reading to itself. -/
theorem posts_le_readings (d : Deployment) (s : State) (ls : List Label)
    (hrun : (machine d).Run (State.initial d.modbus) ls s) (i : Nat) :
    ls.countP (Label.posts i) ≤ ls.countP (Label.readsSix i) ∧
      forall task before url payload, s.tasks[i]? = some task ->
        task.Posted before url payload ->
          PostedReading d task before payload := by
  have hinitial : Reachable d (State.initial d.modbus) :=
    Transition.System.Reachable.init rfl
  constructor
  · have hpaid := (creditLedger d i).paid_le (n := 0) hinitial
      (by intro task htask; cases htask) hrun
    rw [total_indicator, total_indicator] at hpaid
    omega
  · intro task before url payload htask hposted
    exact posted_reading (hrun.reachable hinitial) (List.mem_of_getElem? htask)
      hposted

def noticeLabels : List Label :=
  [.startRound] ++ connectLabels 0 ++
    [.send 0, .answer 0 (.values [6, 1]), .release 0]

def noticedLabels : List Label :=
  noticeLabels ++ [.post 0]

theorem posts_le_readings_line :
    exists s task url payload, (machine lineDeployment).Run
        (State.initial lineDeployment.modbus) noticedLabels s ∧
      1 ≤ noticedLabels.countP (Label.readsSix 0) ∧
      s.tasks[0]? = some task ∧ task.Posted task.log url payload ∧
      PostedReading lineDeployment task task.log payload := by
  have hreplay : (replay lineDeployment (State.initial lineDeployment.modbus)
      noticedLabels).any (fun s =>
        s.tasks[0]?.any (fun task => task.phase.isPosting)) = true := by
    decide
  rcases exists_of_replay hreplay with ⟨s, hs, hnotifies⟩
  rcases (Option.any_eq_true _ _).mp hnotifies with ⟨task, htask, hphase⟩
  have hposting := Phase.posting_of_isPosting hphase
  rcases (reachable_shaped (replay_reachable hs) task
    (List.mem_of_getElem? htask)).posting hposting with
    ⟨url, payload, k, hprogram⟩
  have hposted : task.Posted task.log url payload :=
    Or.inr ⟨hposting, rfl, k, hprogram⟩
  have hboth := posts_le_readings lineDeployment s _ (replay_run hs) 0
  exact ⟨s, task, url, payload, replay_run hs, hboth.left, htask, hposted,
    hboth.right task task.log url payload htask hposted⟩

/-- The entry a post of the task is about. -/
structure CalledFor (d : Deployment) (task : Task) (url : String)
    (payload : ConveyorCanPutdownWebhookPayload) (check : ConveyorReadCheck) :
    Prop where
  round : task.kind = .round
  configured : check ∈ d.conveyor.canPutdownChecks
  webhook : exists name webhook, check.hookNotify = some name ∧
    d.conveyor.findWebhook name = some webhook ∧ webhook.url = url
  location : payload.location = check.location
  triggered : payload.values.head? = some 6
  read : exists before runtime object result,
    result.outcome = .ok (.ok (.ok payload.values)) ∧
      object.connection.addr = check.device ∧
      object.connection.slaveId = check.slaveId ∧
      object.connection.context.slave = check.slaveId ∧
      task.log = before ++
        (ModbusService.connectionEvents check.device check.slaveId runtime
            (.ok object) ++
          ModbusService.callEvents object
            (.readHoldingRegisters check.registerAddress check.quantity)
            result)

/-- Whatever is posted was read by the same round just before, from the device
of the entry, and goes to the webhook the entry names. -/
theorem posts_called_for (d : Deployment) (s s' : State) (i : Nat)
    (hs : Reachable d s) (hstep : Step d s (.post i) s') :
    exists task url payload k, s.tasks[i]? = some task ∧
      task.program = perform (.post url payload) k ∧
      exists check, CalledFor d task url payload check := by
  cases hstep with
  | post htask hprogram hphase =>
      rename_i task url payload k
      have hwired := reachable_wired hs
      have htaskWired := hwired.tasks task (List.mem_of_getElem? htask)
      have htrace := htaskWired.trace
      rw [hprogram] at htrace
      rcases task_posting htrace with
        ⟨hround, check, values, before, reading, hcheck, hcalled, hlog,
          runtime, object, result, houtcome, rfl⟩
      rcases notification_some hcalled with
        ⟨hfirst, name, webhook, hname, hwebhook, rfl, rfl⟩
      have hlogged : task.log = before ++ (ModbusService.connectionEvents
          check.target.modbusTarget.address check.target.modbusTarget.slaveId
          runtime (.ok object) ++ _) := hlog
      have howns := owned_of_log hwired htaskWired hlogged
      refine ⟨task, _, _, k, htask, hprogram, check, hround,
        (List.mem_filter.mp hcheck).left, ⟨name, webhook, hname, hwebhook, rfl⟩,
        rfl, hfirst, before, runtime, object, result, houtcome, howns.addr,
        howns.slaveId, howns.slave, hlog⟩

theorem posts_called_for_line :
    exists s task url payload check, Reachable lineDeployment s ∧
      s.tasks[0]? = some task ∧
      CalledFor lineDeployment task url payload check := by
  have hreplay : (replay lineDeployment (State.initial lineDeployment.modbus)
      noticeLabels).any
        (fun s => (advance lineDeployment s (.post 0)).isSome) = true := by
    decide
  rcases exists_of_replay hreplay with ⟨s, hs, hmoves⟩
  rcases Option.isSome_iff_exists.mp hmoves with ⟨s', hadvance⟩
  rcases posts_called_for lineDeployment s s' 0 (replay_reachable hs)
    (advance_sound hadvance) with
    ⟨task, url, payload, _, htask, _, check, hcalled⟩
  exact ⟨s, task, url, payload, check, replay_reachable hs, htask, hcalled⟩

end ConveyorModbus
