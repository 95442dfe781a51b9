import ConveyorModbus.Web.Server

/-!
# One round of the webhook monitor

A round reads the entries of the can-putdown table that name a webhook and use
the supported function, in table order, and posts a notification for those
whose first register is 6 and whose webhook exists.  What happens at one entry
has no influence on any other.
-/

namespace ConveyorModbus

open Effects Program

/-!
## Reads and posts of a trace
-/

structure ReadTarget where
  device : String
  slaveId : UInt8
  registerAddress : UInt16
  quantity : UInt16
  deriving DecidableEq, Repr

def ConveyorReadCheck.target (check : ConveyorReadCheck) : ReadTarget where
  device := check.device
  slaveId := check.slaveId
  registerAddress := check.registerAddress
  quantity := check.quantity

def readTarget : WebEvent -> Option ReadTarget
  | ⟨.readHoldingRegisters device slaveId registerAddress quantity, _⟩ =>
      some { device, slaveId, registerAddress, quantity }
  | _ => none

def readOutcome : WebEvent -> Option (Except ModbusError (List UInt16))
  | ⟨.readHoldingRegisters _ _ _ _, outcome⟩ => some outcome
  | _ => none

def postedTo :
    WebEvent -> Option (String × ConveyorCanPutdownWebhookPayload)
  | ⟨.post url payload, _⟩ => some (url, payload)
  | _ => none

/-!
## What a round is for
-/

def ConveyorReadCheck.polled (check : ConveyorReadCheck) : Bool :=
  check.hookNotify.isSome && check.function = .readHoldingRegisters

def ConveyorConfig.polledChecks (conveyor : ConveyorConfig) :
    List ConveyorReadCheck :=
  conveyor.canPutdownChecks.filter ConveyorReadCheck.polled

/-- The notification an entry calls for, given the outcome of its read. -/
def notification (conveyor : ConveyorConfig) (check : ConveyorReadCheck)
    (outcome : Except ModbusError (List UInt16)) :
    Option (String × ConveyorCanPutdownWebhookPayload) :=
  match outcome, check.hookNotify with
  | .ok values, some name =>
      if values.head? = some 6 then
        (conveyor.webhooks.find? (fun webhook => webhook.name = name)).map
          (fun webhook =>
            (webhook.url, { location := check.location, values := values }))
      else
        none
  | _, _ => none

def PostsFor :
    Option (String × ConveyorCanPutdownWebhookPayload) -> List WebEvent -> Prop
  | some (url, payload), l => exists answer, l = [⟨.post url payload, answer⟩]
  | none, l => l = []

/-!
## One entry
-/

section Entry

variable {conveyor : ConveyorConfig} {check : ConveyorReadCheck}
  {l : List WebEvent}

theorem notify_returns_iff {values : List UInt16}
    (hfirst : values.head? = some 6) :
    Returns (notifyCanPutdownWebhook conveyor check values) l () <->
      PostsFor (notification conveyor check (.ok values)) l := by
  unfold notifyCanPutdownWebhook notification
  cases hname : check.hookNotify with
  | none => simp [returns_ret_iff, PostsFor]
  | some name =>
      simp only [hfirst, if_true, ConveyorConfig.findWebhook]
      cases hwebhook : conveyor.webhooks.find?
          (fun webhook => webhook.name = name) with
      | none => simp [returns_ret_iff, PostsFor]
      | some webhook =>
          simp only [Option.map_some, PostsFor, lift_bind,
            returns_perform_iff]
          constructor
          · intro h
            rcases h with ⟨outcome, rest, rfl, hrest⟩
            rcases returns_ret_iff.mp hrest with ⟨rfl, _⟩
            exact ⟨outcome, rfl⟩
          · intro h
            rcases h with ⟨outcome, rfl⟩
            exact ⟨outcome, [], rfl, After.refl _⟩

/-- A trigger is a first register of 6 at an entry that names a webhook. -/
theorem shouldTrigger_iff (values : List UInt16) :
    shouldTriggerCanPutdownWebhook check values = true <->
      check.hookNotify.isSome = true ∧ values.head? = some 6 := by
  unfold shouldTriggerCanPutdownWebhook
  cases values <;> simp

theorem pollCheck_eq (conveyor : ConveyorConfig)
    (hfunction : check.function = .readHoldingRegisters) :
    exists k, pollCheck conveyor check =
        perform (.readHoldingRegisters check.device check.slaveId
          check.registerAddress check.quantity) k ∧
      (forall values, k (.ok values) =
        if shouldTriggerCanPutdownWebhook check values then
          notifyCanPutdownWebhook conveyor check values
        else
          pure ()) ∧
      forall err, k (.error err) = pure () := by
  unfold pollCheck executeCanPutdownCheck
  simp only [hfunction]
  exact ⟨_, rfl, fun _ => rfl, fun _ => rfl⟩

theorem handled_returns_iff (hnotify : check.hookNotify.isSome = true)
    (values : List UInt16) :
    Returns
        (if shouldTriggerCanPutdownWebhook check values then
          notifyCanPutdownWebhook conveyor check values
        else
          pure ()) l () <->
      PostsFor (notification conveyor check (.ok values)) l := by
  by_cases hfirst : values.head? = some 6
  · have htrigger : shouldTriggerCanPutdownWebhook check values = true :=
      (shouldTrigger_iff values).mpr ⟨hnotify, hfirst⟩
    simp only [htrigger, if_true]
    exact notify_returns_iff hfirst
  · have htrigger : shouldTriggerCanPutdownWebhook check values = false := by
      rw [Bool.eq_false_iff]
      intro htrue
      exact hfirst ((shouldTrigger_iff values).mp htrue).right
    simp only [htrigger, Bool.false_eq_true, if_false]
    rcases Option.isSome_iff_exists.mp hnotify with ⟨name, hname⟩
    simp [returns_ret_iff, notification, hname, hfirst, PostsFor]

/-- Polling a polled entry reads it once and posts what it calls for. -/
theorem pollCheck_returns_iff (hpolled : check.polled = true) :
    Returns (pollCheck conveyor check) l () <->
      exists outcome posts,
        l = ⟨.readHoldingRegisters check.device check.slaveId
          check.registerAddress check.quantity, outcome⟩ :: posts ∧
        PostsFor (notification conveyor check outcome) posts := by
  simp only [ConveyorReadCheck.polled, Bool.and_eq_true, decide_eq_true_eq]
    at hpolled
  rcases hpolled with ⟨hnotify, hfunction⟩
  rcases pollCheck_eq conveyor hfunction with
    ⟨k, hread, hvalues, hfailed⟩
  have hposts : forall outcome posts, Returns (k outcome) posts () <->
      PostsFor (notification conveyor check outcome) posts := by
    intro outcome posts
    cases outcome with
    | ok values =>
        rw [hvalues]
        exact handled_returns_iff hnotify values
    | error err =>
        rw [hfailed]
        simp [returns_ret_iff, notification, PostsFor]
  rw [hread, returns_perform_iff]
  simp only [hposts]

theorem pollCheck_of_not_polled (hnotify : check.hookNotify.isSome = true)
    (hnot : check.polled = false) : pollCheck conveyor check = pure () := by
  have hfunction : check.function ≠ .readHoldingRegisters := by
    intro hread
    simp [ConveyorReadCheck.polled, hnotify, hread] at hnot
  unfold pollCheck executeCanPutdownCheck
  cases hcheck : check.function with
  | readHoldingRegisters => exact absurd hcheck hfunction
  | readCoils => rfl
  | readDiscreteInputs => rfl
  | readInputRegisters => rfl

theorem pollCheck_returns_of_not_polled (hnotify : check.hookNotify.isSome = true)
    (hnot : check.polled = false) :
    Returns (pollCheck conveyor check) l () <-> l = [] := by
  rw [pollCheck_of_not_polled hnotify hnot]
  simp [returns_ret_iff]

theorem postsFor_iff (expected : Option (String × ConveyorCanPutdownWebhookPayload))
    (h : PostsFor expected l) :
    l.filterMap readTarget = [] ∧ l.filterMap readOutcome = [] ∧
      l.filterMap postedTo = expected.toList := by
  cases expected with
  | none =>
      rw [show l = [] from h]
      exact ⟨rfl, rfl, rfl⟩
  | some post =>
      rcases h with ⟨answer, rfl⟩
      exact ⟨rfl, rfl, rfl⟩

end Entry

/-!
## The whole table
-/

section Table

variable {conveyor : ConveyorConfig} {l : List WebEvent}

theorem pollChecks_returns_cons_iff {check : ConveyorReadCheck}
    {checks : List ConveyorReadCheck} :
    Returns (pollChecks conveyor (check :: checks)) l () <->
      exists first rest, l = first ++ rest ∧
        Returns (pollCheck conveyor check) first () ∧
        Returns (pollChecks conveyor checks) rest () := by
  show Returns (pollCheck conveyor check >>= fun _ =>
    pollChecks conveyor checks) l () <-> _
  rw [returns_bind_iff]
  constructor
  · intro h
    rcases h with ⟨first, _, rest, rfl, hfirst, hrest⟩
    exact ⟨first, rest, rfl, hfirst, hrest⟩
  · intro h
    rcases h with ⟨first, rest, rfl, hfirst, hrest⟩
    exact ⟨first, (), rest, rfl, hfirst, hrest⟩

theorem pollChecks_returns {checks : List ConveyorReadCheck}
    (hnotify : forall check, check ∈ checks -> check.hookNotify.isSome = true)
    (h : Returns (pollChecks conveyor checks) l ()) :
    l.filterMap readTarget =
        (checks.filter ConveyorReadCheck.polled).map ConveyorReadCheck.target ∧
      (l.filterMap readOutcome).length =
        (checks.filter ConveyorReadCheck.polled).length ∧
      l.filterMap postedTo =
        ((checks.filter ConveyorReadCheck.polled).zip
          (l.filterMap readOutcome)).filterMap
            (fun entry => notification conveyor entry.1 entry.2) := by
  induction checks generalizing l with
  | nil =>
      rw [(returns_ret_iff.mp h).left]
      exact ⟨rfl, rfl, rfl⟩
  | cons check checks ih =>
      rcases pollChecks_returns_cons_iff.mp h with
        ⟨first, rest, rfl, hfirst, hrest⟩
      have hcheck := hnotify check List.mem_cons_self
      rcases ih (fun other hother =>
        hnotify other (List.mem_cons_of_mem check hother)) hrest with
        ⟨hreads, hlength, hposts⟩
      cases hpolled : check.polled with
      | true =>
          rcases (pollCheck_returns_iff hpolled).mp hfirst with
            ⟨outcome, posts, rfl, hnotified⟩
          rcases postsFor_iff _ hnotified with ⟨hnoRead, hnoOutcome, hposted⟩
          rw [List.filter_cons_of_pos hpolled]
          simp only [List.cons_append, List.filterMap_cons,
            List.filterMap_append, readTarget, readOutcome, postedTo,
            hnoRead, hnoOutcome, hposted, List.nil_append]
          refine ⟨?_, ?_, ?_⟩
          · rw [hreads]
            rfl
          · rw [List.length_cons, List.length_cons, hlength]
          · rw [hposts, List.zip_cons_cons, List.filterMap_cons]
            cases notification conveyor check outcome <;> rfl
      | false =>
          rw [(pollCheck_returns_of_not_polled hcheck hpolled).mp hfirst,
            List.nil_append, List.filter_cons_of_neg (by simp [hpolled])]
          exact ⟨hreads, hlength, hposts⟩

def postEvents
    (answer : String -> ConveyorCanPutdownWebhookPayload -> PostOutcome) :
    Option (String × ConveyorCanPutdownWebhookPayload) -> List WebEvent
  | some (url, payload) => [⟨.post url payload, answer url payload⟩]
  | none => []

theorem postsFor_postEvents
    (answer : String -> ConveyorCanPutdownWebhookPayload -> PostOutcome)
    (expected : Option (String × ConveyorCanPutdownWebhookPayload)) :
    PostsFor expected (postEvents answer expected) := by
  cases expected with
  | none => rfl
  | some post => exact ⟨answer post.1 post.2, rfl⟩

theorem mem_postEvents
    {answer : String -> ConveyorCanPutdownWebhookPayload -> PostOutcome}
    {expected : Option (String × ConveyorCanPutdownWebhookPayload)}
    {url : String} {payload : ConveyorCanPutdownWebhookPayload}
    {outcome : PostOutcome}
    (h : (⟨.post url payload, outcome⟩ : WebEvent) ∈
      postEvents answer expected) : outcome = answer url payload := by
  cases expected with
  | none => cases h
  | some post =>
      cases List.mem_singleton.mp h
      rfl

/-- Whatever the reads return and the webhooks answer, there is such a round. -/
theorem pollChecks_total {checks : List ConveyorReadCheck}
    (hnotify : forall check, check ∈ checks -> check.hookNotify.isSome = true)
    (outcomes : List (Except ModbusError (List UInt16)))
    (hlength : outcomes.length =
      (checks.filter ConveyorReadCheck.polled).length)
    (answer : String -> ConveyorCanPutdownWebhookPayload -> PostOutcome) :
    exists l, Returns (pollChecks conveyor checks) l () ∧
      l.filterMap readOutcome = outcomes ∧
      forall url payload outcome,
        (⟨.post url payload, outcome⟩ : WebEvent) ∈ l ->
          outcome = answer url payload := by
  induction checks generalizing outcomes with
  | nil =>
      have hnil : outcomes = [] := List.eq_nil_of_length_eq_zero hlength
      subst hnil
      exact ⟨[], After.refl _, rfl, by simp⟩
  | cons check checks ih =>
      have hcheck := hnotify check List.mem_cons_self
      have hrest : forall other, other ∈ checks ->
          other.hookNotify.isSome = true := fun other hother =>
        hnotify other (List.mem_cons_of_mem check hother)
      cases hpolled : check.polled with
      | true =>
          rw [List.filter_cons_of_pos hpolled, List.length_cons] at hlength
          cases outcomes with
          | nil => cases hlength
          | cons outcome outcomes =>
              rcases ih hrest outcomes (Nat.succ.inj hlength) with
                ⟨rest, hreturns, houtcomes, hanswers⟩
              have hposts := postsFor_postEvents answer
                (notification conveyor check outcome)
              have hfirst : Returns (pollCheck conveyor check) _ () :=
                (pollCheck_returns_iff hpolled).mpr ⟨outcome, _, rfl, hposts⟩
              refine ⟨_, pollChecks_returns_cons_iff.mpr
                ⟨_, rest, rfl, hfirst, hreturns⟩, ?_, ?_⟩
              · rw [List.filterMap_append, List.filterMap_cons]
                simp only [readOutcome, (postsFor_iff _ hposts).right.left,
                  houtcomes, List.cons_append, List.nil_append]
              · intro url payload found hmem
                simp only [List.cons_append, List.mem_cons, List.mem_append]
                  at hmem
                rcases hmem with hread | hpost | hlater
                · cases hread
                · exact mem_postEvents hpost
                · exact hanswers url payload found hlater
      | false =>
          rw [List.filter_cons_of_neg (by simp [hpolled])] at hlength
          rcases ih hrest outcomes hlength with
            ⟨rest, hreturns, houtcomes, hanswers⟩
          refine ⟨rest, ?_, houtcomes, hanswers⟩
          exact pollChecks_returns_cons_iff.mpr ⟨[], rest, rfl,
            (pollCheck_returns_of_not_polled hcheck hpolled).mpr rfl, hreturns⟩

theorem polledChecks_eq (conveyor : ConveyorConfig) :
    (conveyor.canPutdownChecks.filter
        (fun check => check.hookNotify.isSome)).filter
      ConveyorReadCheck.polled = conveyor.polledChecks := by
  rw [List.filter_filter]
  apply List.filter_congr
  intro check _
  simp only [ConveyorReadCheck.polled]
  cases check.hookNotify.isSome <;> simp

theorem round_checks_notify (conveyor : ConveyorConfig) :
    forall check, check ∈ conveyor.canPutdownChecks.filter
      (fun check => check.hookNotify.isSome) ->
        check.hookNotify.isSome = true := by
  intro check hcheck
  exact (List.mem_filter.mp hcheck).right

theorem round_returns
    (h : Returns (canPutdownWebhookRound conveyor) l ()) :
    l.filterMap readTarget =
        conveyor.polledChecks.map ConveyorReadCheck.target ∧
      (l.filterMap readOutcome).length = conveyor.polledChecks.length ∧
      l.filterMap postedTo =
        (conveyor.polledChecks.zip (l.filterMap readOutcome)).filterMap
          (fun entry => notification conveyor entry.1 entry.2) := by
  rw [<- polledChecks_eq]
  exact pollChecks_returns (round_checks_notify conveyor) h

end Table

/-- A round reads exactly the polled entries, each once and in table order, and
posts exactly the notifications their outcomes call for; and every choice of
outcomes and answers is one of some round. -/
theorem round_exact (conveyor : ConveyorConfig) :
    (forall l, Returns (canPutdownWebhookRound conveyor) l () ->
      l.filterMap readTarget =
          conveyor.polledChecks.map ConveyorReadCheck.target ∧
        (l.filterMap readOutcome).length = conveyor.polledChecks.length ∧
        l.filterMap postedTo =
          (conveyor.polledChecks.zip (l.filterMap readOutcome)).filterMap
            (fun entry => notification conveyor entry.1 entry.2)) ∧
    (forall (outcomes : List (Except ModbusError (List UInt16)))
      (answer : String -> ConveyorCanPutdownWebhookPayload -> PostOutcome),
      outcomes.length = conveyor.polledChecks.length ->
      exists l, Returns (canPutdownWebhookRound conveyor) l () ∧
        l.filterMap readOutcome = outcomes ∧
        forall url payload outcome,
          (⟨.post url payload, outcome⟩ : WebEvent) ∈ l ->
            outcome = answer url payload) := by
  refine ⟨fun l h => round_returns h, ?_⟩
  intro outcomes answer hlength
  rw [<- polledChecks_eq] at hlength
  exact pollChecks_total (round_checks_notify conveyor) outcomes hlength answer

/-!
## A round under way

At each of its await points a round is about to read a polled entry, or to post
what the read it has just made calls for.
-/

inductive RoundAwaits (conveyor : ConveyorConfig) :
    List WebEvent -> WebEffect -> Prop where
  | read {check : ConveyorReadCheck} {l : List WebEvent} :
      check.polled = true ->
      check ∈ conveyor.canPutdownChecks ->
      RoundAwaits conveyor l
        (.readHoldingRegisters check.device check.slaveId
          check.registerAddress check.quantity)
  | post {check : ConveyorReadCheck} {l : List WebEvent}
      {values : List UInt16} {url : String}
      {payload : ConveyorCanPutdownWebhookPayload} :
      check.polled = true ->
      check ∈ conveyor.canPutdownChecks ->
      notification conveyor check (.ok values) = some (url, payload) ->
      RoundAwaits conveyor
        (l ++ [⟨.readHoldingRegisters check.device check.slaveId
          check.registerAddress check.quantity, .ok values⟩])
        (.post url payload)

theorem RoundAwaits.later {conveyor : ConveyorConfig} {l : List WebEvent}
    {e : WebEffect} (h : RoundAwaits conveyor l e) (before : List WebEvent) :
    RoundAwaits conveyor (before ++ l) e := by
  cases h with
  | read hpolled hmem => exact RoundAwaits.read hpolled hmem
  | post hpolled hmem hcalled =>
      rw [<- List.append_assoc]
      exact RoundAwaits.post hpolled hmem hcalled

section UnderWay

variable {conveyor : ConveyorConfig} {check : ConveyorReadCheck}
  {l : List WebEvent} {e : WebEffect} {k : e.Reply -> WebProgram Unit}

theorem notify_awaits {values : List UInt16}
    (htrigger : shouldTriggerCanPutdownWebhook check values = true)
    (h : After (notifyCanPutdownWebhook conveyor check values) l
      (perform e k)) :
    l = [] ∧ exists url payload, e = .post url payload ∧
      notification conveyor check (.ok values) = some (url, payload) := by
  rcases (shouldTrigger_iff values).mp htrigger with ⟨_, hfirst⟩
  unfold notifyCanPutdownWebhook at h
  unfold notification
  cases hname : check.hookNotify with
  | none =>
      rw [hname] at h
      cases h
  | some name =>
      simp only [hname, ConveyorConfig.findWebhook] at h
      simp only [hfirst, if_true]
      cases hwebhook : conveyor.webhooks.find?
          (fun webhook => webhook.name = name) with
      | none =>
          rw [hwebhook] at h
          cases h
      | some webhook =>
          simp only [hwebhook, lift_bind] at h
          rcases after_perform_iff.mp h with
            ⟨rfl, hhead⟩ | ⟨answer, rest, _, hrest⟩
          · cases hhead
            exact ⟨rfl, _, _, rfl, rfl⟩
          · cases hrest

theorem pollCheck_awaits (hmem : check ∈ conveyor.canPutdownChecks)
    (hnotify : check.hookNotify.isSome = true)
    (h : After (pollCheck conveyor check) l (perform e k)) :
    RoundAwaits conveyor l e := by
  by_cases hfunction : check.function = .readHoldingRegisters
  · have hpolled : check.polled = true := by
      simp [ConveyorReadCheck.polled, hnotify, hfunction]
    rcases pollCheck_eq conveyor hfunction with
      ⟨next, hread, hvalues, hfailed⟩
    rw [hread] at h
    rcases after_perform_iff.mp h with
      ⟨rfl, hhead⟩ | ⟨outcome, rest, rfl, hrest⟩
    · cases hhead
      exact RoundAwaits.read hpolled hmem
    · cases outcome with
      | error err =>
          rw [hfailed] at hrest
          cases hrest
      | ok values =>
          rw [hvalues] at hrest
          split at hrest
          · rename_i htrigger
            rcases notify_awaits htrigger hrest with
              ⟨rfl, url, payload, rfl, hcalled⟩
            exact RoundAwaits.post (l := []) hpolled hmem hcalled
          · cases hrest
  · unfold pollCheck executeCanPutdownCheck at h
    cases hcheck : check.function with
    | readHoldingRegisters => exact absurd hcheck hfunction
    | readCoils =>
        rw [hcheck] at h
        cases h
    | readDiscreteInputs =>
        rw [hcheck] at h
        cases h
    | readInputRegisters =>
        rw [hcheck] at h
        cases h

theorem pollChecks_awaits {checks : List ConveyorReadCheck}
    (hmem : checks ⊆ conveyor.canPutdownChecks)
    (hnotify : forall check, check ∈ checks -> check.hookNotify.isSome = true)
    (h : After (pollChecks conveyor checks) l (perform e k)) :
    RoundAwaits conveyor l e := by
  -- the induction is on the checks that are left in the round
  induction checks generalizing l with
  | nil => cases h
  | cons check checks ih =>
      have hafter : After (pollCheck conveyor check >>= fun _ =>
          pollChecks conveyor checks) l (perform e k) := h
      rcases after_bind hafter with
        ⟨f, inner, hinner, hhead⟩ | ⟨first, _, rest, rfl, _, hrest⟩
      · cases hhead
        exact pollCheck_awaits (hmem List.mem_cons_self)
          (hnotify check List.mem_cons_self) hinner
      · refine RoundAwaits.later (ih ?_ ?_ hrest) first
        · intro other hother
          exact hmem (List.mem_cons_of_mem check hother)
        · intro other hother
          exact hnotify other (List.mem_cons_of_mem check hother)

theorem round_awaits
    (h : After (canPutdownWebhookRound conveyor) l (perform e k)) :
    RoundAwaits conveyor l e := by
  refine pollChecks_awaits ?_ (round_checks_notify conveyor) h
  intro check hcheck
  exact (List.mem_filter.mp hcheck).left

end UnderWay

end ConveyorModbus
