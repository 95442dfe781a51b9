import ConveyorModbus.Modbus.Pool

/-!
# Retrying a connection

What `create` does against a network, attempt by attempt.  The network is given
by the outcome of every attempt number, so one sequence of outcomes fixes one
run: the attempts made, the sleeps between them, the result and a bound on the
time all of it takes.
-/

namespace ConveyorModbus

open Effects Program

abbrev ConnectOutcome : Type := Except Elapsed (Except IoError Context)

def ConnectOutcome.failure : ConnectOutcome -> Option String
  | .ok (.ok _) => none
  | .ok (.error message) => some message
  | .error .elapsed => some "timeout"

def ConnectOutcome.Fails (outcome : ConnectOutcome) : Prop :=
  forall context, outcome ≠ .ok (.ok context)

theorem ConnectOutcome.Fails.failure_eq_some {outcome : ConnectOutcome}
    (h : outcome.Fails) : exists text, outcome.failure = some text := by
  rcases outcome with ⟨⟨⟩⟩ | message | context
  · exact ⟨"timeout", rfl⟩
  · exact ⟨message, rfl⟩
  · exact absurd rfl (h context)

theorem ConnectOutcome.failure_eq_some_iff {outcome : ConnectOutcome}
    {text : String} :
    outcome.failure = some text <->
      outcome = .ok (.error text) ∨
        (outcome = .error .elapsed ∧ text = "timeout") := by
  rcases outcome with ⟨⟨⟩⟩ | message | context
  · simp [failure, eq_comm]
  · simp [failure]
  · simp [failure]

/-- The network in which attempt number `i` comes to `outcomes i`. -/
def network (outcomes : Nat -> ConnectOutcome) :
    Environment NetEffect NetEffect.Reply Nat where
  answer
    | attempt, .connect _ _ => outcomes attempt
    | _, .sleep _ => ()
    | _, .disconnect _ => .ok ()
  next
    | attempt, .connect _ _ => attempt + 1
    | attempt, _ => attempt

/-!
## Traces of attempts and sleeps
-/

def attemptsOf : List (Event NetEffect.Reply) -> List ConnectOutcome
  | [] => []
  | ⟨.connect _ _, outcome⟩ :: l => outcome :: attemptsOf l
  | ⟨.sleep _, _⟩ :: l => attemptsOf l
  | ⟨.disconnect _, _⟩ :: l => attemptsOf l

def sleepsOf : List (Event NetEffect.Reply) -> List Duration
  | [] => []
  | ⟨.connect _ _, _⟩ :: l => sleepsOf l
  | ⟨.sleep delay, _⟩ :: l => delay :: sleepsOf l
  | ⟨.disconnect _, _⟩ :: l => sleepsOf l

/-- How long an effect may take: an attempt ends by its deadline and a sleep
lasts for its delay. -/
def NetEffect.Takes : NetEffect -> Duration -> Prop
  | connect connectTimeout _, wait => wait ≤ connectTimeout
  | sleep delay, wait => wait = delay
  | disconnect _, _ => True

inductive TotalWait : List (Event NetEffect.Reply) -> Duration -> Prop where
  | nil : TotalWait [] 0
  | cons {event : Event NetEffect.Reply} {l : List (Event NetEffect.Reply)}
      {wait total : Duration} :
      event.1.Takes wait -> TotalWait l total ->
      TotalWait (event :: l) (wait + total)

/-- Attempt `k` is the first to connect, and it is among the first `limit`. -/
structure ConnectsFirst (outcomes : Nat -> ConnectOutcome) (limit k : Nat)
    (context : Context) : Prop where
  positive : 1 ≤ k
  within : k ≤ limit
  connected : outcomes k = .ok (.ok context)
  fails : forall j, 1 ≤ j -> j < k -> (outcomes j).Fails

theorem ConnectsFirst.mono {outcomes : Nat -> ConnectOutcome}
    {limit limit' k : Nat} {context : Context}
    (h : ConnectsFirst outcomes limit k context) (hle : limit ≤ limit') :
    ConnectsFirst outcomes limit' k context :=
  { h with within := Nat.le_trans h.within hle }

theorem connectsFirst_or_fails (outcomes : Nat -> ConnectOutcome)
    (limit : Nat) :
    (exists k context, ConnectsFirst outcomes limit k context) ∨
      forall j, 1 ≤ j -> j ≤ limit -> (outcomes j).Fails := by
  induction limit with
  | zero =>
      apply Or.inr
      intro j hlow hhigh
      omega
  | succ limit ih =>
      rcases ih with ⟨k, context, hfirst⟩ | hfails
      · exact Or.inl ⟨k, context, hfirst.mono (Nat.le_succ limit)⟩
      · by_cases hnext : (outcomes (limit + 1)).Fails
        · apply Or.inr
          intro j hlow hhigh
          rcases Nat.lt_or_eq_of_le hhigh with hlt | rfl
          · exact hfails j hlow (Nat.le_of_lt_succ hlt)
          · exact hnext
        · apply Or.inl
          simp only [ConnectOutcome.Fails, not_forall, not_not] at hnext
          rcases hnext with ⟨context, hconnected⟩
          exists limit + 1, context
          constructor
          · omega
          · exact Nat.le_refl (limit + 1)
          · exact hconnected
          · intro j hlow hlt
            exact hfails j hlow (Nat.le_of_lt_succ hlt)

namespace ModbusManager

def attemptLimit (manager : ModbusManager) : Nat :=
  max manager.maxConnectAttempts 1

def createRun (parse : String -> Option SocketAddr) (manager : ModbusManager)
    (outcomes : Nat -> ConnectOutcome) :
    List (Event NetEffect.Reply) × Except ManagerError ManagedConnection :=
  play (network outcomes) 1 (manager.create parse)

/-- It is the one complete trace of `create` with these outcomes. -/
theorem createRun_iff (parse : String -> Option SocketAddr)
    (manager : ModbusManager) (outcomes : Nat -> ConnectOutcome)
    (l : List (Event NetEffect.Reply))
    (result : Except ManagerError ManagedConnection) :
    Returns (manager.create parse) l result ∧
        (network outcomes).Answers 1 l <->
      (l, result) = manager.createRun parse outcomes :=
  returns_and_answers_iff (network outcomes) 1 (manager.create parse) l result

variable (manager : ModbusManager) (socketAddr : SocketAddr)
  (outcomes : Nat -> ConnectOutcome)

def attemptEvent (attempt : Nat) : Event NetEffect.Reply :=
  ⟨.connect manager.connectTimeout socketAddr, outcomes attempt⟩

def sleepEvent : Event NetEffect.Reply :=
  ⟨.sleep manager.reconnectDelay, ()⟩

/-- `count` attempts from number `first` on, each followed by a sleep. -/
def failing (first count : Nat) : List (Event NetEffect.Reply) :=
  (List.range' first count).flatMap (fun attempt =>
    [manager.attemptEvent socketAddr outcomes attempt, manager.sleepEvent])

def attempted (k : Nat) : List (Event NetEffect.Reply) :=
  manager.failing socketAddr outcomes 1 (k - 1) ++
    [manager.attemptEvent socketAddr outcomes k]

/-!
## What such a trace holds

The number of attempts and of sleeps, and the time they take.
-/

theorem attemptsOf_append (l m : List (Event NetEffect.Reply)) :
    attemptsOf (l ++ m) = attemptsOf l ++ attemptsOf m := by
  induction l with
  | nil => rfl
  | cons event l ih =>
      rcases event with ⟨connectTimeout | delay | context, reply⟩
      · exact congrArg (List.cons reply) ih
      · exact ih
      · exact ih

theorem sleepsOf_append (l m : List (Event NetEffect.Reply)) :
    sleepsOf (l ++ m) = sleepsOf l ++ sleepsOf m := by
  induction l with
  | nil => rfl
  | cons event l ih =>
      rcases event with ⟨connectTimeout | delay | context, reply⟩
      · exact ih
      · exact congrArg (List.cons delay) ih
      · exact ih

variable {manager socketAddr outcomes}

theorem failing_succ (first count : Nat) :
    manager.failing socketAddr outcomes first (count + 1) =
      manager.attemptEvent socketAddr outcomes first :: manager.sleepEvent ::
        manager.failing socketAddr outcomes (first + 1) count := by
  simp [failing, List.range'_succ]

theorem attemptsOf_failing (first count : Nat) :
    attemptsOf (manager.failing socketAddr outcomes first count) =
      (List.range' first count).map outcomes := by
  induction count generalizing first with
  | zero => rfl
  | succ count ih =>
      rw [failing_succ, List.range'_succ, List.map_cons, <- ih (first + 1)]
      rfl

theorem sleepsOf_failing (first count : Nat) :
    sleepsOf (manager.failing socketAddr outcomes first count) =
      List.replicate count manager.reconnectDelay := by
  induction count generalizing first with
  | zero => rfl
  | succ count ih =>
      rw [failing_succ, List.replicate_succ, <- ih (first + 1)]
      rfl

theorem attemptsOf_attempted {k : Nat} (hk : 1 ≤ k) :
    attemptsOf (manager.attempted socketAddr outcomes k) =
      (List.range' 1 k).map outcomes := by
  have hlast : attemptsOf [manager.attemptEvent socketAddr outcomes k] =
      [outcomes k] := rfl
  rcases Nat.exists_eq_add_of_le hk with ⟨before, rfl⟩
  rw [attempted, attemptsOf_append, attemptsOf_failing, hlast,
    Nat.add_comm 1 before, List.range'_1_concat, List.map_append,
    Nat.add_comm before 1, Nat.add_sub_cancel_left]
  rfl

theorem sleepsOf_attempted (k : Nat) :
    sleepsOf (manager.attempted socketAddr outcomes k) =
      List.replicate (k - 1) manager.reconnectDelay := by
  rw [attempted, sleepsOf_append, sleepsOf_failing]
  exact List.append_nil _

/-- No sleep follows the last attempt, so its deadline stands alone. -/
theorem totalWait_le {first count k : Nat} {total : Duration}
    (h : TotalWait (manager.failing socketAddr outcomes first count ++
      [manager.attemptEvent socketAddr outcomes k]) total) :
    total ≤ (count + 1) * manager.connectTimeout +
      count * manager.reconnectDelay := by
  induction count generalizing first total with
  | zero =>
      cases h with
      | cons hattempt hnil =>
          cases hnil
          rw [Nat.zero_add, Nat.one_mul, Nat.zero_mul]
          exact hattempt
  | succ count ih =>
      rw [failing_succ] at h
      cases h with
      | cons hattempt hafter =>
          cases hafter with
          | cons hsleep hrest =>
              have hwaits := Nat.add_le_add hattempt
                (Nat.add_le_add (Nat.le_of_eq hsleep) (ih hrest))
              apply Nat.le_trans hwaits (Nat.le_of_eq _)
              rw [Nat.succ_mul (count + 1), Nat.succ_mul count
                manager.reconnectDelay]
              omega

/-!
## The loop, attempt by attempt
-/

variable (manager socketAddr) (limit : Nat)

theorem play_connectLoop_connected {i : Nat} {context : Context}
    (hconnected : outcomes i = .ok (.ok context)) (attempts : List Nat)
    (lastError : Option String) :
    play (network outcomes) i
        (manager.connectLoop socketAddr limit (i :: attempts) lastError) =
      ([manager.attemptEvent socketAddr outcomes i],
        .ok (manager.established context)) := by
  simp only [connectLoop, lift_bind, play_perform, network, hconnected,
    attemptEvent, pure_eq, play_ret]

/-- A failed attempt is followed by a sleep unless it was the last one allowed,
and leaves its text to the rest of the loop. -/
theorem play_connectLoop_failed {i : Nat} {text : String}
    (htext : (outcomes i).failure = some text) (attempts : List Nat)
    (lastError : Option String) :
    play (network outcomes) i
        (manager.connectLoop socketAddr limit (i :: attempts) lastError) =
      (manager.attemptEvent socketAddr outcomes i ::
          (if i < limit then [manager.sleepEvent] else []) ++
          (play (network outcomes) (i + 1)
            (manager.connectLoop socketAddr limit attempts (some text))).1,
        (play (network outcomes) (i + 1)
          (manager.connectLoop socketAddr limit attempts (some text))).2) := by
  unfold attemptEvent
  rcases houtcome : outcomes i with ⟨⟨⟩⟩ | message | context
  · rw [houtcome] at htext
    cases htext
    by_cases hmore : i < limit
    · simp [connectLoop, play_perform, network, houtcome, hmore, sleepEvent]
    · simp [connectLoop, play_perform, network, houtcome, hmore]
  · rw [houtcome] at htext
    cases htext
    by_cases hmore : i < limit
    · simp [connectLoop, play_perform, network, houtcome, hmore, sleepEvent]
    · simp [connectLoop, play_perform, network, houtcome, hmore]
  · rw [houtcome] at htext
    cases htext

theorem play_connectLoop_failing {i count : Nat}
    (hfails : forall j, i ≤ j -> j < i + count -> (outcomes j).Fails)
    (hlimit : i + count ≤ limit) (more : Nat) (lastError : Option String) :
    exists lastError',
      play (network outcomes) i
          (manager.connectLoop socketAddr limit (List.range' i (count + more))
            lastError) =
        (manager.failing socketAddr outcomes i count ++
            (play (network outcomes) (i + count)
              (manager.connectLoop socketAddr limit
                (List.range' (i + count) more) lastError')).1,
          (play (network outcomes) (i + count)
            (manager.connectLoop socketAddr limit
              (List.range' (i + count) more) lastError')).2) := by
  induction count generalizing i lastError with
  | zero =>
      rw [Nat.zero_add]
      exact ⟨lastError, rfl⟩
  | succ count ih =>
      have hfirst : (outcomes i).Fails := by
        apply hfails i (Nat.le_refl i)
        omega
      rcases hfirst.failure_eq_some with ⟨text, htext⟩
      have hrest : forall j, i + 1 ≤ j -> j < i + 1 + count ->
          (outcomes j).Fails := by
        intro j hlow hhigh
        apply hfails j
        · omega
        · omega
      have hmore : i < limit := by omega
      rcases ih hrest (by omega) (some text) with ⟨lastError', hplay⟩
      exists lastError'
      rw [show count + 1 + more = count + more + 1 by omega, List.range'_succ,
        play_connectLoop_failed manager socketAddr limit htext, if_pos hmore,
        hplay, show i + (count + 1) = i + 1 + count by omega, failing_succ]
      rfl

/-!
## The run of `create`
-/

variable {manager socketAddr}

theorem attemptLimit_pos (manager : ModbusManager) :
    1 ≤ manager.attemptLimit :=
  Nat.le_max_right manager.maxConnectAttempts 1

theorem createRun_of_parse_none {parse : String -> Option SocketAddr}
    (hparse : parse manager.addr = none) :
    manager.createRun parse outcomes =
      ([], .error (.invalidAddress manager.addr)) := by
  unfold createRun create parseSocketAddr
  rw [hparse]
  rfl

theorem createRun_of_parse_some {parse : String -> Option SocketAddr}
    (hparse : parse manager.addr = some socketAddr) :
    manager.createRun parse outcomes =
      play (network outcomes) 1
        (manager.connectLoop socketAddr manager.attemptLimit
          (List.range' 1 manager.attemptLimit) none) := by
  unfold createRun create parseSocketAddr
  rw [hparse]
  rfl

theorem createRun_of_connectsFirst {parse : String -> Option SocketAddr}
    (hparse : parse manager.addr = some socketAddr) {k : Nat}
    {context : Context}
    (hfirst : ConnectsFirst outcomes manager.attemptLimit k context) :
    manager.createRun parse outcomes =
      (manager.attempted socketAddr outcomes k,
        .ok (manager.established context)) := by
  rcases hfirst with ⟨hpositive, hwithin, hconnected, hfails⟩
  have hbefore : forall j, 1 ≤ j -> j < 1 + (k - 1) -> (outcomes j).Fails := by
    intro j hlow hhigh
    apply hfails j hlow
    omega
  rcases play_connectLoop_failing manager socketAddr
    manager.attemptLimit hbefore (by omega)
    (manager.attemptLimit - k + 1) none with ⟨lastError, hplay⟩
  rw [show k - 1 + (manager.attemptLimit - k + 1) = manager.attemptLimit by
      omega, show 1 + (k - 1) = k by omega, List.range'_succ,
    play_connectLoop_connected _ _ _ hconnected] at hplay
  rw [createRun_of_parse_some hparse, hplay]
  rfl

theorem createRun_of_fails {parse : String -> Option SocketAddr}
    (hparse : parse manager.addr = some socketAddr)
    (hfails : forall j, 1 ≤ j -> j ≤ manager.attemptLimit ->
      (outcomes j).Fails) :
    exists text, (outcomes manager.attemptLimit).failure = some text ∧
      manager.createRun parse outcomes =
        (manager.attempted socketAddr outcomes manager.attemptLimit,
          .error (.connectFailed manager.addr text)) := by
  have hlimit := attemptLimit_pos manager
  rcases (hfails manager.attemptLimit hlimit (Nat.le_refl _)).failure_eq_some
    with ⟨text, htext⟩
  have hbefore : forall j, 1 ≤ j -> j < 1 + (manager.attemptLimit - 1) ->
      (outcomes j).Fails := by
    intro j hlow hhigh
    apply hfails j hlow
    omega
  rcases play_connectLoop_failing manager socketAddr
    manager.attemptLimit hbefore (by omega) 1 none with ⟨lastError, hplay⟩
  rw [show manager.attemptLimit - 1 + 1 = manager.attemptLimit by omega,
    show 1 + (manager.attemptLimit - 1) = manager.attemptLimit by omega,
    List.range'_succ, play_connectLoop_failed _ _ _ htext,
    if_neg (Nat.lt_irrefl _)] at hplay
  exists text
  constructor
  · exact htext
  · rw [createRun_of_parse_some hparse, hplay]
    rfl

/-- The trace makes `k` attempts and sleeps `k - 1` times, for the delay of the
manager and never after the last attempt. -/
structure Attempts (manager : ModbusManager) (socketAddr : SocketAddr)
    (outcomes : Nat -> ConnectOutcome) (k : Nat)
    (l : List (Event NetEffect.Reply)) : Prop where
  events : l = manager.attempted socketAddr outcomes k
  attempts : attemptsOf l = (List.range' 1 k).map outcomes
  sleeps : sleepsOf l = List.replicate (k - 1) manager.reconnectDelay

theorem attempted_attempts {k : Nat} (hk : 1 ≤ k) :
    manager.Attempts socketAddr outcomes k
      (manager.attempted socketAddr outcomes k) :=
  ⟨rfl, attemptsOf_attempted hk, sleepsOf_attempted k⟩

theorem Attempts.totalWait_le {k : Nat} {l : List (Event NetEffect.Reply)}
    (h : manager.Attempts socketAddr outcomes k l) (hlow : 1 ≤ k)
    (hhigh : k ≤ manager.attemptLimit) {total : Duration}
    (htotal : TotalWait l total) :
    total ≤ manager.attemptLimit * manager.connectTimeout +
      (manager.attemptLimit - 1) * manager.reconnectDelay := by
  rw [h.events, attempted] at htotal
  have hk := ModbusManager.totalWait_le htotal
  rw [Nat.sub_add_cancel hlow] at hk
  apply Nat.le_trans hk
  apply Nat.add_le_add
  · exact Nat.mul_le_mul_right _ hhigh
  · exact Nat.mul_le_mul_right _ (Nat.sub_le_sub_right hhigh 1)

/-- A run of `create` against any sequence of outcomes: it stops at the first
attempt that connects, and otherwise after the last attempt allowed, with the
error of that attempt. -/
theorem create_retries (parse : String -> Option SocketAddr)
    (manager : ModbusManager) (outcomes : Nat -> ConnectOutcome) :
    (parse manager.addr = none ->
      manager.createRun parse outcomes =
        ([], .error (.invalidAddress manager.addr))) ∧
    (forall socketAddr, parse manager.addr = some socketAddr ->
      (forall k context,
        ConnectsFirst outcomes manager.attemptLimit k context ->
        manager.Attempts socketAddr outcomes k
          (manager.createRun parse outcomes).1 ∧
        exists conn, (manager.createRun parse outcomes).2 = .ok conn ∧
          manager.Owns conn ∧ conn.status = true ∧
          conn.context.stream = context.stream) ∧
      ((forall j, 1 ≤ j -> j ≤ manager.attemptLimit -> (outcomes j).Fails) ->
        manager.Attempts socketAddr outcomes manager.attemptLimit
          (manager.createRun parse outcomes).1 ∧
        exists text, (manager.createRun parse outcomes).2 =
            .error (.connectFailed manager.addr text) ∧
          (outcomes manager.attemptLimit = .ok (.error text) ∨
            (outcomes manager.attemptLimit = .error .elapsed ∧
              text = "timeout")))) ∧
    (forall total, TotalWait (manager.createRun parse outcomes).1 total ->
      total ≤ manager.attemptLimit * manager.connectTimeout +
        (manager.attemptLimit - 1) * manager.reconnectDelay) := by
  constructor
  · exact createRun_of_parse_none
  constructor
  · intro socketAddr hparse
    constructor
    · intro k context hfirst
      rw [createRun_of_connectsFirst hparse hfirst]
      exact ⟨attempted_attempts hfirst.positive, _, rfl,
        established_owned manager context, rfl, rfl⟩
    · intro hfails
      rcases createRun_of_fails hparse hfails with ⟨text, htext, hrun⟩
      rw [hrun]
      exact ⟨attempted_attempts (attemptLimit_pos manager), text, rfl,
        ConnectOutcome.failure_eq_some_iff.mp htext⟩
  · intro total htotal
    cases hparse : parse manager.addr with
    | none =>
        rw [createRun_of_parse_none hparse] at htotal
        cases htotal
        exact Nat.zero_le _
    | some socketAddr =>
        rcases connectsFirst_or_fails outcomes manager.attemptLimit with
          ⟨k, context, hfirst⟩ | hfails
        · rw [createRun_of_connectsFirst hparse hfirst] at htotal
          exact (attempted_attempts hfirst.positive).totalWait_le
            hfirst.positive hfirst.within htotal
        · rcases createRun_of_fails hparse hfails with ⟨text, htext, hrun⟩
          rw [hrun] at htotal
          exact (attempted_attempts (attemptLimit_pos manager)).totalWait_le
            (attemptLimit_pos manager) (Nat.le_refl _) htotal

-- The last of three attempts connects, after one refusal and one timeout.
example :
    sleepsOf (createRun SocketAddr.fromStr
      ⟨"10.0.0.1:502", 7, 1000, 500, 3, 2000⟩
      (fun attempt =>
        if attempt = 1 then .ok (.error "refused")
        else if attempt = 2 then .error .elapsed
        else .ok (.ok (Context.attach 0)))).1 = [500, 500] := rfl

end ModbusManager
end ConveyorModbus
