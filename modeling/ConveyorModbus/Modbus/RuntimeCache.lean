import ConveyorModbus.Library.Counting
import ConveyorModbus.Library.ReadWriteLock
import ConveyorModbus.Library.Transition
import ConveyorModbus.Modbus.Runtime

/-!
# The runtime cache under its lock

`ModbusService::runtime` one lock step at a time.  A call looks the target up
under a read guard and, when it misses, asks again under the write guard before
it inserts; any number of calls interleave their steps.  The system below also
lets the caller of a returned runtime take a permit of its pool and run one
operation, so that what the cache promises for the pools can be stated.
-/

namespace ConveyorModbus

open Counting Effects ReadWriteLock

/-!
## The call as a program
-/

inductive LockEffect where
  /-- `self.runtimes.read()` -/
  | read
  /-- `get(&target)` through the read guard -/
  | get (address : String) (slaveId : UInt8)
  /-- the end of the read guard -/
  | dropRead
  /-- `self.runtimes.write()` -/
  | write
  /-- `entry(target).or_insert_with(build)` through the write guard -/
  | entryOrInsert (address : String) (slaveId : UInt8)
  /-- the end of the write guard -/
  | dropWrite
  deriving DecidableEq

abbrev LockEffect.Reply : LockEffect -> Type
  | get _ _ => Option ModbusRuntime
  | entryOrInsert _ _ => ModbusRuntime
  | read | dropRead | write | dropWrite => Unit

abbrev LockProgram (A : Type) : Type :=
  Program LockEffect LockEffect.Reply A

abbrev LockEvent : Type := Event LockEffect.Reply

namespace Lock

abbrev read : LockProgram Unit := Program.lift LockEffect.read

abbrev get (address : String) (slaveId : UInt8) :
    LockProgram (Option ModbusRuntime) :=
  Program.lift (LockEffect.get address slaveId)

abbrev dropRead : LockProgram Unit := Program.lift LockEffect.dropRead

abbrev write : LockProgram Unit := Program.lift LockEffect.write

abbrev entryOrInsert (address : String) (slaveId : UInt8) :
    LockProgram ModbusRuntime :=
  Program.lift (LockEffect.entryOrInsert address slaveId)

abbrev dropWrite : LockProgram Unit := Program.lift LockEffect.dropWrite

end Lock

namespace RuntimeCache

def runtime (address : String) (slaveId : UInt8) :
    LockProgram ModbusRuntime := do
  Lock.read
  match <- Lock.get address slaveId with
  | some runtime => do
      Lock.dropRead
      pure runtime
  | none => do
      -- the guard of the `if let` condition ends before the `else` block
      Lock.dropRead
      Lock.write
      let runtime <- Lock.entryOrInsert address slaveId
      Lock.dropWrite
      pure runtime

/-!
## Interleaved calls
-/

inductive Use where
  /-- still in `runtime`, or waiting for a permit of the pool -/
  | calling
  | operating
  | over
  deriving DecidableEq

structure Call where
  address : String
  slaveId : UInt8
  log : List LockEvent
  program : LockProgram ModbusRuntime
  use : Use

namespace Call

def start (address : String) (slaveId : UInt8) : Call where
  address := address
  slaveId := slaveId
  log := []
  program := runtime address slaveId
  use := .calling

def target (call : Call) : ModbusTarget where
  address := call.address
  slaveId := call.slaveId

def resume (call : Call) (e : LockEffect) (r : e.Reply)
    (k : e.Reply -> LockProgram ModbusRuntime) : Call :=
  { call with log := call.log ++ [⟨e, r⟩], program := k r }

def enter (call : Call) (use : Use) : Call :=
  { call with use := use }

def returned (call : Call) : Option ModbusRuntime :=
  match call.program with
  | .ret runtime => some runtime
  | .perform _ _ => none

end Call

/-- `lent` counts the permits of each pool that are out. -/
structure CacheState where
  service : ModbusService
  lock : RwLock
  calls : List Call
  lent : Nat -> Nat

namespace CacheState

def initial (config : ModbusConfig) : CacheState where
  service := ModbusService.new config
  lock := RwLock.new
  calls := []
  lent := fun _ => 0

def setCall (s : CacheState) (i : Nat) (call : Call) : CacheState :=
  { s with calls := s.calls.set i call }

def addCall (s : CacheState) (call : Call) : CacheState :=
  { s with calls := s.calls ++ [call] }

def setLent (s : CacheState) (id n : Nat) : CacheState :=
  { s with lent := Function.update s.lent id n }

def inFlight (s : CacheState) (target : ModbusTarget) : Nat :=
  total (fun call => if call.target = target ∧ call.use = .operating then 1 else 0)
    s.calls

end CacheState

inductive LockStep (i : Nat) : ModbusService -> RwLock -> (e : LockEffect) ->
    e.Reply -> ModbusService -> RwLock -> Prop where
  | read {service : ModbusService} {lock : RwLock} :
      lock.CanRead ->
      LockStep i service lock .read () service (lock.addReader i)
  | get {service : ModbusService} {lock : RwLock} {address : String}
      {slaveId : UInt8} :
      LockStep i service lock (.get address slaveId)
        (service.lookup address slaveId) service lock
  | dropRead {service : ModbusService} {lock : RwLock} :
      LockStep i service lock .dropRead () service (lock.dropReader i)
  | write {service : ModbusService} {lock : RwLock} :
      lock.CanWrite ->
      LockStep i service lock .write () service (lock.setWriter i)
  | entryOrInsert {service : ModbusService} {lock : RwLock} {address : String}
      {slaveId : UInt8} :
      LockStep i service lock (.entryOrInsert address slaveId)
        (service.entryOrInsert address slaveId).1
        (service.entryOrInsert address slaveId).2 lock
  | dropWrite {service : ModbusService} {lock : RwLock} :
      LockStep i service lock .dropWrite () service lock.dropWriter

inductive CacheLabel where
  | call (address : String) (slaveId : UInt8)
  | lock (i : Nat)
  | acquire (i : Nat)
  | leave (i : Nat)
  deriving DecidableEq

inductive CacheStep : CacheState -> CacheLabel -> CacheState -> Prop where
  | call {s : CacheState} {address : String} {slaveId : UInt8} :
      CacheStep s (.call address slaveId)
        (s.addCall (Call.start address slaveId))
  | lock {s : CacheState} {i : Nat} {call : Call} {e : LockEffect}
      {k : e.Reply -> LockProgram ModbusRuntime} {r : e.Reply}
      {service : ModbusService} {lock : RwLock} :
      s.calls[i]? = some call ->
      call.program = .perform e k ->
      LockStep i s.service s.lock e r service lock ->
      CacheStep s (.lock i)
        ({ s with service := service, lock := lock }.setCall i
          (call.resume e r k))
  /-- The pool lends a permit while fewer than `max_size` are out. -/
  | acquire {s : CacheState} {i : Nat} {call : Call}
      {runtime : ModbusRuntime} :
      s.calls[i]? = some call ->
      call.returned = some runtime ->
      call.use = .calling ->
      s.lent runtime.pool.id < runtime.pool.maxSize ->
      CacheStep s (.acquire i)
        ((s.setLent runtime.pool.id (s.lent runtime.pool.id + 1)).setCall i
          (call.enter .operating))
  /-- The operation ends or its future is dropped. -/
  | finish {s : CacheState} {i : Nat} {call : Call}
      {runtime : ModbusRuntime} :
      s.calls[i]? = some call ->
      call.returned = some runtime ->
      call.use = .operating ->
      CacheStep s (.leave i)
        ((s.setLent runtime.pool.id (s.lent runtime.pool.id - 1)).setCall i
          (call.enter .over))
  /-- The future is dropped while it waits for a permit. -/
  | giveUp {s : CacheState} {i : Nat} {call : Call}
      {runtime : ModbusRuntime} :
      s.calls[i]? = some call ->
      call.returned = some runtime ->
      call.use = .calling ->
      CacheStep s (.leave i) (s.setCall i (call.enter .over))

def system (config : ModbusConfig) :
    Transition.System CacheState CacheLabel where
  init s := s = CacheState.initial config
  step := CacheStep

/-!
## The steps as a function
-/

def lockStep (i : Nat) (service : ModbusService) (lock : RwLock) :
    (e : LockEffect) -> Option (e.Reply × ModbusService × RwLock)
  | .read =>
      if lock.writer = none then
        some ((), service, lock.addReader i)
      else
        none
  | .get address slaveId =>
      some (service.lookup address slaveId, service, lock)
  | .dropRead => some ((), service, lock.dropReader i)
  | .write =>
      if lock.writer = none ∧ lock.readers = [] then
        some ((), service, lock.setWriter i)
      else
        none
  | .entryOrInsert address slaveId =>
      some ((service.entryOrInsert address slaveId).1,
        (service.entryOrInsert address slaveId).2, lock)
  | .dropWrite => some ((), service, lock.dropWriter)

theorem lockStep_sound {i : Nat} {service service' : ModbusService}
    {lock lock' : RwLock} {e : LockEffect} {r : e.Reply}
    (h : lockStep i service lock e = some (r, service', lock')) :
    LockStep i service lock e r service' lock' := by
  cases e with
  | read =>
      simp only [lockStep] at h
      split at h
      · rename_i hcan
        cases h
        exact LockStep.read hcan
      · cases h
  | get address slaveId =>
      cases h
      exact LockStep.get
  | dropRead =>
      cases h
      exact LockStep.dropRead
  | write =>
      simp only [lockStep] at h
      split at h
      · rename_i hcan
        cases h
        exact LockStep.write hcan
      · cases h
  | entryOrInsert address slaveId =>
      cases h
      exact LockStep.entryOrInsert
  | dropWrite =>
      cases h
      exact LockStep.dropWrite

def advanceLock (s : CacheState) (i : Nat) (call : Call) : Option CacheState :=
  match call.program with
  | .perform e k =>
      match lockStep i s.service s.lock e with
      | some (r, service, lock) =>
          some ({ s with service := service, lock := lock }.setCall i
            (call.resume e r k))
      | none => none
  | .ret _ => none

def advance (s : CacheState) : CacheLabel -> Option CacheState
  | .call address slaveId => some (s.addCall (Call.start address slaveId))
  | .lock i =>
      match s.calls[i]? with
      | some call => advanceLock s i call
      | none => none
  | .acquire i =>
      match s.calls[i]? with
      | some call =>
          match call.returned, call.use with
          | some runtime, .calling =>
              if s.lent runtime.pool.id < runtime.pool.maxSize then
                some ((s.setLent runtime.pool.id
                  (s.lent runtime.pool.id + 1)).setCall i
                    (call.enter .operating))
              else
                none
          | _, _ => none
      | none => none
  | .leave i =>
      match s.calls[i]? with
      | some call =>
          match call.returned, call.use with
          | some runtime, .operating =>
              some ((s.setLent runtime.pool.id
                (s.lent runtime.pool.id - 1)).setCall i (call.enter .over))
          | some _, .calling => some (s.setCall i (call.enter .over))
          | _, _ => none
      | none => none

theorem advance_sound {config : ModbusConfig} {s s' : CacheState}
    {label : CacheLabel} (h : advance s label = some s') :
    (system config).step s label s' := by
  cases label with
  | call address slaveId =>
      cases h
      exact CacheStep.call
  | lock i =>
      simp only [advance] at h
      split at h
      · rename_i call hcall
        unfold advanceLock at h
        split at h
        · rename_i e k hprogram
          split at h
          · rename_i r service lock hlock
            cases h
            exact CacheStep.lock hcall hprogram (lockStep_sound hlock)
          · cases h
        · cases h
      · cases h
  | acquire i =>
      simp only [advance] at h
      split at h
      · rename_i call hcall
        split at h
        · rename_i runtime hreturned huse
          split at h
          · rename_i hfree
            cases h
            exact CacheStep.acquire hcall hreturned huse hfree
          · cases h
        · cases h
      · cases h
  | leave i =>
      simp only [advance] at h
      split at h
      · rename_i call hcall
        split at h
        · rename_i runtime hreturned huse
          cases h
          exact CacheStep.finish hcall hreturned huse
        · rename_i runtime hreturned huse
          cases h
          exact CacheStep.giveUp hcall hreturned huse
        · cases h
      · cases h

/-!
## How far a call has come
-/

inductive Lookup where
  | begun
  | reading
  | found (runtime : ModbusRuntime)
  | missed
  | unlocked
  | writing
  | entered (runtime : ModbusRuntime)
  | returning (runtime : ModbusRuntime)

namespace Lookup

def guard : Lookup -> Guard
  | reading | found _ | missed => .read
  | writing | entered _ => .write
  | begun | unlocked | returning _ => .none

def result : Lookup -> Option ModbusRuntime
  | found runtime | entered runtime | returning runtime => some runtime
  | begun | reading | missed | unlocked | writing => none

end Lookup

/-- A call reads and writes the map under the matching guard, asks for the
write lock without a guard, and accesses nothing but its own target. -/
def locking (address : String) (slaveId : UInt8) :
    Typestate LockEffect LockEffect.Reply Lookup where
  allowed
    | .begun, .read => True
    | .reading, .get address' slaveId' =>
        address' = address ∧ slaveId' = slaveId
    | .found _, .dropRead => True
    | .missed, .dropRead => True
    | .unlocked, .write => True
    | .writing, .entryOrInsert address' slaveId' =>
        address' = address ∧ slaveId' = slaveId
    | .entered _, .dropWrite => True
    | _, _ => False
  next
    | _, .read, _ => .reading
    | _, .get _ _, some runtime => .found runtime
    | _, .get _ _, none => .missed
    | .found runtime, .dropRead, _ => .returning runtime
    | _, .dropRead, _ => .unlocked
    | _, .write, _ => .writing
    | _, .entryOrInsert _ _, runtime => .entered runtime
    | .entered runtime, .dropWrite, _ => .returning runtime
    | lookup, .dropWrite, _ => lookup

def Returns (lookup : Lookup) (runtime : ModbusRuntime) : Prop :=
  lookup = .returning runtime

theorem runtime_follows (address : String) (slaveId : UInt8) :
    Program.Follows (locking address slaveId) (runtime address slaveId)
      .begun Returns := by
  refine ⟨trivial, fun _ => ⟨⟨rfl, rfl⟩, fun found => ?_⟩⟩
  cases found with
  | some runtime => exact ⟨trivial, fun _ => rfl⟩
  | none =>
      refine ⟨trivial, fun _ => ⟨trivial, fun _ => ⟨⟨rfl, rfl⟩, fun runtime => ?_⟩⟩⟩
      exact ⟨trivial, fun _ => rfl⟩

def Call.lookup (call : Call) : Lookup :=
  Program.Typestate.run (locking call.address call.slaveId) .begun call.log

def Call.result (call : Call) : Option ModbusRuntime :=
  call.lookup.result

@[simp] theorem Call.lookup_start (address : String) (slaveId : UInt8) :
    (Call.start address slaveId).lookup = .begun := rfl

@[simp] theorem Call.lookup_enter (call : Call) (use : Use) :
    (call.enter use).lookup = call.lookup := rfl

theorem Call.lookup_resume (call : Call) (e : LockEffect) (r : e.Reply)
    (k : e.Reply -> LockProgram ModbusRuntime) :
    (call.resume e r k).lookup =
      (locking call.address call.slaveId).next call.lookup e r := by
  simp [Call.lookup, Call.resume, Program.Typestate.run]

/-!
## Get-or-create

What one access of the sequential service does to the map.  Every entry is
built for its own key, and no two entries share a pool.
-/

/-- The atomic get-or-create: the entry of the target, or a new one for a pool
that no other entry has. -/
def getOrCreate (service : ModbusService) (target : ModbusTarget) :
    ModbusRuntime × ModbusService :=
  match hget : service.runtimes.get target with
  | some runtime => (runtime, service)
  | none =>
      let runtime := buildModbusRuntime target.address target.slaveId
        service.config service.poolsBuilt
      (runtime,
        { service with
          runtimes := service.runtimes.insert target runtime hget
          poolsBuilt := service.poolsBuilt + 1 })

theorem entryOrInsert_eq_getOrCreate (service : ModbusService)
    (address : String) (slaveId : UInt8) :
    service.entryOrInsert address slaveId =
      getOrCreate service { address, slaveId } := rfl

theorem getOrCreate_of_some {service : ModbusService} {target : ModbusTarget}
    {runtime : ModbusRuntime}
    (hget : service.runtimes.get target = some runtime) :
    getOrCreate service target = (runtime, service) :=
  ModbusService.entryOrInsert_of_some hget

/-- What the other parts of the service see of a call is the atomic access. -/
theorem runtime_eq_getOrCreate (service : ModbusService) (address : String)
    (slaveId : UInt8) :
    service.runtime address slaveId =
      getOrCreate service { address, slaveId } := by
  unfold ModbusService.runtime
  cases hlookup : service.lookup address slaveId with
  | some runtime => exact (getOrCreate_of_some hlookup).symm
  | none => rfl

structure Built (config : ModbusConfig) (service : ModbusService) : Prop where
  configured : service.config = config
  entries : forall (target : ModbusTarget) (runtime : ModbusRuntime),
    service.runtimes.get target = some runtime ->
      runtime = buildModbusRuntime target.address target.slaveId config
        runtime.pool.id ∧ runtime.pool.id < service.poolsBuilt
  distinct : forall (target target' : ModbusTarget)
    (runtime runtime' : ModbusRuntime),
    service.runtimes.get target = some runtime ->
    service.runtimes.get target' = some runtime' ->
    runtime.pool.id = runtime'.pool.id -> target = target'

theorem built_new (config : ModbusConfig) :
    Built config (ModbusService.new config) where
  configured := rfl
  entries target runtime h := by cases h
  distinct target target' runtime runtime' h := by cases h

section EntryOrInsert

variable {config : ModbusConfig} {service : ModbusService} {address : String}
  {slaveId : UInt8}

theorem get_getOrCreate_self (target : ModbusTarget) :
    (getOrCreate service target).2.runtimes.get target =
      some (getOrCreate service target).1 := by
  rw [<- entryOrInsert_eq_getOrCreate]
  cases hlookup : service.lookup target.address target.slaveId with
  | some runtime =>
      rw [ModbusService.entryOrInsert_of_some hlookup]
      exact hlookup
  | none =>
      rw [ModbusService.entryOrInsert_of_none hlookup]
      exact Runtimes.get_insert_self hlookup

theorem get_entryOrInsert {target : ModbusTarget} {runtime : ModbusRuntime}
    (h : service.runtimes.get target = some runtime) :
    (service.entryOrInsert address slaveId).2.runtimes.get target =
      some runtime := by
  cases hlookup : service.lookup address slaveId with
  | some found =>
      rw [ModbusService.entryOrInsert_of_some hlookup]
      exact h
  | none =>
      rw [ModbusService.entryOrInsert_of_none hlookup]
      exact Runtimes.get_insert_of_some hlookup h

theorem get_insert_cases {runtimes : Runtimes} {key target : ModbusTarget}
    {new runtime : ModbusRuntime} (hfresh : runtimes.get key = none)
    (h : (runtimes.insert key new hfresh).get target = some runtime) :
    target = key ∧ runtime = new ∨ runtimes.get target = some runtime := by
  by_cases hkey : target = key
  · subst hkey
    rw [Runtimes.get_insert_self hfresh, Option.some.injEq] at h
    exact Or.inl ⟨rfl, h.symm⟩
  · rw [Runtimes.get_insert_of_ne hfresh hkey] at h
    exact Or.inr h

theorem Built.entryOrInsert (h : Built config service) :
    Built config (service.entryOrInsert address slaveId).2 := by
  cases hlookup : service.lookup address slaveId with
  | some found =>
      rw [ModbusService.entryOrInsert_of_some hlookup]
      exact h
  | none =>
      rw [ModbusService.entryOrInsert_of_none hlookup]
      have hnew : forall (target : ModbusTarget) (runtime : ModbusRuntime),
          service.runtimes.get target = some runtime ->
          runtime.pool.id ≠ service.poolsBuilt := by
        intro target runtime hget
        exact Nat.ne_of_lt (h.entries target runtime hget).right
      refine ⟨h.configured, ?_, ?_⟩
      · intro target runtime hget
        rcases get_insert_cases hlookup hget with ⟨rfl, rfl⟩ | hold
        · refine ⟨?_, Nat.lt_succ_self service.poolsBuilt⟩
          rw [h.configured]
          rfl
        · have hentry := h.entries target runtime hold
          exact ⟨hentry.left, Nat.lt_succ_of_lt hentry.right⟩
      · intro target target' runtime runtime' hget hget' hid
        rcases get_insert_cases hlookup hget with ⟨rfl, rfl⟩ | hold
        · rcases get_insert_cases hlookup hget' with ⟨rfl, rfl⟩ | hold'
          · rfl
          · exact absurd hid.symm (hnew target' runtime' hold')
        · rcases get_insert_cases hlookup hget' with ⟨rfl, rfl⟩ | hold'
          · exact absurd hid (hnew target runtime hold)
          · exact h.distinct target target' runtime runtime' hold hold' hid

end EntryOrInsert

end RuntimeCache
end ConveyorModbus
