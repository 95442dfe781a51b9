import ConveyorModbus.Library.Linearization
import ConveyorModbus.Modbus.RuntimeCache

/-!
# The runtime cache is atomic

The interleaved calls of the runtime cache behave as get-or-create operations
made one after the other.  The lock steps keep three things: the lock agrees
with the guards the calls hold, the result of a call stays the entry of its
target, and the results are explained by a sequential order that only grows.
-/

namespace ConveyorModbus
namespace RuntimeCache

open Counting Effects Linearization ReadWriteLock Transition.System

/-!
## What one lock step preserves
-/

section LockStep

variable {config : ModbusConfig} {i : Nat} {service service' : ModbusService}
  {lock lock' : RwLock} {e : LockEffect} {r : e.Reply}

theorem LockStep.built (h : LockStep i service lock e r service' lock')
    (hbuilt : Built config service) : Built config service' := by
  cases h with
  | entryOrInsert => exact hbuilt.entryOrInsert
  | read _ => exact hbuilt
  | get => exact hbuilt
  | dropRead => exact hbuilt
  | write _ => exact hbuilt
  | dropWrite => exact hbuilt

theorem LockStep.get_mono (h : LockStep i service lock e r service' lock')
    {target : ModbusTarget} {runtime : ModbusRuntime}
    (hget : service.runtimes.get target = some runtime) :
    service'.runtimes.get target = some runtime := by
  cases h with
  | entryOrInsert => exact get_entryOrInsert hget
  | read _ => exact hget
  | get => exact hget
  | dropRead => exact hget
  | write _ => exact hget
  | dropWrite => exact hget

/-- A lock step either decides the result of the call, and is then the atomic
access, or leaves the result and the map alone. -/
theorem LockStep.decides {address : String} {slaveId : UInt8}
    {lookup : Lookup} (h : LockStep i service lock e r service' lock')
    (hallowed : (locking address slaveId).allowed lookup e) :
    (lookup.result = none ∧
      ((locking address slaveId).next lookup e r).result =
        some (getOrCreate service { address, slaveId }).1 ∧
      service' = (getOrCreate service { address, slaveId }).2) ∨
    (((locking address slaveId).next lookup e r).result = lookup.result ∧
      service' = service) := by
  cases h with
  | read _ =>
      cases lookup <;> first
        | exact hallowed.elim
        | exact Or.inr ⟨rfl, rfl⟩
  | get =>
      rename_i address' slaveId'
      cases lookup with
      | reading =>
          rcases hallowed with ⟨rfl, rfl⟩
          cases hlookup : service.lookup address' slaveId' with
          | none => exact Or.inr ⟨rfl, rfl⟩
          | some runtime =>
              rw [getOrCreate_of_some hlookup]
              exact Or.inl ⟨rfl, rfl, rfl⟩
      | _ => exact hallowed.elim
  | dropRead =>
      cases lookup <;> first
        | exact hallowed.elim
        | exact Or.inr ⟨rfl, rfl⟩
  | write _ =>
      cases lookup <;> first
        | exact hallowed.elim
        | exact Or.inr ⟨rfl, rfl⟩
  | entryOrInsert =>
      rename_i address' slaveId'
      cases lookup with
      | writing =>
          rcases hallowed with ⟨rfl, rfl⟩
          rw [entryOrInsert_eq_getOrCreate]
          exact Or.inl ⟨rfl, rfl, rfl⟩
      | _ => exact hallowed.elim
  | dropWrite =>
      cases lookup <;> first
        | exact hallowed.elim
        | exact Or.inr ⟨rfl, rfl⟩

theorem LockStep.guards {address : String} {slaveId : UInt8}
    {lookup : Lookup} {guard guard' : Nat -> Guard}
    (h : LockStep i service lock e r service' lock')
    (hallowed : (locking address slaveId).allowed lookup e)
    (hguards : Guards lock guard) (hi : guard i = lookup.guard)
    (hi' : guard' i = ((locking address slaveId).next lookup e r).guard)
    (hsame : forall j, j ≠ i -> guard' j = guard j) : Guards lock' guard' := by
  cases h with
  | read hcan =>
      cases lookup <;> first
        | exact hallowed.elim
        | exact hguards.addReader hcan hi hi' hsame
  | get =>
      rename_i address' slaveId'
      cases lookup with
      | reading =>
          apply hguards.congr
          intro j
          by_cases hj : j = i
          · subst hj
            rw [hi, hi']
            cases service.lookup address' slaveId' <;> rfl
          · exact hsame j hj
      | _ => exact hallowed.elim
  | dropRead =>
      cases lookup <;> first
        | exact hallowed.elim
        | exact hguards.dropReader hi hi' hsame
  | write hcan =>
      cases lookup <;> first
        | exact hallowed.elim
        | exact hguards.setWriter hcan hi' hsame
  | entryOrInsert =>
      cases lookup with
      | writing =>
          apply hguards.congr
          intro j
          by_cases hj : j = i
          · subst hj
            rw [hi, hi']
            rfl
          · exact hsame j hj
      | _ => exact hallowed.elim
  | dropWrite =>
      cases lookup <;> first
        | exact hallowed.elim
        | exact hguards.dropWriter hi hi' hsame

end LockStep

/-!
## Invariant of the interleaved calls
-/

def Call.permits (call : Call) (id : Nat) : Nat :=
  if call.use = .operating ∧
      call.returned.map (fun runtime => runtime.pool.id) = some id then 1 else 0

def CacheState.guard (s : CacheState) (i : Nat) : Guard :=
  match s.calls[i]? with
  | some call => call.lookup.guard
  | none => .none

structure CallWired (service : ModbusService) (call : Call) : Prop where
  trace : Program.After (runtime call.address call.slaveId) call.log
    call.program
  result : forall runtime, call.result = some runtime ->
    service.runtimes.get call.target = some runtime
  operating : call.use = .operating ->
    exists runtime, call.returned = some runtime

structure CacheWired (config : ModbusConfig) (s : CacheState) : Prop where
  built : Built config s.service
  calls : forall call, call ∈ s.calls -> CallWired s.service call
  guards : Guards s.lock s.guard
  lent : forall id,
    total (fun call => call.permits id) s.calls = s.lent id
  limit : forall id, s.lent id ≤ config.clampedPoolMaxSize

section Calls

variable {config : ModbusConfig} {s : CacheState} {i : Nat} {call : Call}

theorem CallWired.follows {service : ModbusService}
    (h : CallWired service call) :
    Program.Follows (locking call.address call.slaveId) call.program
      call.lookup Returns :=
  h.trace.follows (runtime_follows call.address call.slaveId)

theorem CallWired.result_of_returned {service : ModbusService}
    (h : CallWired service call) {runtime : ModbusRuntime}
    (hreturned : call.returned = some runtime) :
    call.result = some runtime := by
  have hfollows := h.follows
  unfold Call.returned at hreturned
  split at hreturned
  · rename_i value hprogram
    rw [Option.some.injEq] at hreturned
    subst hreturned
    rw [hprogram] at hfollows
    have hlookup : call.lookup = .returning value := hfollows
    rw [Call.result, hlookup]
    rfl
  · cases hreturned

theorem CallWired.stored {service : ModbusService}
    (h : CallWired service call) {runtime : ModbusRuntime}
    (hreturned : call.returned = some runtime) :
    service.runtimes.get call.target = some runtime :=
  h.result runtime (h.result_of_returned hreturned)

theorem CallWired.mono {service service' : ModbusService}
    (h : CallWired service call)
    (hmono : forall target runtime,
      service.runtimes.get target = some runtime ->
      service'.runtimes.get target = some runtime) :
    CallWired service' call where
  trace := h.trace
  result runtime hresult := hmono call.target runtime (h.result runtime hresult)
  operating := h.operating

theorem guard_eq (hcall : s.calls[i]? = some call) :
    s.guard i = call.lookup.guard := by
  simp [CacheState.guard, hcall]

theorem guard_setCall (hcall : s.calls[i]? = some call) (new : Call) :
    (s.setCall i new).guard i = new.lookup.guard ∧
      forall j, j ≠ i -> (s.setCall i new).guard j = s.guard j := by
  constructor
  · simp [CacheState.guard, CacheState.setCall, getElem?_set_of_some hcall]
  · intro j hj
    simp [CacheState.guard, CacheState.setCall, getElem?_set_of_some hcall, hj]

theorem guard_addCall (address : String) (slaveId : UInt8) (j : Nat) :
    (s.addCall (Call.start address slaveId)).guard j = s.guard j := by
  rcases Nat.lt_trichotomy j s.calls.length with hlt | heq | hgt
  · simp [CacheState.guard, CacheState.addCall, List.getElem?_append_left hlt]
  · subst heq
    simp [CacheState.guard, CacheState.addCall, Lookup.guard]
  · have hnone : s.calls[j]? = none := List.getElem?_eq_none (Nat.le_of_lt hgt)
    have hnone' : (s.calls ++ [Call.start address slaveId])[j]? = none := by
      apply List.getElem?_eq_none
      simp only [List.length_append, List.length_singleton]
      omega
    simp [CacheState.guard, CacheState.addCall, hnone, hnone']

theorem wired_initial (config : ModbusConfig) :
    CacheWired config (CacheState.initial config) where
  built := built_new config
  calls call h := by cases h
  guards := Guards.new (fun i => rfl)
  lent id := rfl
  limit id := Nat.zero_le _

theorem CacheWired.addCall (h : CacheWired config s) (address : String)
    (slaveId : UInt8) :
    CacheWired config (s.addCall (Call.start address slaveId)) where
  built := h.built
  calls call hmem := by
    rcases List.mem_append.mp hmem with hold | hnew
    · exact h.calls call hold
    · rw [List.mem_singleton] at hnew
      subst hnew
      refine ⟨Program.After.refl _, ?_, ?_⟩
      · intro runtime hresult
        cases hresult
      · intro huse
        cases huse
  guards := h.guards.congr (guard_addCall address slaveId)
  lent id := by
    have hzero : (Call.start address slaveId).permits id = 0 := rfl
    simpa [CacheState.addCall, hzero] using h.lent id
  limit := h.limit

theorem CacheWired.enter (h : CacheWired config s)
    (hcall : s.calls[i]? = some call) {use : Use} {lent : Nat -> Nat}
    (hreturned : exists runtime, call.returned = some runtime)
    (hlent : forall id,
      lent id + call.permits id = s.lent id + (call.enter use).permits id)
    (hlimit : forall id, lent id ≤ config.clampedPoolMaxSize) :
    CacheWired config ({ s with lent := lent }.setCall i (call.enter use)) where
  built := h.built
  calls other hmem := by
    rcases List.mem_or_eq_of_mem_set hmem with hold | hnew
    · exact h.calls other hold
    · subst hnew
      have hwired := h.calls call (List.mem_of_getElem? hcall)
      exact ⟨hwired.trace, hwired.result, fun _ => hreturned⟩
  guards := by
    apply h.guards.congr
    intro j
    have hguard := guard_setCall (s := { s with lent := lent }) hcall
      (call.enter use)
    by_cases hj : j = i
    · rw [hj, hguard.left, guard_eq hcall, Call.lookup_enter]
    · exact hguard.right j hj
  lent id := by
    have hset := total_set (fun call => call.permits id) hcall (call.enter use)
    have hold := h.lent id
    have hnew := hlent id
    simp only [CacheState.setCall]
    omega
  limit := hlimit

theorem permits_of_not_operating (huse : call.use ≠ .operating) (id : Nat) :
    call.permits id = 0 := by
  simp [Call.permits, huse]

theorem permits_of_operating {runtime : ModbusRuntime}
    (huse : call.use = .operating) (hreturned : call.returned = some runtime)
    (id : Nat) :
    call.permits id = if runtime.pool.id = id then 1 else 0 := by
  simp [Call.permits, huse, hreturned]

end Calls

theorem CacheWired.lockStep {config : ModbusConfig} {s : CacheState} {i : Nat}
    {call : Call} {e : LockEffect} {k : e.Reply -> LockProgram ModbusRuntime}
    {r : e.Reply} {service : ModbusService} {lock : RwLock}
    (h : CacheWired config s) (hcall : s.calls[i]? = some call)
    (hprogram : call.program = .perform e k)
    (hstep : LockStep i s.service s.lock e r service lock) :
    CacheWired config
      ({ s with service := service, lock := lock }.setCall i
        (call.resume e r k)) := by
  have hwired := h.calls call (List.mem_of_getElem? hcall)
  have hfollows := hwired.follows
  rw [hprogram] at hfollows
  have hallowed := hfollows.left
  have huse : call.use ≠ .operating := by
    intro huse
    rcases hwired.operating huse with ⟨runtime, hreturned⟩
    rw [Call.returned, hprogram] at hreturned
    cases hreturned
  constructor
  · exact hstep.built h.built
  · intro other hmem
    rcases List.mem_or_eq_of_mem_set hmem with hold | hnew
    · exact (h.calls other hold).mono (fun target runtime => hstep.get_mono)
    · subst hnew
      refine ⟨?_, ?_, ?_⟩
      · have htrace := hwired.trace
        rw [hprogram] at htrace
        exact htrace.snoc r
      · intro runtime hresult
        rw [Call.result, Call.lookup_resume] at hresult
        rcases hstep.decides hallowed with ⟨hnone, hsome, hservice⟩ | ⟨hsame, hservice⟩
        · rw [hsome, Option.some.injEq] at hresult
          subst hservice
          subst hresult
          exact get_getOrCreate_self call.target
        · rw [hsame] at hresult
          subst hservice
          exact hwired.result runtime hresult
      · intro hoperating
        exact absurd hoperating huse
  · have hguard := guard_setCall
      (s := { s with service := service, lock := lock }) hcall
      (call.resume e r k)
    apply hstep.guards hallowed h.guards (guard_eq hcall)
    · rw [hguard.left, Call.lookup_resume]
    · exact hguard.right
  · intro id
    have hset := total_set (fun call => call.permits id) hcall
      (call.resume e r k)
    have hold := permits_of_not_operating huse id
    have huse' : (call.resume e r k).use ≠ .operating := huse
    have hnew := permits_of_not_operating huse' id
    have hlent := h.lent id
    simp only [CacheState.setCall]
    omega
  · exact h.limit

theorem step_wired {config : ModbusConfig} {s s' : CacheState}
    {label : CacheLabel} (h : CacheWired config s)
    (hstep : CacheStep s label s') : CacheWired config s' := by
  cases hstep with
  | call => exact h.addCall _ _
  | lock hcall hprogram hlock => exact h.lockStep hcall hprogram hlock
  | acquire hcall hreturned huse hfree =>
      rename_i i call runtime
      have hwired := h.calls call (List.mem_of_getElem? hcall)
      have hentry := h.built.entries call.target runtime
        (hwired.stored hreturned)
      have hsize : runtime.pool.maxSize = config.clampedPoolMaxSize := by
        rw [hentry.left]
        rfl
      have hold : forall id, call.permits id = 0 :=
        permits_of_not_operating (by rw [huse]; exact Use.noConfusion)
      apply h.enter hcall ⟨runtime, hreturned⟩
      · intro id
        have hreturned' : (call.enter .operating).returned = some runtime :=
          hreturned
        rw [hold id, permits_of_operating rfl hreturned' id]
        by_cases hid : runtime.pool.id = id
        · subst hid
          simp
        · simp [hid, Function.update_of_ne (Ne.symm hid)]
      · intro id
        by_cases hid : runtime.pool.id = id
        · subst hid
          rw [Function.update_self]
          omega
        · rw [Function.update_of_ne (Ne.symm hid)]
          exact h.limit id
  | finish hcall hreturned huse =>
      rename_i i call runtime
      have hpos : 0 < s.lent runtime.pool.id := by
        have hle := weight_le_total (fun call => call.permits runtime.pool.id)
          (List.mem_of_getElem? hcall)
        rw [h.lent, permits_of_operating huse hreturned, if_pos rfl] at hle
        exact hle
      have hnew : forall id, (call.enter .over).permits id = 0 :=
        permits_of_not_operating Use.noConfusion
      apply h.enter hcall ⟨runtime, hreturned⟩
      · intro id
        rw [hnew id, permits_of_operating huse hreturned id]
        by_cases hid : runtime.pool.id = id
        · subst hid
          rw [Function.update_self, if_pos rfl]
          omega
        · rw [Function.update_of_ne (Ne.symm hid), if_neg hid]
      · intro id
        by_cases hid : runtime.pool.id = id
        · subst hid
          rw [Function.update_self]
          have := h.limit runtime.pool.id
          omega
        · rw [Function.update_of_ne (Ne.symm hid)]
          exact h.limit id
  | giveUp hcall hreturned huse =>
      rename_i i call runtime
      have hold : forall id, call.permits id = 0 :=
        permits_of_not_operating (by rw [huse]; exact Use.noConfusion)
      have hnew : forall id, (call.enter .over).permits id = 0 :=
        permits_of_not_operating Use.noConfusion
      exact h.enter hcall ⟨runtime, hreturned⟩
        (fun id => by rw [hold id, hnew id]) h.limit

theorem reachable_wired {config : ModbusConfig} {s : CacheState}
    (h : (system config).Reachable s) : CacheWired config s := by
  apply h.invariant
  · intro s hs
    rw [show s = CacheState.initial config from hs]
    exact wired_initial config
  · intro s label s' _ hwired hstep
    exact step_wired hwired hstep

/-!
## The sequential order

Every call is placed at the access to the map that decides its result: the
lookup that hits, or the entry under the write guard.
-/

/-- The calls have the results of get-or-create operations made one after the
other, and the map is the one these leave. -/
structure SequentialOrder (config : ModbusConfig) (s : CacheState)
    (order : List (Nat × ModbusTarget)) : Prop where
  once : (order.map Prod.fst).Nodup
  called : forall i target, (i, target) ∈ order ->
    exists call, s.calls[i]? = some call ∧ call.target = target
  returned : forall i call runtime, s.calls[i]? = some call ->
    call.returned = some runtime ->
    (i, runtime) ∈ (answers getOrCreate (ModbusService.new config) order).1
  service :
    (answers getOrCreate (ModbusService.new config) order).2 = s.service

abbrev Explained (config : ModbusConfig) (calls : List Call)
    (service : ModbusService) : List (Nat × ModbusTarget) -> Prop :=
  Explains getOrCreate (ModbusService.new config)
    (fun i => calls[i]?.map Call.target) (fun i => calls[i]?.bind Call.result)
    service

section Explained

variable {config : ModbusConfig} {s : CacheState} {calls : List Call}
  {service : ModbusService} {i : Nat} {call new : Call}
  {order : List (Nat × ModbusTarget)}

theorem Explained.sequential (h : Explained config s.calls s.service order)
    (hwired : CacheWired config s) : SequentialOrder config s order where
  once := h.once
  called i target hmem := Option.map_eq_some_iff.mp (h.asked i target hmem)
  returned i call runtime hcall hreturned := by
    have hresult := (hwired.calls call
      (List.mem_of_getElem? hcall)).result_of_returned hreturned
    apply (h.results i runtime).mp
    simp [hcall, hresult]
  service := h.current

theorem map_target_set (hcall : calls[i]? = some call)
    (htarget : new.target = call.target) (j : Nat) :
    (calls.set i new)[j]?.map Call.target = calls[j]?.map Call.target := by
  rw [getElem?_set_of_some hcall]
  by_cases hj : j = i
  · simp [hj, hcall, htarget]
  · simp [hj]

theorem Explained.start (h : Explained config calls service order)
    (address : String) (slaveId : UInt8) :
    Explained config (calls ++ [Call.start address slaveId]) service order := by
  apply h.keep
  · intro i target htarget
    rcases Option.map_eq_some_iff.mp htarget with ⟨call, hcall, rfl⟩
    have hlt : i < calls.length := (List.getElem?_eq_some_iff.mp hcall).1
    rw [List.getElem?_append_left hlt, hcall]
    rfl
  · intro i
    rcases Nat.lt_trichotomy i calls.length with hlt | heq | hgt
    · rw [List.getElem?_append_left hlt]
    · subst heq
      simp [Call.result, Lookup.result]
    · rw [List.getElem?_eq_none (Nat.le_of_lt hgt), List.getElem?_eq_none]
      simp only [List.length_append, List.length_singleton]
      omega

theorem Explained.set (h : Explained config calls service order)
    (hcall : calls[i]? = some call) (htarget : new.target = call.target)
    (hresult : new.result = call.result) :
    Explained config (calls.set i new) service order := by
  apply h.keep
  · intro j target htargets
    rw [map_target_set hcall htarget]
    exact htargets
  · intro j
    rw [getElem?_set_of_some hcall]
    by_cases hj : j = i
    · simp [hj, hcall, hresult]
    · simp [hj]

/-- A call gets its result from an access to the map. -/
theorem Explained.decide (h : Explained config calls service order)
    (hcall : calls[i]? = some call) (htarget : new.target = call.target)
    (hnone : call.result = none)
    (hresult : new.result = some (getOrCreate service call.target).1) :
    Explained config (calls.set i new) (getOrCreate service call.target).2
      (order ++ [(i, call.target)]) := by
  have hsome : (calls.set i new)[i]?.bind Call.result =
      some (getOrCreate service call.target).1 := by
    rw [getElem?_set_of_some hcall, if_pos rfl]
    exact hresult
  have hother : forall j, j ≠ i ->
      (calls.set i new)[j]?.bind Call.result = calls[j]?.bind Call.result := by
    intro j hj
    rw [getElem?_set_of_some hcall, if_neg hj]
  have hop : calls[i]?.map Call.target = some call.target := by
    rw [hcall]
    rfl
  have hwaiting : calls[i]?.bind Call.result = none := by
    rw [hcall]
    exact hnone
  apply (h.append hop hwaiting hother hsome).keep
  · intro j target htargets
    rw [map_target_set hcall htarget]
    exact htargets
  · intro j
    rfl

theorem step_explained {s s' : CacheState} {label : CacheLabel}
    (hwired : CacheWired config s) (h : Explained config s.calls s.service order)
    (hstep : CacheStep s label s') :
    exists later, Explained config s'.calls s'.service (order ++ later) := by
  cases hstep with
  | call => exact ⟨[], by rw [List.append_nil]; exact h.start _ _⟩
  | lock hcall hprogram hlock =>
      rename_i i call e k r service lock
      have hfollows :=
        (hwired.calls call (List.mem_of_getElem? hcall)).follows
      rw [hprogram] at hfollows
      have hnext := Call.lookup_resume call e r k
      rcases hlock.decides hfollows.left with
        ⟨hnone, hsome, rfl⟩ | ⟨hsame, rfl⟩
      · refine ⟨[(i, call.target)], h.decide hcall rfl hnone ?_⟩
        rw [Call.result, hnext]
        exact hsome
      · have hresult : (call.resume e r k).result = call.result := by
          rw [Call.result, hnext]
          exact hsame
        exact ⟨[], by rw [List.append_nil]; exact h.set hcall rfl hresult⟩
  | acquire hcall hreturned huse hfree =>
      exact ⟨[], by rw [List.append_nil]; exact h.set hcall rfl rfl⟩
  | finish hcall hreturned huse =>
      exact ⟨[], by rw [List.append_nil]; exact h.set hcall rfl rfl⟩
  | giveUp hcall hreturned huse =>
      exact ⟨[], by rw [List.append_nil]; exact h.set hcall rfl rfl⟩

theorem run_explained {s s' : CacheState} {labels : List CacheLabel}
    (hs : (system config).Reachable s)
    (h : Explained config s.calls s.service order)
    (hrun : (system config).Run s labels s') :
    exists later, Explained config s'.calls s'.service (order ++ later) := by
  induction hrun generalizing order with
  | nil s => exact ⟨[], by rw [List.append_nil]; exact h⟩
  | cons hstep hrest ih =>
      rcases step_explained (reachable_wired hs) h hstep with ⟨first, hfirst⟩
      rcases ih (Transition.System.Reachable.step hs hstep) hfirst with
        ⟨later, hlater⟩
      refine ⟨first ++ later, ?_⟩
      rw [<- List.append_assoc]
      exact hlater

theorem reachable_explained {s : CacheState}
    (hs : (system config).Reachable s) :
    exists order, Explained config s.calls s.service order := by
  induction hs with
  | init hinit =>
      rename_i s
      rw [show s = CacheState.initial config from hinit]
      exact ⟨[], Explains.nil (fun _ => rfl)⟩
  | step hreach hstep ih =>
      rcases ih with ⟨order, horder⟩
      rcases step_explained (reachable_wired hreach) horder hstep with
        ⟨later, hlater⟩
      exact ⟨order ++ later, hlater⟩

end Explained

/-!
## Operations in flight
-/

theorem inFlight_le {config : ModbusConfig} {s : CacheState}
    (h : CacheWired config s) (target : ModbusTarget) :
    s.inFlight target ≤ config.clampedPoolMaxSize := by
  rcases Nat.eq_zero_or_pos (s.inFlight target) with hzero | hpos
  · omega
  · rcases exists_of_total_pos _ hpos with ⟨call, hmem, hcall⟩
    have hentry : forall other, other ∈ s.calls -> other.target = target ->
        other.use = .operating -> exists runtime,
          other.returned = some runtime ∧
            s.service.runtimes.get target = some runtime := by
      intro other hother htarget huse
      have hwired := h.calls other hother
      rcases hwired.operating huse with ⟨runtime, hreturned⟩
      refine ⟨runtime, hreturned, ?_⟩
      rw [<- htarget]
      exact hwired.stored hreturned
    have hoperating : call.target = target ∧ call.use = .operating := by
      by_contra hnot
      rw [if_neg hnot] at hcall
      exact Nat.lt_irrefl 0 hcall
    rcases hentry call hmem hoperating.left hoperating.right with
      ⟨runtime, _, hget⟩
    have hpermits : s.inFlight target ≤
        total (fun call => call.permits runtime.pool.id) s.calls := by
      apply total_mono
      intro other hother
      by_cases hoperates : other.target = target ∧ other.use = .operating
      · rcases hentry other hother hoperates.left hoperates.right with
          ⟨found, hreturned, hfound⟩
        rw [hget, Option.some.injEq] at hfound
        subst hfound
        rw [if_pos hoperates, permits_of_operating hoperates.right hreturned,
          if_pos rfl]
      · rw [if_neg hoperates]
        exact Nat.zero_le _
    rw [h.lent] at hpermits
    exact Nat.le_trans hpermits (h.limit _)

/-!
## The cache
-/

def Call.AwaitsWrite (call : Call) : Prop :=
  exists k, call.program = .perform .write k

theorem not_reader_of_awaitsWrite {config : ModbusConfig} {s : CacheState}
    (h : CacheWired config s) {i : Nat} {call : Call}
    (hcall : s.calls[i]? = some call) (hawaits : call.AwaitsWrite) :
    i ∉ s.lock.readers := by
  rcases hawaits with ⟨k, hprogram⟩
  have hfollows := (h.calls call (List.mem_of_getElem? hcall)).follows
  rw [hprogram] at hfollows
  rw [h.guards.readers i, guard_eq hcall]
  cases hlookup : call.lookup with
  | unlocked => exact Guard.noConfusion
  | _ =>
      rw [hlookup] at hfollows
      exact hfollows.left.elim

theorem get_mono {s s' : CacheState} {config : ModbusConfig}
    {labels : List CacheLabel} (hrun : (system config).Run s labels s')
    {target : ModbusTarget} {runtime : ModbusRuntime}
    (hget : s.service.runtimes.get target = some runtime) :
    s'.service.runtimes.get target = some runtime := by
  induction hrun with
  | nil s => exact hget
  | cons hstep _ ih =>
      apply ih
      cases hstep with
      | lock hcall hprogram hlock => exact hlock.get_mono hget
      | call => exact hget
      | acquire hcall hreturned huse hfree => exact hget
      | finish hcall hreturned huse => exact hget
      | giveUp hcall hreturned huse => exact hget

theorem returned_pools {config : ModbusConfig} {s : CacheState}
    (h : CacheWired config s) {i j : Nat} {call other : Call}
    {runtime found : ModbusRuntime} (hcall : s.calls[i]? = some call)
    (hother : s.calls[j]? = some other)
    (hreturned : call.returned = some runtime)
    (hfound : other.returned = some found) :
    (call.target = other.target -> runtime = found) ∧
      (call.target ≠ other.target -> runtime.pool.id ≠ found.pool.id) := by
  have hwired := h.calls call (List.mem_of_getElem? hcall)
  have hwired' := h.calls other (List.mem_of_getElem? hother)
  have hget := hwired.stored hreturned
  have hget' := hwired'.stored hfound
  constructor
  · intro htarget
    rw [htarget, hget', Option.some.injEq] at hget
    exact hget.symm
  · intro htarget hid
    exact htarget (h.built.distinct _ _ _ _ hget hget' hid)

/-- From any reachable state on, along any run. -/
theorem runtime_cache_atomic {config : ModbusConfig} {s s' : CacheState}
    {labels : List CacheLabel} (hs : (system config).Reachable s)
    (hrun : (system config).Run s labels s') :
    (exists order later, SequentialOrder config s order ∧
      SequentialOrder config s' (order ++ later)) ∧
    (forall (i j : Nat) (call other : Call) (runtime found : ModbusRuntime),
      s'.calls[i]? = some call -> s'.calls[j]? = some other ->
      call.returned = some runtime -> other.returned = some found ->
        (call.target = other.target -> runtime = found) ∧
        (call.target ≠ other.target -> runtime.pool.id ≠ found.pool.id)) ∧
    (forall target runtime, s.service.runtimes.get target = some runtime ->
      s'.service.runtimes.get target = some runtime) ∧
    (forall target runtime, s.service.runtimes.get target = some runtime ->
      runtime = buildModbusRuntime target.address target.slaveId config
        runtime.pool.id) ∧
    (forall (i : Nat) (call : Call) (runtime : ModbusRuntime),
      s.calls[i]? = some call ->
      call.returned = some runtime ->
        s.service.runtimes.get call.target = some runtime) ∧
    (forall i call, s.calls[i]? = some call -> call.AwaitsWrite ->
      i ∉ s.lock.readers) ∧
    (forall target, s.inFlight target ≤ max 1 config.poolMaxSize) := by
  have hwired := reachable_wired hs
  have hwired' := reachable_wired (hrun.reachable hs)
  refine ⟨?_, ?_, ?_, ?_, ?_, ?_, ?_⟩
  · rcases reachable_explained hs with ⟨order, horder⟩
    rcases run_explained hs horder hrun with ⟨later, hlater⟩
    exact ⟨order, later, horder.sequential hwired, hlater.sequential hwired'⟩
  · intro i j call other runtime found hcall hother hreturned hfound
    exact returned_pools hwired' hcall hother hreturned hfound
  · intro target runtime hget
    exact get_mono hrun hget
  · intro target runtime hget
    exact (hwired.built.entries target runtime hget).left
  · intro i call runtime hcall hreturned
    exact (hwired.calls call (List.mem_of_getElem? hcall)).stored hreturned
  · intro i call hcall hawaits
    exact not_reader_of_awaitsWrite hwired hcall hawaits
  · intro target
    rw [Nat.max_comm]
    exact inFlight_le hwired target

/-- Both calls miss under the read lock; the second to get the write lock finds
the entry of the first. -/
def raceLabels : List CacheLabel :=
  [.call "10.0.0.7:502" 1, .call "10.0.0.7:502" 1, .lock 0, .lock 1, .lock 0,
    .lock 1, .lock 0, .lock 1, .lock 1, .lock 1, .lock 1, .lock 0, .lock 0,
    .lock 0, .acquire 0]

theorem runtime_cache_atomic_race :
    exists s, (system default).Run (CacheState.initial default) raceLabels s ∧
      s.calls.map Call.returned =
        [some (buildModbusRuntime "10.0.0.7:502" 1 default 0),
          some (buildModbusRuntime "10.0.0.7:502" 1 default 0)] ∧
      (exists order later,
        SequentialOrder default (CacheState.initial default) order ∧
          SequentialOrder default s (order ++ later)) := by
  have hreplay : (replay advance (CacheState.initial default) raceLabels).any
      (fun s => s.calls.map Call.returned =
        [some (buildModbusRuntime "10.0.0.7:502" 1 default 0),
          some (buildModbusRuntime "10.0.0.7:502" 1 default 0)]) = true := by
    decide +kernel
  rcases (Option.any_eq_true _ _).mp hreplay with ⟨s, hs, hreturned⟩
  have hrun : (system default).Run (CacheState.initial default) raceLabels s :=
    run_of_replay (fun _ _ _ => advance_sound) hs
  exact ⟨s, hrun, of_decide_eq_true hreturned,
    (runtime_cache_atomic (Reachable.init rfl) hrun).left⟩

end RuntimeCache
end ConveyorModbus
