import Mathlib.Logic.Function.Basic
import Mathlib.Data.List.Nodup

/-!
# A readers-writer lock

The lock knows the numbers of the parties that hold a guard.  `Guards` says
that the lock and the parties agree on who holds what; the four operations keep
the agreement, and with it the exclusion of readers and writers.
-/

namespace ReadWriteLock

structure RwLock where
  readers : List Nat
  writer : Option Nat

inductive Guard where
  | none
  | read
  | write
  deriving DecidableEq

namespace RwLock

def new : RwLock where
  readers := []
  writer := none

def CanRead (lock : RwLock) : Prop :=
  lock.writer = none

def CanWrite (lock : RwLock) : Prop :=
  lock.writer = none ∧ lock.readers = []

def addReader (lock : RwLock) (i : Nat) : RwLock :=
  { lock with readers := i :: lock.readers }

def dropReader (lock : RwLock) (i : Nat) : RwLock :=
  { lock with readers := lock.readers.erase i }

def setWriter (lock : RwLock) (i : Nat) : RwLock :=
  { lock with writer := some i }

def dropWriter (lock : RwLock) : RwLock :=
  { lock with writer := none }

end RwLock

structure Guards (lock : RwLock) (guard : Nat -> Guard) : Prop where
  nodup : lock.readers.Nodup
  readers : forall i, i ∈ lock.readers <-> guard i = .read
  writer : forall i, lock.writer = some i <-> guard i = .write
  exclusive : lock.writer = none ∨ lock.readers = []

namespace Guards

variable {lock : RwLock} {guard guard' : Nat -> Guard} {i : Nat}

theorem new (hguard : forall i, guard i = .none) : Guards RwLock.new guard where
  nodup := List.nodup_nil
  readers i := by simp [RwLock.new, hguard i]
  writer i := by simp [RwLock.new, hguard i]
  exclusive := Or.inl rfl

theorem congr (h : Guards lock guard) (hguard : forall j, guard' j = guard j) :
    Guards lock guard' where
  nodup := h.nodup
  readers j := by rw [hguard j]; exact h.readers j
  writer j := by rw [hguard j]; exact h.writer j
  exclusive := h.exclusive

theorem addReader (h : Guards lock guard) (hcan : lock.CanRead)
    (hnone : guard i = .none) (hi : guard' i = .read)
    (hsame : forall j, j ≠ i -> guard' j = guard j) :
    Guards (lock.addReader i) guard' where
  nodup := by
    have hfresh : i ∉ lock.readers := by
      rw [h.readers i, hnone]
      exact Guard.noConfusion
    exact List.nodup_cons.mpr ⟨hfresh, h.nodup⟩
  readers j := by
    by_cases hj : j = i
    · simp [RwLock.addReader, hj, hi]
    · simp [RwLock.addReader, hj, hsame j hj, h.readers j]
  writer j := by
    have hnot : lock.writer = none := hcan
    by_cases hj : j = i
    · simp [RwLock.addReader, hnot, hj, hi]
    · simpa [RwLock.addReader, hsame j hj] using h.writer j
  exclusive := Or.inl hcan

theorem dropReader (h : Guards lock guard) (hread : guard i = .read)
    (hi : guard' i = .none) (hsame : forall j, j ≠ i -> guard' j = guard j) :
    Guards (lock.dropReader i) guard' where
  nodup := h.nodup.erase i
  readers j := by
    by_cases hj : j = i
    · subst hj
      simp [RwLock.dropReader, hi, h.nodup.not_mem_erase]
    · simp [RwLock.dropReader, List.mem_erase_of_ne hj, hsame j hj, h.readers j]
  writer j := by
    by_cases hj : j = i
    · subst hj
      have hnot : lock.writer ≠ some j := by
        rw [ne_eq, h.writer j, hread]
        exact Guard.noConfusion
      simp [RwLock.dropReader, hi, hnot]
    · simpa [RwLock.dropReader, hsame j hj] using h.writer j
  exclusive := by
    rcases h.exclusive with hnone | hnil
    · exact Or.inl hnone
    · exact Or.inr (by simp [RwLock.dropReader, hnil])

theorem setWriter (h : Guards lock guard) (hcan : lock.CanWrite)
    (hi : guard' i = .write) (hsame : forall j, j ≠ i -> guard' j = guard j) :
    Guards (lock.setWriter i) guard' where
  nodup := h.nodup
  readers j := by
    have hnil : lock.readers = [] := hcan.right
    by_cases hj : j = i
    · simp [RwLock.setWriter, hnil, hj, hi]
    · simpa [RwLock.setWriter, hsame j hj] using h.readers j
  writer j := by
    by_cases hj : j = i
    · simp [RwLock.setWriter, hj, hi]
    · have hnot : guard j ≠ .write := by
        rw [ne_eq, <- h.writer j, hcan.left]
        simp
      simp [RwLock.setWriter, hsame j hj, hnot, Ne.symm hj]
  exclusive := Or.inr hcan.right

theorem dropWriter (h : Guards lock guard) (hwrite : guard i = .write)
    (hi : guard' i = .none) (hsame : forall j, j ≠ i -> guard' j = guard j) :
    Guards lock.dropWriter guard' where
  nodup := h.nodup
  readers j := by
    by_cases hj : j = i
    · subst hj
      have hnot : j ∉ lock.readers := by
        rw [h.readers j, hwrite]
        exact Guard.noConfusion
      simp [RwLock.dropWriter, hi, hnot]
    · simpa [RwLock.dropWriter, hsame j hj] using h.readers j
  writer j := by
    by_cases hj : j = i
    · simp [RwLock.dropWriter, hj, hi]
    · have hother : guard j ≠ .write := by
        intro hj'
        have hwi : lock.writer = some i := (h.writer i).mpr hwrite
        have hwj : lock.writer = some j := (h.writer j).mpr hj'
        rw [hwi, Option.some.injEq] at hwj
        exact hj hwj.symm
      simp [RwLock.dropWriter, hsame j hj, hother]
  exclusive := Or.inl rfl

end Guards
end ReadWriteLock
