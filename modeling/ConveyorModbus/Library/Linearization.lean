import Mathlib.Data.List.Nodup

/-!
# Sequential objects and the order of concurrent calls

A sequential object answers one operation at a time.  Concurrent calls on an
implementation of it are numbered; a sequential order of some of them explains
a state of the implementation when the object, asked in that order, gives every
one of these calls the result it has and ends in the state the implementation
is in.
-/

namespace Linearization

abbrev SequentialObject (S Op R : Type) : Type :=
  S -> Op -> R × S

variable {S Op R : Type}

/-- The results of numbered operations, one after the other, and the state they
leave. -/
def answers (apply : SequentialObject S Op R) :
    S -> List (Nat × Op) -> List (Nat × R) × S
  | s, [] => ([], s)
  | s, (i, op) :: rest =>
      let first := apply s op
      let tail := answers apply first.2 rest
      ((i, first.1) :: tail.1, tail.2)

theorem answers_append (apply : SequentialObject S Op R) (s : S)
    (order later : List (Nat × Op)) :
    answers apply s (order ++ later) =
      ((answers apply s order).1 ++
          (answers apply (answers apply s order).2 later).1,
        (answers apply (answers apply s order).2 later).2) := by
  induction order generalizing s with
  | nil => rfl
  | cons entry rest ih =>
      rcases entry with ⟨i, op⟩
      simp only [List.cons_append, answers, ih]

theorem answers_ids (apply : SequentialObject S Op R) (s : S)
    (order : List (Nat × Op)) :
    (answers apply s order).1.map Prod.fst = order.map Prod.fst := by
  induction order generalizing s with
  | nil => rfl
  | cons entry rest ih =>
      rcases entry with ⟨i, op⟩
      simp only [answers, List.map_cons, ih]

/-- `order` explains the object state `current` and the results of the calls.
A call without a result is not in the order. -/
structure Explains (apply : SequentialObject S Op R) (initial : S)
    (ops : Nat -> Option Op) (results : Nat -> Option R) (current : S)
    (order : List (Nat × Op)) : Prop where
  once : (order.map Prod.fst).Nodup
  asked : forall i op, (i, op) ∈ order -> ops i = some op
  results : forall i r,
    results i = some r <-> (i, r) ∈ (answers apply initial order).1
  current : (answers apply initial order).2 = current

namespace Explains

variable {apply : SequentialObject S Op R} {initial current : S}
  {ops ops' : Nat -> Option Op} {results results' : Nat -> Option R}
  {order : List (Nat × Op)}

theorem nil (hresults : forall i, results i = none) :
    Explains apply initial ops results initial [] where
  once := List.nodup_nil
  asked i op h := by cases h
  results i r := by simp [answers, hresults i]
  current := rfl

theorem keep (h : Explains apply initial ops results current order)
    (hops : forall i op, ops i = some op -> ops' i = some op)
    (hresults : forall i, results' i = results i) :
    Explains apply initial ops' results' current order where
  once := h.once
  asked i op hmem := hops i op (h.asked i op hmem)
  results i r := by rw [hresults i]; exact h.results i r
  current := h.current

theorem result_of_mem (h : Explains apply initial ops results current order)
    {i : Nat} {op : Op} (hmem : (i, op) ∈ order) :
    exists r, results i = some r := by
  have hid : i ∈ (answers apply initial order).1.map Prod.fst := by
    rw [answers_ids]
    exact List.mem_map_of_mem (f := Prod.fst) hmem
  rcases List.mem_map.mp hid with ⟨⟨j, r⟩, hr, rfl⟩
  exact ⟨r, (h.results j r).mpr hr⟩

/-- A call that gets its result from one access to the object is the next in
the order. -/
theorem append (h : Explains apply initial ops results current order)
    {i : Nat} {op : Op} (hop : ops i = some op) (hnone : results i = none)
    (hsame : forall j, j ≠ i -> results' j = results j)
    (hresult : results' i = some (apply current op).1) :
    Explains apply initial ops results' (apply current op).2
      (order ++ [(i, op)]) where
  once := by
    rw [List.map_append, List.nodup_append]
    refine ⟨h.once, by simp, ?_⟩
    intro a ha b hb hab
    have hb' : b = i := by simpa using hb
    subst hab
    subst hb'
    rcases List.mem_map.mp ha with ⟨⟨j, op'⟩, hmem, rfl⟩
    rcases h.result_of_mem hmem with ⟨r, hr⟩
    rw [hnone] at hr
    cases hr
  asked j op' hmem := by
    rcases List.mem_append.mp hmem with hold | hnew
    · exact h.asked j op' hold
    · rw [List.mem_singleton] at hnew
      cases hnew
      exact hop
  results j r := by
    rw [answers_append, h.current]
    simp only [answers, List.mem_append, List.mem_singleton, Prod.mk.injEq]
    rw [<- h.results j r]
    by_cases hj : j = i
    · subst hj
      rw [hresult, hnone]
      simp [eq_comm]
    · rw [hsame j hj]
      simp [hj]
  current := by
    rw [answers_append, h.current]
    rfl

end Explains
end Linearization
