import ConveyorModbus.Library.Counting
import ConveyorModbus.Library.Program
import ConveyorModbus.Library.Transition

/-!
# Budgets of programs and ledgers of runs

A tariff puts a price on every effect.  `Costs cost p n` says that no trace of
`p` costs more than `n`, whatever the replies.

A ledger of a transition system says how much may still be spent from a state:
every step pays its price out of what is left, and some steps pay in.  Along a
run the payments are covered by what was there and what was paid in, so with a
positive price on every step a run that nothing is paid into is short.
-/

namespace Effects
namespace Program

variable {E F : Type} {R : E -> Type} {S : F -> Type} {A B : Type}

/-!
## Budgets
-/

def Costs (cost : E -> Nat) : Program E R A -> Nat -> Prop
  | ret _, _ => True
  | perform e k, n => cost e ≤ n ∧ forall r, Costs cost (k r) (n - cost e)

theorem Costs.mono {cost : E -> Nat} {p : Program E R A} {m n : Nat}
    (h : Costs cost p m) (hle : m ≤ n) : Costs cost p n := by
  induction p generalizing m n with
  | ret a => trivial
  | perform e k ih =>
      rcases h with ⟨hcost, hrest⟩
      have hless : m - cost e ≤ n - cost e := Nat.sub_le_sub_right hle _
      exact ⟨Nat.le_trans hcost hle, fun r => ih r (hrest r) hless⟩

theorem Costs.perform_add (cost : E -> Nat) {e : E} {k : R e -> Program E R A}
    {n : Nat} (h : forall r, Costs cost (k r) n) :
    Costs cost (perform e k) (cost e + n) := by
  constructor
  · exact Nat.le_add_right _ _
  · intro r
    exact (h r).mono (Nat.le_sub_of_add_le' (Nat.le_refl _))

theorem Costs.bind {cost : E -> Nat} {p : Program E R A}
    {f : A -> Program E R B} {m n : Nat} (hp : Costs cost p m)
    (hf : forall a, Costs cost (f a) n) : Costs cost (p >>= f) (m + n) := by
  induction p generalizing m with
  | ret a => exact (hf a).mono (Nat.le_add_left n m)
  | perform e k ih =>
      rcases hp with ⟨hcost, hrest⟩
      have hleft : m - cost e + n = m + n - cost e := by omega
      constructor
      · exact Nat.le_trans hcost (Nat.le_add_right m n)
      · intro r
        rw [<- hleft]
        exact ih r (hrest r)

theorem Costs.interp {cost : E -> Nat} {cost' : F -> Nat}
    {handler : (e : E) -> Program F S (R e)}
    (hhandler : forall e, Costs cost' (handler e) (cost e))
    {p : Program E R A} {n : Nat} (hp : Costs cost p n) :
    Costs cost' (interp handler p) n := by
  induction p generalizing n with
  | ret a => trivial
  | perform e k ih =>
      rcases hp with ⟨hcost, hrest⟩
      have hsplit : cost e + (n - cost e) = n := by omega
      rw [<- hsplit]
      exact (hhandler e).bind (fun r => ih r (hrest r))

end Program
end Effects

namespace Transition
namespace System

open Counting

variable {S L : Type}

/-!
## Ledgers
-/

/-- `funds s n`: at most `n` has to be paid from `s` on, unless more is paid
in.  A step pays its price, and `income` is what it pays in. -/
structure Ledger (M : System S L) (funds : S -> Nat -> Prop)
    (price income : L -> Nat) : Prop where
  step : forall (s : S) (l : L) (s' : S) (n : Nat),
    Reachable M s -> funds s n -> M.step s l s' ->
      exists m, funds s' m ∧ m + price l ≤ n + income l

section Ledger

variable {M : System S L} {funds : S -> Nat -> Prop} {price income : L -> Nat}

theorem Ledger.run (hledger : Ledger M funds price income) {s s' : S}
    {ls : List L} {n : Nat} (hs : Reachable M s) (hfunds : funds s n)
    (hrun : Run M s ls s') :
    exists m, funds s' m ∧ m + total price ls ≤ n + total income ls := by
  induction hrun generalizing n with
  | nil s => exact ⟨n, hfunds, Nat.le_refl _⟩
  | cons hstep _ ih =>
      rcases hledger.step _ _ _ _ hs hfunds hstep with ⟨m, hnext, hpaid⟩
      rcases ih (Reachable.step hs hstep) hnext with ⟨rest, hrest, hle⟩
      refine ⟨rest, hrest, ?_⟩
      rw [total_cons, total_cons]
      omega

theorem Ledger.paid_le (hledger : Ledger M funds price income) {s s' : S}
    {ls : List L} {n : Nat} (hs : Reachable M s) (hfunds : funds s n)
    (hrun : Run M s ls s') : total price ls ≤ n + total income ls := by
  rcases hledger.run hs hfunds hrun with ⟨m, _, hle⟩
  omega

end Ledger

/-!
## Meters

A meter reads its amounts off the state a step is made from.  Several counts of
one run are one meter with tuples for amounts.
-/

inductive Metered {A : Type} [AddMonoid A] (M : System S L)
    (meter : S -> L -> A) : S -> List L -> A -> S -> Prop where
  | nil (s : S) : Metered M meter s [] 0 s
  | cons {s s' s'' : S} {l : L} {ls : List L} {n : A} :
      M.step s l s' -> Metered M meter s' ls n s'' ->
      Metered M meter s (l :: ls) (meter s l + n) s''

theorem exists_metered {A : Type} [AddMonoid A] {M : System S L}
    (meter : S -> L -> A) {s s' : S} {ls : List L} (h : Run M s ls s') :
    exists n, Metered M meter s ls n s' := by
  induction h with
  | nil s => exact ⟨0, Metered.nil s⟩
  | cons hstep _ ih =>
      rcases ih with ⟨n, hrest⟩
      exact ⟨_, Metered.cons hstep hrest⟩

theorem Metered.run {A : Type} [AddMonoid A] {M : System S L}
    {meter : S -> L -> A} {s s' : S} {ls : List L} {n : A}
    (h : Metered M meter s ls n s') : Run M s ls s' := by
  induction h with
  | nil s => exact Run.nil s
  | cons hstep _ ih => exact Run.cons hstep ih

theorem Metered.total_eq {M : System S L} {meter : S -> L -> Nat}
    {price : L -> Nat}
    (hprice : forall s l s', Reachable M s -> M.step s l s' ->
      meter s l = price l)
    {s s' : S} {ls : List L} {n : Nat} (hs : Reachable M s)
    (h : Metered M meter s ls n s') :
    Run M s ls s' ∧ n = total price ls := by
  induction h with
  | nil s => exact ⟨Run.nil s, rfl⟩
  | cons hstep _ ih =>
      rcases ih (Reachable.step hs hstep) with ⟨hrun, hn⟩
      refine ⟨Run.cons hstep hrun, ?_⟩
      rw [total_cons, hprice _ _ _ hs hstep, hn]

/-!
## Runs that come to rest
-/

def Stuck (M : System S L) (s : S) : Prop :=
  forall l s', ¬ M.step s l s'

/-- Where runs from `s` have bounded length, one of them gets stuck. -/
theorem exists_stuck_run {M : System S L} {s : S} {n : Nat}
    (hbound : forall ls s', Run M s ls s' -> ls.length ≤ n) :
    exists ls s', Run M s ls s' ∧ Stuck M s' := by
  induction n generalizing s with
  | zero =>
      refine ⟨[], s, Run.nil s, ?_⟩
      intro l s' hstep
      have hle := hbound _ _ (Run.cons hstep (Run.nil s'))
      simp at hle
  | succ n ih =>
      by_cases hstuck : Stuck M s
      · exact ⟨[], s, Run.nil s, hstuck⟩
      · simp only [Stuck, not_forall, not_not] at hstuck
        rcases hstuck with ⟨l, t, hstep⟩
        have hrest : forall ls s', Run M t ls s' -> ls.length ≤ n := by
          intro ls s' hrun
          have hle := hbound _ _ (Run.cons hstep hrun)
          rw [List.length_cons] at hle
          omega
        rcases ih hrest with ⟨ls, s', hrun, hend⟩
        exact ⟨l :: ls, s', Run.cons hstep hrun, hend⟩

end System
end Transition
