import Mathlib.Data.List.Basic
import Mathlib.Algebra.BigOperators.Group.List.Basic

/-!
# Labelled transition systems

States reachable from the initial ones, runs between two states, and the two
proof rules the development uses: an invariant holds in every reachable state,
and an abstraction function carries states and runs from a concrete system to
an abstract one.
-/

namespace Transition

structure System (S L : Type) where
  init : S -> Prop
  step : S -> L -> S -> Prop

namespace System

variable {S L S' L' : Type}

/-- The runs of `M` all of whose steps satisfy `ok`. -/
def restrict (M : System S L) (ok : S -> L -> Prop) : System S L where
  init := M.init
  step s l s' := M.step s l s' ∧ ok s l

inductive Reachable (M : System S L) : S -> Prop where
  | init {s : S} : M.init s -> Reachable M s
  | step {s s' : S} {l : L} : Reachable M s -> M.step s l s' -> Reachable M s'

inductive Run (M : System S L) : S -> List L -> S -> Prop where
  | nil (s : S) : Run M s [] s
  | cons {s s' s'' : S} {l : L} {ls : List L} :
      M.step s l s' -> Run M s' ls s'' -> Run M s (l :: ls) s''

theorem Run.reachable {M : System S L} {s s' : S} {ls : List L}
    (hrun : Run M s ls s') (hs : Reachable M s) : Reachable M s' := by
  induction hrun with
  | nil _ => exact hs
  | cons hstep _ ih => exact ih (Reachable.step hs hstep)

theorem Run.append {M : System S L} {s s' s'' : S} {ls ls' : List L}
    (hrun : Run M s ls s') (hrun' : Run M s' ls' s'') :
    Run M s (ls ++ ls') s'' := by
  induction hrun with
  | nil _ => exact hrun'
  | cons hstep _ ih => exact Run.cons hstep (ih hrun')

theorem Reachable.of_restrict {M : System S L} {ok : S -> L -> Prop} {s : S}
    (h : Reachable (M.restrict ok) s) : Reachable M s := by
  induction h with
  | init hinit => exact Reachable.init hinit
  | step _ hstep ih => exact Reachable.step ih hstep.left

theorem Run.restrict {M : System S L} {ok : S -> L -> Prop} {s s' : S}
    {ls : List L} (hrun : Run M s ls s')
    (hok : forall s l, l ∈ ls -> ok s l) : Run (M.restrict ok) s ls s' := by
  induction hrun with
  | nil s => exact Run.nil s
  | cons hstep _ ih =>
      exact Run.cons ⟨hstep, hok _ _ List.mem_cons_self⟩
        (ih (fun s l hl => hok s l (List.mem_cons_of_mem _ hl)))

theorem Run.of_restrict {M : System S L} {ok : S -> L -> Prop} {s s' : S}
    {ls : List L} (hrun : Run (M.restrict ok) s ls s') : Run M s ls s' := by
  induction hrun with
  | nil s => exact Run.nil s
  | cons hstep _ ih => exact Run.cons hstep.left ih

theorem Run.labels_of_restrict {M : System S L} {ok : L -> Prop} {s s' : S}
    {ls : List L} (hrun : Run (M.restrict (fun _ l => ok l)) s ls s') :
    forall l, l ∈ ls -> ok l := by
  induction hrun with
  | nil _ => simp
  | cons hstep _ ih =>
      intro l hl
      cases hl with
      | head => exact hstep.right
      | tail _ hmem => exact ih l hmem

theorem Reachable.invariant {M : System S L} {inv : S -> Prop}
    (hinit : forall s, M.init s -> inv s)
    (hstep : forall s l s', Reachable M s -> inv s -> M.step s l s' -> inv s')
    {s : S} (h : Reachable M s) : inv s := by
  induction h with
  | init hs => exact hinit _ hs
  | step hr hs ih => exact hstep _ _ _ hr ih hs

/-- A function on states under which every step is an abstract step or goes
unnoticed. -/
structure Abstraction (M : System S L) (N : System S' L') (f : S -> S') :
    Prop where
  init : forall s, M.init s -> N.init (f s)
  step : forall s l s', Reachable M s -> M.step s l s' ->
    f s' = f s ∨ exists a, N.step (f s) a (f s')

section Abstraction

variable {M : System S L} {N : System S' L'} {f : S -> S'}

theorem Abstraction.reachable (habs : Abstraction M N f) {s : S}
    (h : Reachable M s) : Reachable N (f s) := by
  induction h with
  | init hs => exact Reachable.init (habs.init _ hs)
  | step hr hs ih =>
      rcases habs.step _ _ _ hr hs with hsame | ⟨a, hstep⟩
      · rw [hsame]
        exact ih
      · exact Reachable.step ih hstep

theorem Abstraction.run (habs : Abstraction M N f) {s s' : S} {ls : List L}
    (hs : Reachable M s) (hrun : Run M s ls s') :
    exists actions, Run N (f s) actions (f s') := by
  induction hrun with
  | nil s => exact ⟨[], Run.nil (f s)⟩
  | cons hfirst _ ih =>
      rcases ih (Reachable.step hs hfirst) with ⟨actions, hrest⟩
      rcases habs.step _ _ _ hs hfirst with hsame | ⟨a, hstep⟩
      · exact ⟨actions, hsame ▸ hrest⟩
      · exact ⟨a :: actions, Run.cons hstep hrest⟩

end Abstraction

/-!
## Replayed runs

A step function that only makes steps of the system turns a list of labels
into a run by computation.
-/

def replay (advance : S -> L -> Option S) : S -> List L -> Option S
  | s, [] => some s
  | s, l :: ls =>
      match advance s l with
      | some s' => replay advance s' ls
      | none => none

theorem run_of_replay {M : System S L} {advance : S -> L -> Option S}
    (hsound : forall s l s', advance s l = some s' -> M.step s l s')
    {s s' : S} {ls : List L} (h : replay advance s ls = some s') :
    Run M s ls s' := by
  induction ls generalizing s with
  | nil =>
      cases h
      exact Run.nil _
  | cons l ls ih =>
      simp only [replay] at h
      split at h
      · rename_i t hadvance
        exact Run.cons (hsound s l t hadvance) (ih h)
      · cases h

end System
end Transition
