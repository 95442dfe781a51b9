import Mathlib.Algebra.BigOperators.Group.List.Basic
import Mathlib.Algebra.Order.BigOperators.Group.List
import Mathlib.Algebra.Ring.Nat

/-!
# Sums over a list with one entry replaced

A state that keeps its parts in lists changes one entry at a time.  A count
taken over all the parts then changes by the difference at that entry; the
equations avoid subtraction so that linear arithmetic can use them directly.
-/

namespace Counting

variable {A : Type}

def total (weight : A -> Nat) (l : List A) : Nat :=
  (l.map weight).sum

@[simp] theorem total_nil (weight : A -> Nat) : total weight [] = 0 := rfl

@[simp] theorem total_cons (weight : A -> Nat) (a : A) (l : List A) :
    total weight (a :: l) = weight a + total weight l := by
  simp [total]

@[simp] theorem total_append (weight : A -> Nat) (l m : List A) :
    total weight (l ++ m) = total weight l + total weight m := by
  simp [total]

theorem total_set (weight : A -> Nat) {l : List A} {i : Nat} {old : A}
    (h : l[i]? = some old) (new : A) :
    total weight (l.set i new) + weight old =
      total weight l + weight new := by
  induction l generalizing i with
  | nil => simp at h
  | cons a rest ih =>
      cases i with
      | zero =>
          simp only [List.getElem?_cons_zero, Option.some.injEq] at h
          subst h
          simp only [List.set_cons_zero, total_cons]
          omega
      | succ j =>
          simp only [List.getElem?_cons_succ] at h
          have hrest := ih h
          simp only [List.set_cons_succ, total_cons]
          omega

theorem getElem?_set_of_some {l : List A} {i : Nat} {old : A}
    (h : l[i]? = some old) (new : A) (j : Nat) :
    (l.set i new)[j]? = if j = i then some new else l[j]? := by
  have hlt : i < l.length := (List.getElem?_eq_some_iff.mp h).1
  rw [List.getElem?_set]
  by_cases hj : j = i
  · simp [hj, hlt]
  · simp [hj, Ne.symm hj]

theorem getElem?_concat_of_some {l : List A} {i : Nat} {a : A}
    (h : l[i]? = some a) (new : A) : (l ++ [new])[i]? = some a := by
  have hlt : i < l.length := (List.getElem?_eq_some_iff.mp h).1
  rw [List.getElem?_append_left hlt]
  exact h

theorem getElem?_concat_cases {l : List A} {i : Nat} {a new : A}
    (h : (l ++ [new])[i]? = some a) :
    l[i]? = some a ∨ (i = l.length ∧ a = new) := by
  have hlt : i < (l ++ [new]).length := (List.getElem?_eq_some_iff.mp h).1
  rw [List.length_append, List.length_singleton] at hlt
  rcases Nat.lt_succ_iff_lt_or_eq.mp hlt with hold | rfl
  · rw [List.getElem?_append_left hold] at h
    exact Or.inl h
  · rw [List.getElem?_concat_length, Option.some.injEq] at h
    exact Or.inr ⟨rfl, h.symm⟩

theorem exists_mem_set {p : A -> Prop} {l : List A} {i : Nat} {old new : A}
    (h : l[i]? = some old) (hkeep : p old -> p new) :
    (exists a, a ∈ l.set i new ∧ p a) <-> (exists a, a ∈ l ∧ p a) ∨ p new := by
  induction l generalizing i with
  | nil => simp at h
  | cons a rest ih =>
      cases i with
      | zero =>
          simp only [List.getElem?_cons_zero, Option.some.injEq] at h
          subst h
          simp only [List.set_cons_zero, List.mem_cons, exists_eq_or_imp]
          constructor
          · intro h
            rcases h with hnew | hrest
            · exact Or.inr hnew
            · exact Or.inl (Or.inr hrest)
          · intro h
            rcases h with (hold | hrest) | hnew
            · exact Or.inl (hkeep hold)
            · exact Or.inr hrest
            · exact Or.inl hnew
      | succ j =>
          simp only [List.getElem?_cons_succ] at h
          simp only [List.set_cons_succ, List.mem_cons, exists_eq_or_imp]
          rw [ih h, or_assoc]

theorem weight_le_total (weight : A -> Nat) {l : List A} {a : A}
    (h : a ∈ l) : weight a ≤ total weight l := by
  induction l with
  | nil => cases h
  | cons b rest ih =>
      rw [total_cons]
      cases h with
      | head => omega
      | tail _ hmem =>
          have := ih hmem
          omega

theorem exists_of_total_pos (weight : A -> Nat) {l : List A}
    (h : 0 < total weight l) : exists a, a ∈ l ∧ 0 < weight a := by
  induction l with
  | nil => simp at h
  | cons a rest ih =>
      rw [total_cons] at h
      rcases Nat.eq_zero_or_pos (weight a) with hzero | hpos
      · rcases ih (by omega) with ⟨b, hmem, hb⟩
        exact ⟨b, List.mem_cons_of_mem a hmem, hb⟩
      · exact ⟨a, List.mem_cons_self, hpos⟩

theorem total_mono {weight weight' : A -> Nat} {l : List A}
    (h : forall a, a ∈ l -> weight a ≤ weight' a) :
    total weight l ≤ total weight' l := by
  induction l with
  | nil => exact Nat.le_refl 0
  | cons a rest ih =>
      rw [total_cons, total_cons]
      have hhead := h a List.mem_cons_self
      have htail := ih (fun b hb => h b (List.mem_cons_of_mem a hb))
      omega

theorem total_le_length {weight : A -> Nat} {l : List A}
    (h : forall a, a ∈ l -> weight a ≤ 1) : total weight l ≤ l.length := by
  induction l with
  | nil => exact Nat.le_refl 0
  | cons a rest ih =>
      have ha := h a List.mem_cons_self
      have hrest := ih (fun b hb => h b (List.mem_cons_of_mem a hb))
      rw [total_cons, List.length_cons]
      omega

theorem total_eq_zero {weight : A -> Nat} {l : List A}
    (h : forall a, a ∈ l -> weight a = 0) : total weight l = 0 := by
  have hle : total weight l ≤ total (fun _ => 0) l :=
    total_mono (fun a ha => Nat.le_of_eq (h a ha))
  simpa [total] using hle

theorem total_one (l : List A) : total (fun _ => 1) l = l.length := by
  induction l with
  | nil => rfl
  | cons a rest ih =>
      rw [total_cons, ih, List.length_cons]
      omega

theorem total_add (weight weight' : A -> Nat) (l : List A) :
    total (fun a => weight a + weight' a) l = total weight l + total weight' l := by
  induction l with
  | nil => rfl
  | cons a rest ih =>
      simp only [total_cons, ih]
      omega

theorem total_map {B : Type} (weight : B -> Nat) (f : A -> B) (l : List A) :
    total weight (l.map f) = total (fun a => weight (f a)) l := by
  simp only [total, List.map_map]
  rfl

theorem total_flatMap {B : Type} (weight : B -> Nat) (f : A -> List B)
    (l : List A) :
    total weight (l.flatMap f) = total (fun a => total weight (f a)) l := by
  induction l with
  | nil => rfl
  | cons a rest ih => rw [List.flatMap_cons, total_append, total_cons, ih]

theorem total_filterMap {B : Type} (weight : B -> Nat) (f : A -> Option B)
    (l : List A) :
    total weight (l.filterMap f) =
      total (fun a => total weight (f a).toList) l := by
  induction l with
  | nil => rfl
  | cons a rest ih =>
      cases h : f a with
      | none => simp [h, ih]
      | some b => simp [h, ih]

theorem total_indicator (test : A -> Bool) (l : List A) :
    total (fun a => if test a then 1 else 0) l = l.countP test := by
  induction l with
  | nil => rfl
  | cons a rest ih =>
      rw [total_cons, List.countP_cons, ih]
      omega

theorem total_eraseIdx (weight : A -> Nat) {l : List A} {i : Nat} {a : A}
    (h : l[i]? = some a) :
    total weight (l.eraseIdx i) + weight a = total weight l := by
  induction l generalizing i with
  | nil => simp at h
  | cons b rest ih =>
      cases i with
      | zero =>
          simp only [List.getElem?_cons_zero, Option.some.injEq] at h
          subst h
          simp only [List.eraseIdx_cons_zero, total_cons]
          omega
      | succ j =>
          simp only [List.getElem?_cons_succ] at h
          have hrest := ih h
          simp only [List.eraseIdx_cons_succ, total_cons]
          omega

/-!
## Counting by index
-/

theorem map_set_of_some {B : Type} (f : A -> B) {l : List A} {i : Nat} {a b : A}
    (h : l[i]? = some a) (hsame : f b = f a) :
    (l.set i b).map f = l.map f := by
  rw [List.map_set, hsame]
  apply List.ext_getElem?
  intro j
  have hmap : (l.map f)[i]? = some (f a) := by
    rw [List.getElem?_map, h]
    rfl
  rw [getElem?_set_of_some hmap]
  split
  · rename_i hj
    rw [hj, hmap]
  · rfl

def passing (test : A -> Bool) (l : List A) : List Nat :=
  (List.range l.length).filter (fun i => l[i]?.any test)

theorem mem_passing_iff {test : A -> Bool} {l : List A} {i : Nat} :
    i ∈ passing test l <-> exists a, l[i]? = some a ∧ test a = true := by
  unfold passing
  rw [List.mem_filter, List.mem_range, Option.any_eq_true]
  constructor
  · exact fun h => h.right
  · intro h
    rcases h with ⟨a, ha, htest⟩
    exact ⟨(List.getElem?_eq_some_iff.mp ha).1, a, ha, htest⟩

theorem nodup_passing (test : A -> Bool) (l : List A) :
    (passing test l).Nodup :=
  List.nodup_range.filter _

theorem length_passing (test : A -> Bool) (l : List A) :
    (passing test l).length = l.countP test := by
  unfold passing
  induction l with
  | nil => rfl
  | cons a rest ih =>
      rw [List.length_cons, List.range_succ_eq_map, List.filter_cons,
        List.filter_map]
      simp only [Function.comp_def, List.getElem?_cons_zero, Option.any_some,
        List.getElem?_cons_succ]
      rw [List.countP_cons, <- ih]
      cases test a <;> simp

/-- Where every entry that passes is pointed at, there are enough pointers. -/
theorem countP_le_of_pointed {B : Type} {l : List A} {m : List B}
    {test : A -> Bool} {test' : B -> Bool} (f : B -> Nat)
    (h : forall i a, l[i]? = some a -> test a = true ->
      exists b, b ∈ m ∧ test' b = true ∧ f b = i) :
    l.countP test ≤ m.countP test' := by
  rw [<- length_passing, List.countP_eq_length_filter,
    <- List.length_map (f := f)]
  apply (List.subperm_of_subset (nodup_passing test l) ?_).length_le
  intro i hi
  rcases mem_passing_iff.mp hi with ⟨a, ha, htest⟩
  rcases h i a ha htest with ⟨b, hmem, hb, rfl⟩
  exact List.mem_map_of_mem (List.mem_filter.mpr ⟨hmem, hb⟩)

theorem countP_le_of_pointing {B : Type} {l : List A} {m : List B}
    {test : A -> Bool} {test' : B -> Bool} (f : B -> Nat)
    (honce : forall b, b ∈ m -> test' b = true ->
      m.countP (fun other => f other == f b) ≤ 1)
    (h : forall b, b ∈ m -> test' b = true ->
      exists a, l[f b]? = some a ∧ test a = true) :
    m.countP test' ≤ l.countP test := by
  rw [<- length_passing test l, List.countP_eq_length_filter,
    <- List.length_map (f := f)]
  apply (List.subperm_of_subset ?_ ?_).length_le
  · rw [List.nodup_iff_count]
    intro i
    by_cases hi : i ∈ (m.filter test').map f
    · rcases List.mem_map.mp hi with ⟨b, hb, rfl⟩
      rcases List.mem_filter.mp hb with ⟨hmem, htest⟩
      rw [List.count, List.countP_map, List.countP_filter]
      refine Nat.le_trans (List.countP_mono_left ?_) (honce b hmem htest)
      intro other _ hother
      exact (Bool.and_eq_true _ _ ▸ hother).left
    · rw [List.count_eq_zero_of_not_mem hi]
      exact Nat.zero_le 1
  · intro i hi
    rcases List.mem_map.mp hi with ⟨b, hb, rfl⟩
    rcases List.mem_filter.mp hb with ⟨hmem, htest⟩
    exact mem_passing_iff.mpr (h b hmem htest)

end Counting
