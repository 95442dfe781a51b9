import Mathlib.Data.List.Nodup
import Mathlib.Data.List.Range
import ConveyorModbus.Library.Counting

/-!
# A periodic ticker that catches up

A ticker has a deadline every period.  Waiting for a tick ends at the deadline,
or at once when the deadline has passed, and in both cases the next deadline is
one period later: missed ticks are delivered as fast as they are taken.  A loop
that waits for a tick before each round falls behind when rounds are long and
then runs rounds without a pause until it has caught up.

A round may leave a mark at some moment of its work.  How close the marks of
different rounds can lie is a matter of the delay the loop makes up.

Times are natural numbers in a unit of the reader's choice.
-/

namespace Ticker

open Counting

structure Interval where
  deadline : Nat
  period : Nat
  deriving DecidableEq, Repr

namespace Interval

def new (start period : Nat) : Interval where
  deadline := start
  period := period

/-- The time at which a wait that begins at `now` ends. -/
def tick (interval : Interval) (now : Nat) : Nat × Interval :=
  (max interval.deadline now,
    { interval with deadline := interval.deadline + interval.period })

end Interval

structure LoopState where
  interval : Interval
  now : Nat
  deriving DecidableEq, Repr

namespace LoopState

def initial (start period : Nat) : LoopState where
  interval := Interval.new start period
  now := start

def round (s : LoopState) (duration : Nat) : LoopState where
  interval := (s.interval.tick s.now).2
  now := (s.interval.tick s.now).1 + duration

end LoopState

variable (start period : Nat) (durations : Nat -> Nat)

def before : Nat -> LoopState
  | 0 => LoopState.initial start period
  | k + 1 => (before k).round (durations k)

def started (k : Nat) : Nat :=
  ((before start period durations k).interval.tick
    (before start period durations k).now).1

/-- How far the rounds have put the loop behind its deadlines. -/
def backlog (period : Nat) (durations : Nat -> Nat) : Nat -> Nat
  | 0 => 0
  | k + 1 => backlog period durations k + durations k - period

/-!
## Start times
-/

section Start

variable {start period : Nat} {durations : Nat -> Nat}

theorem before_interval (k : Nat) :
    (before start period durations k).interval =
      { deadline := start + k * period, period := period } := by
  induction k with
  | zero => simp [before, LoopState.initial, Interval.new]
  | succ k ih =>
      simp only [before, LoopState.round, Interval.tick, ih, Nat.succ_mul,
        Nat.add_assoc]

theorem started_zero : started start period durations 0 = start := by
  simp [started, before, LoopState.initial, Interval.new, Interval.tick]

theorem started_succ (k : Nat) :
    started start period durations (k + 1) =
      max (start + (k + 1) * period)
        (started start period durations k + durations k) := by
  have hinterval : (before start period durations (k + 1)).interval =
      { deadline := start + (k + 1) * period, period := period } :=
    before_interval (k + 1)
  unfold started
  simp only [Interval.tick, hinterval]
  rfl

theorem started_eq (k : Nat) :
    started start period durations k =
      start + k * period + backlog period durations k := by
  induction k with
  | zero => simp [started_zero, backlog]
  | succ k ih =>
      rw [started_succ, ih, backlog, Nat.succ_mul]
      omega

theorem started_mono {j k : Nat} (h : j ≤ k) :
    started start period durations j ≤ started start period durations k := by
  induction h with
  | refl => exact Nat.le_refl _
  | step _ ih =>
      rw [Nat.succ_eq_add_one, started_succ]
      omega

theorem ended_le_started {j k : Nat} (h : j < k) :
    started start period durations j + durations j ≤
      started start period durations k := by
  have hnext : started start period durations j + durations j ≤
      started start period durations (j + 1) := by
    rw [started_succ]
    exact Nat.le_max_right _ _
  exact Nat.le_trans hnext (started_mono h)

end Start

/-!
## The rate of a loop

Every round leaves at most one mark, at any moment of its work.  The loop keeps
the rate when no window of whole periods ever contains more than two marks too
many, counted from the length of the window.
-/

structure Marks (marks : Nat -> List Nat) : Prop where
  one : forall k, (marks k).length ≤ 1
  during : forall k time, time ∈ marks k ->
    started start period durations k ≤ time ∧
      time ≤ started start period durations k + durations k

/-- The marks of the first `n` rounds within `length` periods from `time` on. -/
def marksWithin (period : Nat) (marks : Nat -> List Nat)
    (n time length : Nat) : Nat :=
  total (fun k => (marks k).countP
    (fun mark => time ≤ mark && mark ≤ time + length * period)) (List.range n)

/-- The backlog never falls by a whole period. -/
def PromptCatchUp : Prop :=
  forall j k, j ≤ k ->
    backlog period durations j < backlog period durations k + period

/-- The marks of a loop that catches up: the last moment of round `late`, the
first of every later one. -/
def crowded (late k : Nat) : List Nat :=
  if k < late then []
  else if k = late then [started start period durations late + durations late]
  else [started start period durations k]

def RateCapped : Prop :=
  forall marks, Marks start period durations marks -> forall n time length,
    marksWithin period marks n time length ≤ length + 2

theorem length_le_of_close {l : List Nat} {width : Nat}
    (hsorted : l.Pairwise (fun j k => j < k))
    (hclose : forall j k, j ∈ l -> k ∈ l -> k < j + width) :
    l.length ≤ width := by
  cases l with
  | nil => exact Nat.zero_le _
  | cons first rest =>
      have hnodup : (first :: rest).Nodup :=
        hsorted.imp Nat.ne_of_lt
      have hsubset : first :: rest ⊆ List.range' first width := by
        intro k hk
        rw [List.mem_range'_1]
        constructor
        · rcases List.mem_cons.mp hk with rfl | hrest
          · exact Nat.le_refl _
          · exact Nat.le_of_lt (List.rel_of_pairwise_cons hsorted hrest)
        · exact hclose first k List.mem_cons_self hk
      have hle := hnodup.length_le_of_subset hsubset
      rwa [List.length_range'] at hle

section Rate

variable {start period : Nat} {durations : Nat -> Nat}

/-- The marks in a window are few when their rounds are close to each other. -/
theorem Marks.within_le {marks : Nat -> List Nat}
    (hmarks : Marks start period durations marks)
    {n time length width : Nat}
    (hclose : forall j k first last, first ∈ marks j -> last ∈ marks k ->
      time ≤ first -> last ≤ time + length * period -> k < j + width) :
    marksWithin period marks n time length ≤ width := by
  let within : Nat -> Nat := fun k => (marks k).countP
    (fun mark => time ≤ mark && mark ≤ time + length * period)
  have hfew : forall k, within k ≤ if 0 < within k then 1 else 0 := by
    intro k
    have hone : within k ≤ 1 :=
      Nat.le_trans List.countP_le_length (hmarks.one k)
    split <;> omega
  have hcount : total within (List.range n) ≤
      ((List.range n).filter (fun k => 0 < within k)).length := by
    rw [<- List.countP_eq_length_filter, <- total_indicator]
    apply total_mono
    intro k _
    simpa using hfew k
  refine Nat.le_trans hcount (length_le_of_close ?_ ?_)
  · exact List.pairwise_lt_range.filter _
  · intro j k hj hk
    simp only [List.mem_filter, decide_eq_true_eq] at hj hk
    rcases List.countP_pos_iff.mp hj.right with ⟨first, hfirst, hfrom⟩
    rcases List.countP_pos_iff.mp hk.right with ⟨last, hlast, hto⟩
    rw [Bool.and_eq_true, decide_eq_true_eq, decide_eq_true_eq] at hfrom hto
    exact hclose j k first last hfirst hlast hfrom.left hto.right

/-- A prompt loop has less than two periods between the end of a round and the
start of the next but one. -/
theorem PromptCatchUp.close (h : PromptCatchUp period durations)
    {j k time length : Nat}
    (hfrom : time ≤ started start period durations j + durations j)
    (hto : started start period durations k ≤ time + length * period) :
    k < j + (length + 2) := by
  by_contra hfar
  have hle : j + (length + 2) ≤ k := Nat.le_of_not_lt hfar
  rcases Nat.exists_eq_add_of_le hle with ⟨m, rfl⟩
  have hprompt := h (j + 1) (j + (length + 2) + m) (by omega)
  rw [started_eq] at hfrom hto
  have hmul : (j + (length + 2) + m) * period =
      j * period + length * period + 2 * period + m * period := by
    rw [Nat.add_mul, Nat.add_mul, Nat.add_mul]
    omega
  rw [backlog] at hprompt
  omega

theorem PromptCatchUp.rateCapped (h : PromptCatchUp period durations) :
    RateCapped start period durations := by
  intro marks hmarks n time length
  apply hmarks.within_le
  intro j k first last hfirst hlast hfrom hto
  have hend := (hmarks.during j first hfirst).right
  have hstart := (hmarks.during k last hlast).left
  exact h.close (Nat.le_trans hfrom hend) (Nat.le_trans hstart hto)

theorem crowded_marks (late : Nat) :
    Marks start period durations
      (crowded start period durations late) where
  one k := by
    unfold crowded
    split
    · exact Nat.zero_le 1
    · split <;> exact Nat.le_refl 1
  during k time hmem := by
    unfold crowded at hmem
    split at hmem
    · cases hmem
    · split at hmem
      · rename_i hlate
        rcases hlate with rfl
        rw [List.mem_singleton.mp hmem]
        exact ⟨Nat.le_add_right _ _, Nat.le_refl _⟩
      · rw [List.mem_singleton.mp hmem]
        exact ⟨Nat.le_refl _, Nat.le_add_right _ _⟩

theorem crowded_within {late length : Nat}
    (hlast : started start period durations (late + 2 + length) ≤
      started start period durations late + durations late + length * period) :
    length + 3 ≤ marksWithin period (crowded start period durations late)
      (late + (length + 3))
      (started start period durations late + durations late) length := by
  have hsplit : List.range (late + (length + 3)) =
      List.range late ++ List.range' late (length + 3) := by
    have happend := @List.range'_append_1 0 late (length + 3)
    rw [Nat.zero_add] at happend
    rw [List.range_eq_range', List.range_eq_range', happend]
  have hmarked : forall m, m ∈ List.range' late (length + 3) ->
      1 ≤ (crowded start period durations late m).countP (fun mark =>
        started start period durations late + durations late ≤ mark &&
          mark ≤ started start period durations late + durations late +
            length * period) := by
    intro m hm
    rw [List.mem_range'_1] at hm
    have hto : started start period durations m ≤
        started start period durations late + durations late +
          length * period := Nat.le_trans (started_mono (by omega)) hlast
    by_cases hlate : m = late
    · simp [crowded, hlate]
    · have hfrom : started start period durations late + durations late ≤
          started start period durations m := ended_le_started (by omega)
      simp [crowded, hlate, Nat.not_lt.mpr hm.left, hfrom, hto]
  rw [marksWithin, hsplit, total_append]
  have hone := total_mono hmarked
  rw [total_one, List.length_range'] at hone
  omega

/-- A loop that makes up a whole period leaves too many marks meanwhile. -/
theorem RateCapped.promptCatchUp (hperiod : 0 < period)
    (h : RateCapped start period durations) :
    PromptCatchUp period durations := by
  intro j k hjk
  by_contra hlarge
  cases j with
  | zero => exact hlarge (by rw [backlog]; omega)
  | succ late =>
      have hlater : late + 2 ≤ k := by
        by_contra hnear
        have hsame : k = late + 1 := by omega
        rw [hsame] at hlarge
        omega
      rcases Nat.exists_eq_add_of_le hlater with ⟨length, rfl⟩
      have hbehind : started start period durations late + durations late =
          start + (late + 1) * period + backlog period durations (late + 1) := by
        rw [backlog] at hlarge ⊢
        rw [started_eq, Nat.succ_mul]
        omega
      have hlast : started start period durations (late + 2 + length) ≤
          started start period durations late + durations late +
            length * period := by
        have hmul : (late + 2 + length) * period =
            (late + 1) * period + period + length * period := by
          rw [show late + 2 + length = late + 1 + 1 + length by omega,
            Nat.add_mul, Nat.add_mul]
          omega
        rw [hbehind, started_eq, hmul]
        omega
      have hmany := crowded_within hlast
      have hfew := h _ (crowded_marks late) (late + (length + 3))
        (started start period durations late + durations late) length
      omega

end Rate

/-!
## How late a loop runs

A round waits for its own tick and, for every earlier tick, until the rounds
since then are over.  It starts as soon as all of them allow.
-/

def spent (durations : Nat -> Nat) (j : Nat) : Nat -> Nat
  | 0 => 0
  | n + 1 => spent durations j n + durations (j + n)

section Lateness

variable {start period : Nat} {durations : Nat -> Nat}

theorem started_le_iff {k time : Nat} :
    started start period durations k ≤ time <->
      forall j n, j + n = k ->
        start + j * period + spent durations j n ≤ time := by
  -- the induction is on the round; its last stretch is its own tick
  induction k generalizing time with
  | zero =>
      rw [started_zero]
      constructor
      · intro h j n hjn
        rcases Nat.add_eq_zero_iff.mp hjn with ⟨rfl, rfl⟩
        simpa [spent] using h
      · intro h
        simpa [spent] using h 0 0 rfl
  | succ k ih =>
      rw [started_succ, Nat.max_le]
      constructor
      · intro h j n hjn
        rcases h with ⟨htick, hround⟩
        cases n with
        | zero =>
            rw [Nat.add_zero] at hjn
            rw [hjn]
            exact htick
        | succ n =>
            have hlast : j + n = k := Nat.succ.inj hjn
            have hstretch := (@ih (time - durations k)).mp
              (Nat.le_sub_of_add_le hround) j n hlast
            rw [spent, hlast]
            omega
      · intro h
        constructor
        · exact h (k + 1) 0 rfl
        · have hfits : durations k ≤ time := by
            have hone := h k 1 rfl
            simp only [spent, Nat.zero_add, Nat.add_zero] at hone
            omega
          have hbefore := (@ih (time - durations k)).mpr (by
            intro j n hjn
            have hstretch := h j (n + 1) (congrArg Nat.succ hjn)
            rw [spent, hjn] at hstretch
            omega)
          omega

theorem tick_le_started (k : Nat) :
    start + k * period ≤ started start period durations k := by
  rw [started_eq]
  exact Nat.le_add_right _ _

/-- A round is on time when no stretch of rounds before it was too long. -/
theorem punctual_iff {k : Nat} :
    started start period durations k = start + k * period <->
      forall j n, j + n = k -> spent durations j n ≤ n * period := by
  have htick : started start period durations k = start + k * period <->
      started start period durations k ≤ start + k * period := by
    constructor
    · exact Nat.le_of_eq
    · intro hle
      exact Nat.le_antisymm hle (tick_le_started k)
  rw [htick, started_le_iff]
  constructor
  · intro h j n hjn
    have hstretch := h j n hjn
    rw [<- hjn, Nat.add_mul] at hstretch
    omega
  · intro h j n hjn
    have hstretch := h j n hjn
    rw [<- hjn, Nat.add_mul]
    omega

theorem backlog_recovers {j gain : Nat}
    (hshort : forall k, j ≤ k -> durations k + gain ≤ period) (n : Nat) :
    backlog period durations (j + n) ≤ backlog period durations j - n * gain := by
  induction n with
  | zero => simp
  | succ n ih =>
      have hround := hshort (j + n) (Nat.le_add_right j n)
      rw [<- Nat.add_assoc, backlog, Nat.succ_mul]
      omega

theorem punctual_of_short {j gain n k : Nat}
    (hshort : forall k, j ≤ k -> durations k + gain ≤ period)
    (hmade : backlog period durations j ≤ n * gain) (hk : j + n ≤ k) :
    started start period durations k = start + k * period := by
  rcases Nat.exists_eq_add_of_le hk with ⟨m, rfl⟩
  have hleft := backlog_recovers hshort (n + m)
  rw [<- Nat.add_assoc, Nat.add_mul] at hleft
  rw [started_eq]
  omega

theorem punctual_close {length time late j k : Nat} (hlate : late < period)
    (hj : started start period durations j = start + j * period)
    (hk : started start period durations k = start + k * period)
    (hfrom : time ≤ started start period durations j + late)
    (hto : started start period durations k ≤ time + length * period) :
    k < j + (length + 1) := by
  have hticks : k * period < (j + (length + 1)) * period := by
    rw [Nat.add_mul, Nat.succ_mul]
    omega
  exact Nat.lt_of_mul_lt_mul_right hticks

end Lateness
end Ticker
