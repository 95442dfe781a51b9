import Mathlib.Data.List.Induction
import ConveyorModbus.Observability.LogRetention

/-!
# The cleanup task over all its rounds

The task reads the clock, lists the log directory, removes files and sleeps,
over and over.  What it may do next is a typestate: a file is removed only
after a listing that shows it expired at the last reading of the clock.
-/

namespace ConveyorModbus

open Effects Program

/-- Where a round stands: the last reading of the clock and what was listed
since. -/
inductive Sweep where
  | idle
  | reading (now : SystemTime)
  | sweeping (now : SystemTime) (listing : List (Except FsError DirEntry))

namespace LogRetentionSettings

/-- The listing has an entry for the file that passes the tests of the loop. -/
def Shows (settings : LogRetentionSettings) (now : SystemTime)
    (listing : List (Except FsError DirEntry)) (path : Path) : Prop :=
  exists entry, entry ∈ entriesOf listing ∧ settings.entryPath entry = path ∧
    settings.Deletes now entry

def retention (settings : LogRetentionSettings) :
    Typestate FsEffect FsEffect.Reply Sweep where
  allowed
    | _, .now => True
    | .reading _, .readDir dir => dir = settings.logDir
    | .sweeping now listing, .removeFile path => settings.Shows now listing path
    | _, .sleep delay => delay = settings.cleanupInterval
    | _, _ => False
  next
    | _, .now, now => .reading now
    | .reading now, .readDir _, .ok listing => .sweeping now listing
    | .sweeping now listing, .removeFile _, _ => .sweeping now listing
    | _, _, _ => .idle

end LogRetentionSettings

section Rounds

variable (settings : LogRetentionSettings)

theorem deleteLoop_follows (now : SystemTime)
    {listing entries : List (Except FsError DirEntry)} (deletedCount : Nat)
    (hentries : forall entry, entry ∈ entriesOf entries ->
      entry ∈ entriesOf listing) :
    Follows settings.retention (deleteLoop settings now entries deletedCount)
      (.sweeping now listing) (fun _ _ => True) := by
  induction entries generalizing deletedCount with
  | nil => trivial
  | cons item entries ih =>
      cases item with
      | error err => exact ih deletedCount hentries
      | ok entry =>
          have hrest : forall other, other ∈ entriesOf entries ->
              other ∈ entriesOf listing := by
            intro other hother
            exact hentries other (List.mem_cons_of_mem entry hother)
          by_cases hdeletes : settings.Deletes now entry
          · rw [deleteLoop_of_deletes hdeletes]
            constructor
            · exact ⟨entry, hentries entry (List.mem_cons_self ..), rfl,
                hdeletes⟩
            · intro removed
              exact ih _ hrest
          · rw [deleteLoop_of_not_deletes hdeletes]
            exact ih deletedCount hrest

theorem deleteExpiredLogFiles_follows (now : SystemTime) :
    Follows settings.retention (deleteExpiredLogFiles settings now)
      (.reading now) (fun _ _ => True) := by
  rw [deleteExpiredLogFiles, lift_bind]
  constructor
  · rfl
  · intro directory
    cases directory with
    | error err =>
        by_cases hmissing : err.kind = .notFound
        · simp only [hmissing, if_true]
          trivial
        · simp only [hmissing, if_false]
          trivial
    | ok listing =>
        apply Follows.bind
        apply (deleteLoop_follows settings now 0 (fun _ h => h)).mono
        intro state deletedCount _
        trivial

theorem cleanupOldLogFiles_follows (state : Sweep) :
    Follows settings.retention (cleanupOldLogFiles settings) state
      (fun _ _ => True) := by
  rw [cleanupOldLogFiles, lift_bind]
  constructor
  · trivial
  · intro now
    apply Follows.bind
    apply (deleteExpiredLogFiles_follows settings now).mono
    intro state result _
    trivial

theorem cleanupRounds_follows (rounds : Nat) (state : Sweep) :
    Follows settings.retention (cleanupRounds settings rounds) state
      (fun _ _ => True) := by
  induction rounds generalizing state with
  | zero => trivial
  | succ rounds ih =>
      apply Follows.bind
      apply (cleanupOldLogFiles_follows settings state).mono
      intro swept _ _
      constructor
      · cases swept <;> rfl
      · intro _
        exact ih _

end Rounds

/-!
## What the task deletes

It removes only managed files that the listing of the same round shows to have
outlived the configured retention.
-/

theorem cleanupSettings_eq_some_iff {config : LoggingConfig}
    {settings : LogRetentionSettings} :
    cleanupSettings config = some settings <->
      config.retainedDays ≠ 0 ∧
        settings =
          { logDir := Path.ofName logDir
            filePrefix := logFilePrefix
            retainedDays := config.retainedDays
            cleanupInterval := fromSecs (saturatingMul
              (max config.cleanupIntervalHours 1) (60 * 60)) } := by
  unfold cleanupSettings
  by_cases hdays : config.retainedDays = 0
  · simp [hdays]
  · simp [hdays, eq_comm]

section Deletions

variable {config : LoggingConfig} {rounds : Nat}
  {settings : LogRetentionSettings} {now : SystemTime}
  {listing : List (Except FsError DirEntry)} {l : List (Event FsEffect.Reply)}

theorem spawnCleanupTask_allowed {effect : FsEffect}
    {k : effect.Reply -> FsProgram Unit}
    (h : After (spawnCleanupTask config rounds) l (perform effect k)) :
    exists settings, cleanupSettings config = some settings ∧
      settings.retention.allowed
        (Typestate.run settings.retention .idle l) effect := by
  unfold spawnCleanupTask at h
  cases hsettings : cleanupSettings config with
  | none =>
      rw [hsettings] at h
      cases h
  | some settings =>
      rw [hsettings] at h
      have hfollows := h.follows (cleanupRounds_follows settings rounds .idle)
      exact ⟨settings, rfl, hfollows.left⟩

theorem next_eq_reading {state : Sweep} {event : Event FsEffect.Reply}
    (h : settings.retention.next state event.1 event.2 = .reading now) :
    event = ⟨.now, now⟩ := by
  rcases event with ⟨effect, reply⟩
  cases effect with
  | now => cases state <;> cases h <;> rfl
  | readDir dir => cases state <;> cases reply <;> cases h
  | removeFile path => cases state <;> cases h
  | sleep delay => cases state <;> cases h

theorem next_eq_sweeping {state : Sweep} {event : Event FsEffect.Reply}
    (h : settings.retention.next state event.1 event.2 =
      .sweeping now listing) :
    (state = .reading now ∧ exists dir, event = ⟨.readDir dir, .ok listing⟩) ∨
      (state = .sweeping now listing ∧
        exists path removed, event = ⟨.removeFile path, removed⟩) := by
  rcases event with ⟨effect, reply⟩
  cases effect with
  | now => cases state <;> cases h
  | sleep delay => cases state <;> cases h
  | readDir dir =>
      cases state with
      | idle => cases reply <;> cases h
      | sweeping now listing => cases reply <;> cases h
      | reading now =>
          cases reply with
          | error err => cases h
          | ok found =>
              cases h
              exact Or.inl ⟨rfl, dir, rfl⟩
  | removeFile path =>
      cases state with
      | idle => cases h
      | reading now => cases h
      | sweeping now listing =>
          cases h
          exact Or.inr ⟨rfl, path, reply, rfl⟩

theorem reading_shape
    (h : Typestate.run settings.retention .idle l = .reading now) :
    exists before, l = before ++ [⟨.now, now⟩] := by
  rcases List.eq_nil_or_concat l with rfl | ⟨before, event, rfl⟩
  · cases h
  · rw [List.concat_eq_append, Typestate.run_snoc] at h
    rw [List.concat_eq_append, next_eq_reading h]
    exact ⟨before, rfl⟩

/-- A sweep is a reading of the clock, a listing and removals.  The induction
is on the trace from its end. -/
theorem sweeping_shape
    (h : Typestate.run settings.retention .idle l = .sweeping now listing) :
    exists before dir removals,
      l = before ++ ⟨.now, now⟩ :: ⟨.readDir dir, .ok listing⟩ :: removals ∧
      forall event, event ∈ removals ->
        exists path removed, event = ⟨.removeFile path, removed⟩ := by
  induction l using List.reverseRecOn with
  | nil => cases h
  | append_singleton l event ih =>
      rw [Typestate.run_snoc] at h
      rcases next_eq_sweeping h with
        ⟨hreading, dir, rfl⟩ | ⟨hsweeping, path, removed, rfl⟩
      · rcases reading_shape hreading with ⟨before, rfl⟩
        refine ⟨before, dir, [], by simp, ?_⟩
        intro event hevent
        cases hevent
      · rcases ih hsweeping with ⟨before, dir, removals, rfl, hremovals⟩
        refine ⟨before, dir, removals ++ [⟨.removeFile path, removed⟩],
          by simp, ?_⟩
        intro event hevent
        rcases List.mem_append.mp hevent with hearlier | hlast
        · exact hremovals event hearlier
        · exact ⟨path, removed, List.mem_singleton.mp hlast⟩

theorem removeFile_shown {path : Path}
    {k : Except FsError Unit -> FsProgram Unit}
    (h : After (spawnCleanupTask config rounds) l
      (perform (.removeFile path) k)) :
    exists settings now listing,
      cleanupSettings config = some settings ∧
      Typestate.run settings.retention .idle l = .sweeping now listing ∧
      settings.Shows now listing path := by
  rcases spawnCleanupTask_allowed h with ⟨settings, hsettings, hallowed⟩
  cases hstate : Typestate.run settings.retention .idle l with
  | idle =>
      rw [hstate] at hallowed
      exact hallowed.elim
  | reading now =>
      rw [hstate] at hallowed
      exact hallowed.elim
  | sweeping now listing =>
      rw [hstate] at hallowed
      exact ⟨settings, now, listing, hsettings, hstate, hallowed⟩

theorem readDir_logDir {dir : Path}
    {k : Except FsError (List (Except FsError DirEntry)) -> FsProgram Unit}
    (hsettings : cleanupSettings config = some settings)
    (h : After (spawnCleanupTask config rounds) l (perform (.readDir dir) k)) :
    dir = settings.logDir := by
  rcases spawnCleanupTask_allowed h with ⟨found, hfound, hallowed⟩
  rw [hsettings, Option.some.injEq] at hfound
  subst hfound
  cases hstate : Typestate.run settings.retention .idle l with
  | idle =>
      rw [hstate] at hallowed
      exact hallowed.elim
  | reading now =>
      rw [hstate] at hallowed
      exact hallowed
  | sweeping now listing =>
      rw [hstate] at hallowed
      exact hallowed.elim

end Deletions

/-- Stopped anywhere in any of its rounds, the task has changed nothing but
managed files that were listed after the last reading of the clock and were
older than the retention then. -/
theorem cleanup_deletes_only_expired (config : LoggingConfig) (rounds : Nat)
    (l : List (Event FsEffect.Reply)) (q : FsProgram Unit)
    (h : After (spawnCleanupTask config rounds) l q) (F : Type)
    (files : Path -> Option F) (path : Path)
    (hgone : filesAfter files l path ≠ files path) :
    exists settings before now listing removals rest entry modified,
      cleanupSettings config = some settings ∧
      l = before ++ ⟨.now, now⟩ :: ⟨.readDir settings.logDir, .ok listing⟩ ::
        (removals ++ ⟨.removeFile path, .ok ()⟩ :: rest) ∧
      (forall event, event ∈ removals ->
        exists other removed, event = ⟨.removeFile other, removed⟩) ∧
      entry ∈ entriesOf listing ∧ settings.entryPath entry = path ∧
      settings.Manages entry ∧ entry.fileModified = some modified ∧
      ((min (config.retainedDays * 86400) u64Max * nanosPerSecond : Nat) :
          Int) < now.sinceEpoch - modified.sinceEpoch := by
  have hremoved : ⟨.removeFile path, .ok ()⟩ ∈ l := by
    by_contra hnot
    exact hgone (filesAfter_of_not_mem hnot files)
  rcases List.append_of_mem hremoved with ⟨first, rest, rfl⟩
  rcases h.before with ⟨k, hbefore⟩
  rcases removeFile_shown hbefore with
    ⟨settings, now, listing, hsettings, hstate, entry, hentry, hpath, hmanaged,
      modified, hmodified, hexpired⟩
  rcases sweeping_shape hstate with ⟨before, dir, removals, rfl, hremovals⟩
  have hdir : dir = settings.logDir := by
    have hlisted : After (spawnCleanupTask config rounds)
        ((before ++ [⟨.now, now⟩]) ++ ⟨.readDir dir, .ok listing⟩ :: removals)
        (perform (.removeFile path) k) := by
      simpa using hbefore
    rcases hlisted.before with ⟨k', hreading⟩
    exact readDir_logDir hsettings hreading
  subst hdir
  rcases isExpired_iff_age.mp hexpired with ⟨_, age, hage, holder⟩
  rcases cleanupSettings_eq_some_iff.mp hsettings with ⟨_, rfl⟩
  have hmanages := (isManagedLogFile_iff _ entry).mp hmanaged
  have hsurvived := Int.ofNat_lt.mpr holder
  rw [<- hage] at hsurvived
  exact ⟨_, before, now, listing, removals, rest, entry, modified, hsettings,
    by simp, hremovals, hentry, hpath, hmanages, hmodified, hsurvived⟩

/-!
## What the task does in its rounds
-/

/-- The traces of whole rounds: each reads the clock, lists the directory,
removes what is expired and sleeps, whatever became of the rounds before. -/
inductive Sweeps (settings : LogRetentionSettings) :
    Nat -> List (Event FsEffect.Reply) -> Prop where
  | done : Sweeps settings 0 []
  | round {now : SystemTime}
      {directory : Except FsError (List (Except FsError DirEntry))}
      {removals rest : List (Event FsEffect.Reply)}
      {result : Except FsError Nat} {rounds : Nat} :
      Cleans settings now directory removals result ->
      Sweeps settings rounds rest ->
      Sweeps settings (rounds + 1)
        (⟨.now, now⟩ :: ⟨.readDir settings.logDir, directory⟩ ::
          (removals ++ ⟨.sleep settings.cleanupInterval, ()⟩ :: rest))

def ListedAgesBounded (l : List (Event FsEffect.Reply)) : Prop :=
  forall before now dir listing rest,
    l = before ++ ⟨.now, now⟩ :: ⟨.readDir dir, .ok listing⟩ :: rest ->
    AgesBounded now listing

section Sweeping

variable {settings : LogRetentionSettings} {rounds : Nat}
  {l : List (Event FsEffect.Reply)}

theorem cleanupOldLogFiles_returns_iff :
    Returns (cleanupOldLogFiles settings) l () <->
      exists now rest result, l = ⟨.now, now⟩ :: rest ∧
        Returns (deleteExpiredLogFiles settings now) rest result := by
  rw [cleanupOldLogFiles, lift_bind, returns_perform_iff]
  constructor
  · intro h
    rcases h with ⟨now, rest, rfl, hrest⟩
    rcases returns_bind_iff.mp hrest with
      ⟨first, result, last, rfl, hdelete, hlast⟩
    rcases returns_ret_iff.mp hlast with ⟨rfl, _⟩
    rw [List.append_nil]
    exact ⟨now, first, result, rfl, hdelete⟩
  · intro h
    rcases h with ⟨now, rest, result, rfl, hdelete⟩
    refine ⟨now, rest, rfl, ?_⟩
    exact returns_bind_iff.mpr
      ⟨rest, result, [], (List.append_nil rest).symm, hdelete, After.refl _⟩

theorem ListedAgesBounded.cons {event : Event FsEffect.Reply}
    (hhead : forall now dir listing rest,
      event :: l = ⟨.now, now⟩ :: ⟨.readDir dir, .ok listing⟩ :: rest ->
      AgesBounded now listing)
    (h : ListedAgesBounded l) : ListedAgesBounded (event :: l) := by
  intro before now dir listing rest hl
  cases before with
  | nil => exact hhead now dir listing rest hl
  | cons first before =>
      rw [List.cons_append, List.cons.injEq] at hl
      exact h before now dir listing rest hl.right

theorem ListedAgesBounded.suffix (before : List (Event FsEffect.Reply))
    {rest : List (Event FsEffect.Reply)}
    (h : ListedAgesBounded (before ++ rest)) : ListedAgesBounded rest := by
  intro first now dir listing more hrest
  apply h (before ++ first) now dir listing more
  rw [hrest, List.append_assoc]

theorem sweeps_of_returns (hages : ListedAgesBounded l)
    (h : Returns (cleanupRounds settings rounds) l ()) :
    Sweeps settings rounds l := by
  induction rounds generalizing l with
  | zero =>
      rcases returns_ret_iff.mp h with ⟨rfl, _⟩
      exact Sweeps.done
  | succ rounds ih =>
      rw [cleanupRounds, returns_bind_iff] at h
      rcases h with ⟨first, _, more, rfl, hfirst, hmore⟩
      rw [lift_bind, returns_perform_iff] at hmore
      rcases hmore with ⟨_, rest, rfl, hrest⟩
      rcases cleanupOldLogFiles_returns_iff.mp hfirst with
        ⟨now, swept, result, rfl, hdelete⟩
      rcases readDir_of_returns hdelete with ⟨directory, removals, rfl⟩
      have hcleans := cleans_of_returns (by
        rintro listing rfl
        exact hages [] now settings.logDir listing _ rfl) hdelete
      have hlater : ListedAgesBounded rest := by
        apply ListedAgesBounded.suffix (⟨.now, now⟩ ::
          ⟨.readDir settings.logDir, directory⟩ ::
          (removals ++ [⟨.sleep settings.cleanupInterval, ()⟩]))
        simpa using hages
      exact Sweeps.round hcleans (ih hlater hrest)

theorem returns_of_sweeps (hages : ListedAgesBounded l)
    (h : Sweeps settings rounds l) :
    Returns (cleanupRounds settings rounds) l () := by
  induction h with
  | done => exact After.refl _
  | round hcleans _ ih =>
      rename_i now directory removals rest result rounds hsweeps
      have hlater : ListedAgesBounded rest := by
        apply ListedAgesBounded.suffix (⟨.now, now⟩ ::
          ⟨.readDir settings.logDir, directory⟩ ::
          (removals ++ [⟨.sleep settings.cleanupInterval, ()⟩]))
        simpa using hages
      have hdelete := returns_of_cleans (by
        rintro listing rfl
        exact hages [] now settings.logDir listing _ rfl) hcleans
      rw [cleanupRounds, returns_bind_iff]
      refine ⟨⟨.now, now⟩ :: ⟨.readDir settings.logDir, directory⟩ :: removals,
        (), _, rfl, ?_, After.step (ih hlater)⟩
      exact cleanupOldLogFiles_returns_iff.mpr ⟨now, _, result, rfl, hdelete⟩

end Sweeping

theorem hour_le_cleanupInterval {config : LoggingConfig}
    {settings : LogRetentionSettings}
    (h : cleanupSettings config = some settings) :
    fromSecs (60 * 60) ≤ settings.cleanupInterval := by
  rcases cleanupSettings_eq_some_iff.mp h with ⟨_, rfl⟩
  apply Nat.mul_le_mul_right
  apply Nat.le_min.mpr
  constructor
  · exact Nat.le_mul_of_pos_left _
      (Nat.lt_of_lt_of_le Nat.one_pos (Nat.le_max_right _ _))
  · decide

/-- The complete traces of the task: none with a retention of zero days, and
otherwise one exact sweep of the log directory for each round, at least an hour
apart, also after rounds that failed. -/
theorem cleanup_task_exact (config : LoggingConfig) (rounds : Nat)
    (l : List (Event FsEffect.Reply)) (hages : ListedAgesBounded l) :
    Returns (spawnCleanupTask config rounds) l () <->
      (config.retainedDays = 0 ∧ l = []) ∨
        exists settings, cleanupSettings config = some settings ∧
          settings.retainedDays = config.retainedDays ∧
          fromSecs (60 * 60) ≤ settings.cleanupInterval ∧
          Sweeps settings rounds l := by
  unfold spawnCleanupTask
  cases hsettings : cleanupSettings config with
  | none =>
      have hdays : config.retainedDays = 0 := by
        by_contra hdays
        have hsome := cleanupSettings_eq_some_iff.mpr ⟨hdays, rfl⟩
        rw [hsettings] at hsome
        cases hsome
      constructor
      · intro h
        exact Or.inl ⟨hdays, (returns_ret_iff.mp h).left⟩
      · intro h
        rcases h with ⟨_, rfl⟩ | ⟨settings, hsome, _⟩
        · exact After.refl _
        · cases hsome
  | some settings =>
      rcases cleanupSettings_eq_some_iff.mp hsettings with ⟨hdays, hvalue⟩
      constructor
      · intro h
        refine Or.inr ⟨settings, rfl, ?_, hour_le_cleanupInterval hsettings,
          sweeps_of_returns hages h⟩
        rw [hvalue]
      · intro h
        rcases h with ⟨hzero, _⟩ | ⟨found, hfound, _, _, hsweeps⟩
        · exact absurd hzero hdays
        · cases hfound
          exact returns_of_sweeps hages hsweeps

/-!
## Two rounds

The directory cannot be read in the first round; in the second it lists one
file of forty days, which is deleted.
-/

def monthLogging : LoggingConfig where
  retainedDays := 30
  cleanupIntervalHours := 24

def monthSettings : LogRetentionSettings where
  logDir := Path.ofName logDir
  filePrefix := logFilePrefix
  retainedDays := 30
  cleanupInterval := fromSecs (24 * 60 * 60)

def oldLog : Path :=
  (Path.ofName logDir).join (OsString.ofStr "app.log.1")

def twoRounds : List (Event FsEffect.Reply) :=
  [⟨.now, ⟨0⟩⟩,
    ⟨.readDir (Path.ofName logDir), .error ⟨.other "denied", ""⟩⟩,
    ⟨.sleep (fromSecs (24 * 60 * 60)), ()⟩,
    ⟨.now, ⟨40 * 86400 * 1000000000⟩⟩,
    ⟨.readDir (Path.ofName logDir),
      .ok [.ok ⟨OsString.ofStr "app.log.1", .ok ⟨true, .ok ⟨0⟩⟩⟩]⟩,
    ⟨.removeFile oldLog, .ok ()⟩,
    ⟨.sleep (fromSecs (24 * 60 * 60)), ()⟩]

theorem monthSettings_eq :
    cleanupSettings monthLogging = some monthSettings := by
  rw [cleanupSettings_eq_some_iff]
  simp [monthSettings, monthLogging, saturatingMul, u64Max]

theorem twoRounds_ages : ListedAgesBounded twoRounds := by
  have hnone : ListedAgesBounded [] := by
    intro before now dir listing rest hl
    cases before <;> cases hl
  have hlisting : AgesBounded ⟨40 * 86400 * 1000000000⟩
      [.ok ⟨OsString.ofStr "app.log.1", .ok ⟨true, .ok ⟨0⟩⟩⟩] := by
    intro entry hentry modified hmodified
    cases List.mem_singleton.mp hentry
    cases hmodified
    decide
  unfold twoRounds
  iterate 7
    apply ListedAgesBounded.cons
    · intro now dir listing rest hl
      cases hl <;> exact hlisting
  exact hnone

theorem twoRounds_sweeps : Sweeps monthSettings 2 twoRounds := by
  have hfirst : Cleans monthSettings ⟨0⟩ (.error ⟨.other "denied", ""⟩) []
      (.error ⟨.other "denied", ""⟩) := Cleans.unreadable (by decide)
  have hsecond : Cleans monthSettings ⟨40 * 86400 * 1000000000⟩
      (.ok [.ok ⟨OsString.ofStr "app.log.1", .ok ⟨true, .ok ⟨0⟩⟩⟩])
      [⟨.removeFile oldLog, .ok ()⟩] (.ok 1) := by
    apply Cleans.swept
    unfold Removes
    decide
  have hrounds := Sweeps.round hfirst (Sweeps.round hsecond Sweeps.done)
  exact hrounds

theorem cleanup_task_exact_month :
    Returns (spawnCleanupTask monthLogging 2) twoRounds () := by
  apply (cleanup_task_exact monthLogging 2 twoRounds twoRounds_ages).mpr
  exact Or.inr ⟨monthSettings, monthSettings_eq, rfl,
    hour_le_cleanupInterval monthSettings_eq, twoRounds_sweeps⟩

theorem cleanup_deletes_only_expired_month :
    exists (settings : LogRetentionSettings) (now : SystemTime)
        (listing : List (Except FsError DirEntry)) (entry : DirEntry)
        (modified : SystemTime),
      cleanupSettings monthLogging = some settings ∧
      ⟨.readDir settings.logDir, .ok listing⟩ ∈ twoRounds ∧
      entry ∈ entriesOf listing ∧ settings.entryPath entry = oldLog ∧
      entry.fileModified = some modified ∧
      ((30 * 86400 * nanosPerSecond : Nat) : Int) <
        now.sinceEpoch - modified.sinceEpoch := by
  have hrun : After (spawnCleanupTask monthLogging 2) twoRounds (ret ()) := by
    unfold spawnCleanupTask
    rw [monthSettings_eq]
    exact returns_of_sweeps twoRounds_ages twoRounds_sweeps
  have hgone : filesAfter (fun _ => some ()) twoRounds oldLog ≠ some () := by
    have hmem : ⟨.removeFile oldLog, .ok ()⟩ ∈ twoRounds := by
      simp [twoRounds]
    rw [filesAfter_of_mem hmem]
    exact (Option.some_ne_none ()).symm
  rcases cleanup_deletes_only_expired monthLogging 2 twoRounds (ret ()) hrun Unit
    (fun _ => some ()) oldLog hgone with
    ⟨settings, before, now, listing, removals, rest, entry, modified,
      hsettings, hl, _, hentry, hpath, _, hmodified, hold⟩
  refine ⟨settings, now, listing, entry, modified, hsettings, ?_, hentry, hpath,
    hmodified, hold⟩
  rw [hl]
  simp

end ConveyorModbus
