import ConveyorModbus.Config
import ConveyorModbus.Library.Program

/-!
# Log retention

`observability/log_retention.rs`: the task that deletes old log files.  Its
functions are programs over four effects: reading the clock, listing a
directory, removing a file and sleeping.  What the system says about a listed
entry is part of the listing.  Log lines are left out.

File times and the durations of this module are in nanoseconds, the precision
of the system clock.
-/

namespace ConveyorModbus

open Effects Program

/-!
## The file system and the clock
-/

/-- The bytes of a file name, which need not be text. -/
abbrev OsString := List UInt8

namespace OsString

def ofStr (text : String) : OsString :=
  text.toUTF8.data.toList

/-- The name as text, where it is valid UTF-8. -/
def toStr (name : OsString) : Option String :=
  String.fromUTF8? ⟨name.toArray⟩

end OsString

inductive PathComponent where
  | rootDir
  | curDir
  | parentDir
  | normal (name : OsString)
  deriving DecidableEq

structure Path where
  components : List PathComponent
  deriving DecidableEq

namespace Path

def ofName (name : String) : Path where
  components := [.normal (OsString.ofStr name)]

def join (path : Path) (name : OsString) : Path where
  components := path.components ++ [.normal name]

def fileName (path : Path) : Option OsString :=
  match path.components.getLast? with
  | some (.normal name) => some name
  | _ => none

end Path

inductive ErrorKind where
  | notFound
  | other (name : String)
  deriving DecidableEq, Repr

structure FsError where
  kind : ErrorKind
  message : String
  deriving DecidableEq, Repr

/-- Nanoseconds since the epoch, negative before it. -/
structure SystemTime where
  sinceEpoch : Int
  deriving DecidableEq, Repr

structure Metadata where
  isFile : Bool
  modified : Except FsError SystemTime

/-- A listed entry, with the answer to `metadata`. -/
structure DirEntry where
  fileName : OsString
  metadata : Except FsError Metadata

inductive FsEffect where
  /-- `SystemTime::now()` -/
  | now
  /-- `fs::read_dir(dir)` with everything the iterator yields -/
  | readDir (dir : Path)
  /-- `fs::remove_file(path)` -/
  | removeFile (path : Path)
  /-- `sleep(delay).await` -/
  | sleep (delay : Nat)
  deriving DecidableEq

abbrev FsEffect.Reply : FsEffect -> Type
  | now => SystemTime
  | readDir _ => Except FsError (List (Except FsError DirEntry))
  | removeFile _ => Except FsError Unit
  | sleep _ => Unit

abbrev FsProgram (A : Type) : Type := Program FsEffect FsEffect.Reply A

namespace Fs

abbrev now : FsProgram SystemTime :=
  Program.lift FsEffect.now

abbrev readDir (dir : Path) :
    FsProgram (Except FsError (List (Except FsError DirEntry))) :=
  Program.lift (FsEffect.readDir dir)

abbrev removeFile (path : Path) : FsProgram (Except FsError Unit) :=
  Program.lift (FsEffect.removeFile path)

abbrev sleep (delay : Nat) : FsProgram Unit :=
  Program.lift (FsEffect.sleep delay)

end Fs

/-!
## Arithmetic of u64 and of times
-/

def u64Max : Nat := 18446744073709551615

def saturatingMul (a b : Nat) : Nat :=
  min (a * b) u64Max

def nanosPerSecond : Nat := 1000000000

/-- `Duration::from_secs` -/
def fromSecs (secs : Nat) : Nat :=
  secs * nanosPerSecond

/-- `now.duration_since(modified)`, an error where `modified` is later. -/
def durationSince (now modified : SystemTime) : Option Nat :=
  if modified.sinceEpoch ≤ now.sinceEpoch then
    some (now.sinceEpoch - modified.sinceEpoch).toNat
  else
    none

/-!
## Cleaning up
-/

def logDir : String := "logs"

def logFilePrefix : String := "app.log"

def secondsPerDay : Nat := 24 * 60 * 60

structure LogRetentionSettings where
  logDir : Path
  filePrefix : String
  retainedDays : Nat
  cleanupInterval : Nat
  deriving DecidableEq

def isManagedLogFile (path : Path) (filePrefix : String) : Bool :=
  ((path.fileName.bind OsString.toStr).map
    (fun fileName => fileName.startsWith filePrefix)).getD false

def isExpired (modified now : SystemTime) (retainedDays : Nat) : Bool :=
  if retainedDays = 0 then
    false
  else
    let retained := fromSecs (saturatingMul retainedDays secondsPerDay)
    ((durationSince now modified).map (fun age => decide (age > retained))).getD
      false

/-- The loop of `delete_expired_log_files` over the entries that are left. -/
def deleteLoop (settings : LogRetentionSettings) (now : SystemTime) :
    List (Except FsError DirEntry) -> Nat -> FsProgram Nat
  | [], deletedCount => pure deletedCount
  | .error _ :: entries, deletedCount =>
      deleteLoop settings now entries deletedCount
  | .ok entry :: entries, deletedCount =>
      let path := settings.logDir.join entry.fileName
      if !isManagedLogFile path settings.filePrefix then
        deleteLoop settings now entries deletedCount
      else
        match entry.metadata with
        | .error _ => deleteLoop settings now entries deletedCount
        | .ok metadata =>
            if !metadata.isFile then
              deleteLoop settings now entries deletedCount
            else
              match metadata.modified with
              | .error _ => deleteLoop settings now entries deletedCount
              | .ok modified =>
                  if !isExpired modified now settings.retainedDays then
                    deleteLoop settings now entries deletedCount
                  else do
                    let removed <- Fs.removeFile path
                    match removed with
                    | .ok () =>
                        deleteLoop settings now entries (deletedCount + 1)
                    | .error _ => deleteLoop settings now entries deletedCount

def deleteExpiredLogFiles (settings : LogRetentionSettings)
    (now : SystemTime) : FsProgram (Except FsError Nat) := do
  let listing <- Fs.readDir settings.logDir
  match listing with
  | .ok entries => do
      let deletedCount <- deleteLoop settings now entries 0
      pure (.ok deletedCount)
  | .error err =>
      if err.kind = .notFound then
        pure (.ok 0)
      else
        pure (.error err)

/-- The result is only logged. -/
def cleanupOldLogFiles (settings : LogRetentionSettings) : FsProgram Unit := do
  let now <- Fs.now
  let _ <- deleteExpiredLogFiles settings now
  pure ()

/-- The settings of the cleanup task, which is disabled at zero days. -/
def cleanupSettings (config : LoggingConfig) : Option LogRetentionSettings :=
  if config.retainedDays = 0 then
    none
  else
    let cleanupIntervalHours := max config.cleanupIntervalHours 1
    some
      { logDir := Path.ofName logDir
        filePrefix := logFilePrefix
        retainedDays := config.retainedDays
        cleanupInterval := fromSecs
          (saturatingMul cleanupIntervalHours (60 * 60)) }

def cleanupRounds (settings : LogRetentionSettings) : Nat -> FsProgram Unit
  | 0 => pure ()
  | rounds + 1 => do
      cleanupOldLogFiles settings
      Fs.sleep settings.cleanupInterval
      cleanupRounds settings rounds

/-- What `spawn_cleanup_task` runs, up to a number of rounds. -/
def spawnCleanupTask (config : LoggingConfig) (rounds : Nat) :
    FsProgram Unit :=
  match cleanupSettings config with
  | none => pure ()
  | some settings => cleanupRounds settings rounds

/-!
## What is meant to be deleted

The names and the ages in their own terms: a day is 86400 seconds and nothing
saturates.
-/

def DirEntry.fileModified (entry : DirEntry) : Option SystemTime :=
  match entry.metadata with
  | .ok { isFile := true, modified := .ok modified } => some modified
  | _ => none

namespace LogRetentionSettings

variable (settings : LogRetentionSettings) (now : SystemTime)

/-- The name is text that starts with the prefix. -/
def Manages (entry : DirEntry) : Prop :=
  exists text, entry.fileName = OsString.ofStr text ∧
    settings.filePrefix.toList <+: text.toList

def Expired (entry : DirEntry) : Prop :=
  settings.Manages entry ∧
    exists modified, modified ∈ entry.fileModified ∧
      0 < settings.retainedDays ∧
        ((settings.retainedDays * 86400 * nanosPerSecond : Nat) : Int) <
          now.sinceEpoch - modified.sinceEpoch

def entryPath (entry : DirEntry) : Path :=
  settings.logDir.join entry.fileName

end LogRetentionSettings

def entriesOf : List (Except FsError DirEntry) -> List DirEntry
  | [] => []
  | .error _ :: listing => entriesOf listing
  | .ok entry :: listing => entry :: entriesOf listing

theorem entriesOf_ok (entry : DirEntry)
    (listing : List (Except FsError DirEntry)) :
    entriesOf (.ok entry :: listing) = entry :: entriesOf listing := rfl

/-- The age lies below the greatest number of seconds of type u64. -/
def DirEntry.AgeBounded (now : SystemTime) (entry : DirEntry) : Prop :=
  forall modified, entry.fileModified = some modified ->
    now.sinceEpoch - modified.sinceEpoch <
      ((u64Max * nanosPerSecond : Nat) : Int)

def AgesBounded (now : SystemTime) (listing : List (Except FsError DirEntry)) :
    Prop :=
  forall entry, entry ∈ entriesOf listing -> entry.AgeBounded now

/-!
## The two predicates
-/

theorem OsString.toStr_eq_some_iff {name : OsString} {text : String} :
    OsString.toStr name = some text <-> name = OsString.ofStr text := by
  unfold toStr ofStr String.fromUTF8?
  constructor
  · intro h
    split at h
    · cases h
      rfl
    · cases h
  · intro h
    subst h
    have hvalid : text.toUTF8.IsValidUTF8 := text.isValidUTF8
    have hbytes : (⟨text.toUTF8.data.toList.toArray⟩ : ByteArray) =
        text.toUTF8 := rfl
    rw [hbytes, dif_pos hvalid]
    rfl

theorem Path.fileName_join (path : Path) (name : OsString) :
    (path.join name).fileName = some name := by
  simp [fileName, join]

theorem isManagedLogFile_iff (settings : LogRetentionSettings)
    (entry : DirEntry) :
    isManagedLogFile (settings.entryPath entry) settings.filePrefix = true <->
      settings.Manages entry := by
  unfold isManagedLogFile LogRetentionSettings.entryPath
    LogRetentionSettings.Manages
  simp only [<- OsString.toStr_eq_some_iff]
  rw [Path.fileName_join, Option.bind_some]
  cases OsString.toStr entry.fileName with
  | none => simp
  | some text => simp

instance (settings : LogRetentionSettings) (entry : DirEntry) :
    Decidable (settings.Manages entry) :=
  decidable_of_iff
    (exists text, text ∈ OsString.toStr entry.fileName ∧
      settings.filePrefix.toList <+: text.toList)
    (exists_congr (fun _ => and_congr_left' OsString.toStr_eq_some_iff))

instance (settings : LogRetentionSettings) (now : SystemTime)
    (entry : DirEntry) : Decidable (settings.Expired now entry) :=
  inferInstanceAs (Decidable (_ ∧ _))

theorem fromSecs_saturatingMul_lt_iff {a b age : Nat}
    (hage : age < u64Max * nanosPerSecond) :
    fromSecs (saturatingMul a b) < age <-> a * b * nanosPerSecond < age := by
  unfold fromSecs saturatingMul
  rcases Nat.le_total (a * b) u64Max with hle | hle
  · rw [Nat.min_eq_left hle]
  · rw [Nat.min_eq_right hle]
    have hexact : u64Max * nanosPerSecond ≤ a * b * nanosPerSecond :=
      Nat.mul_le_mul_right nanosPerSecond hle
    omega

theorem durationSince_eq_some_iff {now modified : SystemTime} {age : Nat} :
    durationSince now modified = some age <->
      now.sinceEpoch - modified.sinceEpoch = age := by
  unfold durationSince
  by_cases hpast : modified.sinceEpoch ≤ now.sinceEpoch
  · rw [if_pos hpast, Option.some.injEq]
    omega
  · rw [if_neg hpast]
    constructor
    · intro h
      cases h
    · intro h
      omega

theorem getD_map_gt_iff {age : Option Nat} {retained : Nat} :
    (age.map (fun age => decide (age > retained))).getD false = true <->
      exists value, age = some value ∧ retained < value := by
  cases age with
  | none => simp
  | some value => simp

theorem isExpired_iff_age {modified now : SystemTime} {retainedDays : Nat} :
    isExpired modified now retainedDays = true <->
      retainedDays ≠ 0 ∧
        exists age : Nat, now.sinceEpoch - modified.sinceEpoch = age ∧
          fromSecs (saturatingMul retainedDays secondsPerDay) < age := by
  unfold isExpired
  by_cases hdays : retainedDays = 0
  · simp [hdays]
  · rw [if_neg hdays, getD_map_gt_iff]
    simp only [durationSince_eq_some_iff, ne_eq, hdays, not_false_eq_true,
      true_and]

theorem isExpired_iff {modified now : SystemTime} {retainedDays : Nat}
    (hage : now.sinceEpoch - modified.sinceEpoch <
      ((u64Max * nanosPerSecond : Nat) : Int)) :
    isExpired modified now retainedDays = true <->
      0 < retainedDays ∧
        ((retainedDays * 86400 * nanosPerSecond : Nat) : Int) <
          now.sinceEpoch - modified.sinceEpoch := by
  have hday : secondsPerDay = 86400 := rfl
  rw [isExpired_iff_age, hday]
  constructor
  · intro h
    rcases h with ⟨hdays, age, hsince, holder⟩
    have hexact : retainedDays * 86400 * nanosPerSecond < age := by
      apply (fromSecs_saturatingMul_lt_iff _).mp holder
      omega
    omega
  · intro h
    rcases h with ⟨hdays, holder⟩
    constructor
    · omega
    exists (now.sinceEpoch - modified.sinceEpoch).toNat
    constructor
    · omega
    apply (fromSecs_saturatingMul_lt_iff _).mpr
    · omega
    · omega

/-!
## One entry
-/

theorem DirEntry.fileModified_eq_some_iff {entry : DirEntry}
    {modified : SystemTime} :
    entry.fileModified = some modified <->
      exists metadata, entry.metadata = .ok metadata ∧
        metadata.isFile = true ∧ metadata.modified = .ok modified := by
  unfold fileModified
  rcases entry with ⟨fileName, err | ⟨isFile, err | time⟩⟩
  · simp
  · cases isFile with
    | false => simp
    | true => simp
  · cases isFile with
    | false => simp
    | true => simp

def countRemoved : Except FsError Unit -> Nat
  | .ok () => 1
  | .error _ => 0

def LogRetentionSettings.Deletes (settings : LogRetentionSettings)
    (now : SystemTime) (entry : DirEntry) : Prop :=
  isManagedLogFile (settings.entryPath entry) settings.filePrefix = true ∧
    exists modified, modified ∈ entry.fileModified ∧
      isExpired modified now settings.retainedDays = true

section Entries

variable {settings : LogRetentionSettings} {now : SystemTime}
  {entry : DirEntry} {entries : List (Except FsError DirEntry)}
  {deletedCount : Nat}

theorem deletes_iff_expired (hage : entry.AgeBounded now) :
    settings.Deletes now entry <-> settings.Expired now entry := by
  unfold LogRetentionSettings.Deletes LogRetentionSettings.Expired
  rw [isManagedLogFile_iff]
  constructor
  · intro h
    rcases h with ⟨hmanages, modified, hmodified, hexpired⟩
    exact ⟨hmanages, modified, hmodified,
      (isExpired_iff (hage modified hmodified)).mp hexpired⟩
  · intro h
    rcases h with ⟨hmanages, modified, hmodified, hold⟩
    exact ⟨hmanages, modified, hmodified,
      (isExpired_iff (hage modified hmodified)).mpr hold⟩

theorem deleteLoop_of_deletes (h : settings.Deletes now entry) :
    deleteLoop settings now (.ok entry :: entries) deletedCount =
      perform (.removeFile (settings.entryPath entry)) (fun removed =>
        deleteLoop settings now entries
          (deletedCount + countRemoved removed)) := by
  rcases h with ⟨hmanaged, modified, hmodified, hexpired⟩
  rcases DirEntry.fileModified_eq_some_iff.mp hmodified with
    ⟨metadata, hmetadata, hfile, htime⟩
  unfold LogRetentionSettings.entryPath at hmanaged
  simp only [deleteLoop, hmanaged, hmetadata, hfile, htime, hexpired,
    Bool.not_true, Bool.false_eq_true, if_false, lift_bind]
  apply congrArg
  funext removed
  cases removed with
  | ok done => rfl
  | error err => rfl

theorem deleteLoop_of_not_deletes (h : ¬ settings.Deletes now entry) :
    deleteLoop settings now (.ok entry :: entries) deletedCount =
      deleteLoop settings now entries deletedCount := by
  cases hmanaged : isManagedLogFile (settings.logDir.join entry.fileName)
      settings.filePrefix with
  | false => simp [deleteLoop, hmanaged]
  | true =>
      cases hmetadata : entry.metadata with
      | error err => simp [deleteLoop, hmetadata]
      | ok metadata =>
          cases hfile : metadata.isFile with
          | false => simp [deleteLoop, hmetadata, hfile]
          | true =>
              cases htime : metadata.modified with
              | error err => simp [deleteLoop, hmetadata, hfile, htime]
              | ok modified =>
                  have hmodified := DirEntry.fileModified_eq_some_iff.mpr
                    ⟨metadata, hmetadata, hfile, htime⟩
                  have hfresh : isExpired modified now settings.retainedDays =
                      false := by
                    rw [Bool.eq_false_iff]
                    intro hexpired
                    exact h ⟨hmanaged, modified, hmodified, hexpired⟩
                  simp [deleteLoop, hmetadata, hfile, htime, hfresh]

end Entries

/-!
## One directory

The removals are those of the expired entries, in the order of the listing and
whatever each of them is answered.
-/

def LogRetentionSettings.expiredPaths (settings : LogRetentionSettings)
    (now : SystemTime) (listing : List (Except FsError DirEntry)) : List Path :=
  ((entriesOf listing).filter (fun entry => settings.Expired now entry)).map
    settings.entryPath

def deletedIn : List (Event FsEffect.Reply) -> Nat
  | [] => 0
  | ⟨.removeFile _, removed⟩ :: l => countRemoved removed + deletedIn l
  | _ :: l => deletedIn l

def Removes (settings : LogRetentionSettings) (now : SystemTime)
    (listing : List (Except FsError DirEntry))
    (l : List (Event FsEffect.Reply)) : Prop :=
  l.map Sigma.fst =
    (settings.expiredPaths now listing).map FsEffect.removeFile

section Listing

variable {settings : LogRetentionSettings} {now : SystemTime}
  {entry : DirEntry} {listing : List (Except FsError DirEntry)}
  {l : List (Event FsEffect.Reply)}

theorem removes_nil_iff : Removes settings now [] l <-> l = [] :=
  List.map_eq_nil_iff

theorem removes_cons_of_not_expired (h : ¬ settings.Expired now entry) :
    Removes settings now (.ok entry :: listing) l <->
      Removes settings now listing l := by
  unfold Removes LogRetentionSettings.expiredPaths
  rw [entriesOf_ok, List.filter_cons_of_neg (by simpa using h)]

theorem removes_cons_of_expired (h : settings.Expired now entry) :
    Removes settings now (.ok entry :: listing) l <->
      exists removed rest,
        l = ⟨.removeFile (settings.entryPath entry), removed⟩ :: rest ∧
          Removes settings now listing rest := by
  unfold Removes LogRetentionSettings.expiredPaths
  rw [entriesOf_ok, List.filter_cons_of_pos (by simpa using h), List.map_cons,
    List.map_cons, List.map_eq_cons_iff]
  constructor
  · intro hl
    rcases hl with ⟨⟨effect, removed⟩, rest, rfl, heffect, hrest⟩
    subst heffect
    exact ⟨removed, rest, rfl, hrest⟩
  · intro hl
    rcases hl with ⟨removed, rest, rfl, hrest⟩
    exact ⟨_, rest, rfl, rfl, hrest⟩

theorem deleteLoop_returns_iff (hages : AgesBounded now listing)
    {deletedCount n : Nat} :
    Returns (deleteLoop settings now listing deletedCount) l n <->
      Removes settings now listing l ∧ n = deletedCount + deletedIn l := by
  induction listing generalizing deletedCount l with
  | nil =>
      rw [deleteLoop, pure_eq, returns_ret_iff, removes_nil_iff]
      constructor
      · intro h
        rcases h with ⟨rfl, rfl⟩
        exact ⟨rfl, rfl⟩
      · intro h
        rcases h with ⟨rfl, rfl⟩
        exact ⟨rfl, rfl⟩
  | cons item listing ih =>
      cases item with
      | error err => exact ih hages
      | ok entry =>
          have hentry : entry.AgeBounded now :=
            hages entry (List.mem_cons_self ..)
          have hrest : AgesBounded now listing := by
            intro other hother
            exact hages other (List.mem_cons_of_mem entry hother)
          have hdeletes : settings.Deletes now entry <->
              settings.Expired now entry := deletes_iff_expired hentry
          by_cases hexpired : settings.Expired now entry
          · rw [deleteLoop_of_deletes (hdeletes.mpr hexpired),
              returns_perform_iff, removes_cons_of_expired hexpired]
            constructor
            · intro h
              rcases h with ⟨removed, rest, rfl, hreturns⟩
              rcases (ih hrest).mp hreturns with ⟨hremoves, hn⟩
              rw [Nat.add_assoc] at hn
              exact ⟨⟨removed, rest, rfl, hremoves⟩, hn⟩
            · intro h
              rcases h with ⟨⟨removed, rest, rfl, hremoves⟩, hn⟩
              rw [deletedIn, <- Nat.add_assoc] at hn
              exact ⟨removed, rest, rfl, (ih hrest).mpr ⟨hremoves, hn⟩⟩
          · rw [deleteLoop_of_not_deletes (mt hdeletes.mp hexpired),
              removes_cons_of_not_expired hexpired]
            exact ih hrest

end Listing

/-- What `delete_expired_log_files` does after `read_dir` has answered. -/
inductive Cleans (settings : LogRetentionSettings) (now : SystemTime) :
    Except FsError (List (Except FsError DirEntry)) ->
    List (Event FsEffect.Reply) -> Except FsError Nat -> Prop where
  | missing {err : FsError} :
      err.kind = .notFound -> Cleans settings now (.error err) [] (.ok 0)
  | unreadable {err : FsError} :
      err.kind ≠ .notFound -> Cleans settings now (.error err) [] (.error err)
  | swept {listing : List (Except FsError DirEntry)}
      {l : List (Event FsEffect.Reply)} :
      Removes settings now listing l ->
      Cleans settings now (.ok listing) l (.ok (deletedIn l))

section Directory

variable {settings : LogRetentionSettings} {now : SystemTime}
  {directory : Except FsError (List (Except FsError DirEntry))}
  {l rest : List (Event FsEffect.Reply)} {result : Except FsError Nat}

theorem readDir_of_returns
    (h : Returns (deleteExpiredLogFiles settings now) l result) :
    exists directory rest,
      l = ⟨.readDir settings.logDir, directory⟩ :: rest := by
  rw [deleteExpiredLogFiles, lift_bind, returns_perform_iff] at h
  rcases h with ⟨directory, rest, hl, _⟩
  exact ⟨directory, rest, hl⟩

theorem cleans_of_returns
    (hages : forall listing, directory = .ok listing -> AgesBounded now listing)
    (h : Returns (deleteExpiredLogFiles settings now)
      (⟨.readDir settings.logDir, directory⟩ :: rest) result) :
    Cleans settings now directory rest result := by
  rw [deleteExpiredLogFiles, lift_bind] at h
  cases h with
  | step hrest =>
      cases directory with
      | error err =>
          by_cases hmissing : err.kind = .notFound
          · simp only [hmissing, if_true, pure_eq] at hrest
            rcases returns_ret_iff.mp hrest with ⟨rfl, rfl⟩
            exact Cleans.missing hmissing
          · simp only [hmissing, if_false, pure_eq] at hrest
            rcases returns_ret_iff.mp hrest with ⟨rfl, rfl⟩
            exact Cleans.unreadable hmissing
      | ok listing =>
          rcases returns_bind_iff.mp hrest with
            ⟨first, deletedCount, last, rfl, hloop, hlast⟩
          rcases returns_ret_iff.mp hlast with ⟨rfl, rfl⟩
          rcases (deleteLoop_returns_iff (hages listing rfl)).mp hloop with
            ⟨hremoves, rfl⟩
          rw [List.append_nil, Nat.zero_add]
          exact Cleans.swept hremoves

theorem returns_of_cleans
    (hages : forall listing, directory = .ok listing -> AgesBounded now listing)
    (h : Cleans settings now directory rest result) :
    Returns (deleteExpiredLogFiles settings now)
      (⟨.readDir settings.logDir, directory⟩ :: rest) result := by
  rw [deleteExpiredLogFiles, lift_bind]
  apply After.step
  cases h with
  | missing hmissing =>
      simp only [hmissing, if_true]
      exact After.refl _
  | unreadable hunreadable =>
      simp only [hunreadable, if_false]
      exact After.refl _
  | swept hremoves =>
      apply returns_bind_iff.mpr
      exists rest, deletedIn rest, []
      constructor
      · exact (List.append_nil rest).symm
      constructor
      · apply (deleteLoop_returns_iff (hages _ rfl)).mpr
        exact ⟨hremoves, (Nat.zero_add _).symm⟩
      · exact After.refl _

end Directory

/-!
## What is left in the directory
-/

def afterEvent {F : Type} (files : Path -> Option F) :
    Event FsEffect.Reply -> Path -> Option F
  | ⟨.removeFile removed, .ok ()⟩, path =>
      if path = removed then none else files path
  | _, path => files path

def filesAfter {F : Type} (files : Path -> Option F)
    (l : List (Event FsEffect.Reply)) : Path -> Option F :=
  l.foldl afterEvent files

theorem afterEvent_of_ne {F : Type} {event : Event FsEffect.Reply}
    {path : Path} (h : event ≠ ⟨.removeFile path, .ok ()⟩)
    (files : Path -> Option F) : afterEvent files event path = files path := by
  unfold afterEvent
  split
  · rename_i removed
    rw [if_neg]
    intro hpath
    subst hpath
    exact h rfl
  · rfl

theorem filesAfter_of_not_mem {F : Type} {l : List (Event FsEffect.Reply)}
    {path : Path} (h : ⟨.removeFile path, .ok ()⟩ ∉ l)
    (files : Path -> Option F) : filesAfter files l path = files path := by
  induction l generalizing files with
  | nil => rfl
  | cons event l ih =>
      rw [List.mem_cons, not_or] at h
      rcases h with ⟨hevent, hrest⟩
      have hkept := ih hrest (afterEvent files event)
      exact hkept.trans (afterEvent_of_ne (Ne.symm hevent) files)

theorem afterEvent_of_none {F : Type} (event : Event FsEffect.Reply)
    {files : Path -> Option F} {path : Path} (h : files path = none) :
    afterEvent files event path = none := by
  unfold afterEvent
  split
  · rw [h]
    exact ite_self none
  · exact h

theorem filesAfter_of_none {F : Type} (l : List (Event FsEffect.Reply))
    {files : Path -> Option F} {path : Path} (h : files path = none) :
    filesAfter files l path = none := by
  induction l generalizing files with
  | nil => exact h
  | cons event l ih => exact ih (afterEvent_of_none event h)

theorem filesAfter_of_mem {F : Type} {l : List (Event FsEffect.Reply)}
    {path : Path} (h : ⟨.removeFile path, .ok ()⟩ ∈ l)
    (files : Path -> Option F) : filesAfter files l path = none := by
  induction l generalizing files with
  | nil => cases h
  | cons event l ih =>
      rcases List.mem_cons.mp h with rfl | hrest
      · exact filesAfter_of_none l (if_pos rfl)
      · exact ih hrest (afterEvent files event)

/-- The complete traces of `delete_expired_log_files`: after the listing exactly
the expired entries are removed, each whatever becomes of the others, and every
other file stays. -/
theorem deleteExpiredLogFiles_exact (settings : LogRetentionSettings)
    (now : SystemTime) (l : List (Event FsEffect.Reply))
    (result : Except FsError Nat)
    (hages : forall listing, ⟨.readDir settings.logDir, .ok listing⟩ ∈ l ->
      AgesBounded now listing) :
    (Returns (deleteExpiredLogFiles settings now) l result <->
      exists directory rest,
        l = ⟨.readDir settings.logDir, directory⟩ :: rest ∧
          Cleans settings now directory rest result) ∧
    (Returns (deleteExpiredLogFiles settings now) l result ->
      forall (F : Type) (files : Path -> Option F) path,
        (⟨.removeFile path, .ok ()⟩ ∈ l -> filesAfter files l path = none) ∧
        ((forall listing, ⟨.readDir settings.logDir, .ok listing⟩ ∈ l ->
            path ∉ settings.expiredPaths now listing) ->
          filesAfter files l path = files path)) := by
  have hdirectory : forall directory rest,
      l = ⟨.readDir settings.logDir, directory⟩ :: rest ->
      forall listing, directory = .ok listing -> AgesBounded now listing := by
    intro directory rest hl listing hlisting
    apply hages listing
    rw [hl, hlisting]
    exact List.mem_cons_self ..
  constructor
  · constructor
    · intro h
      rcases readDir_of_returns h with ⟨directory, rest, hl⟩
      rw [hl] at h
      exact ⟨directory, rest, hl, cleans_of_returns (hdirectory _ _ hl) h⟩
    · intro h
      rcases h with ⟨directory, rest, hl, hcleans⟩
      rw [hl]
      exact returns_of_cleans (hdirectory _ _ hl) hcleans
  · intro h F files path
    constructor
    · intro hremoved
      exact filesAfter_of_mem hremoved files
    intro hpath
    apply filesAfter_of_not_mem
    intro hremoved
    rcases readDir_of_returns h with ⟨directory, rest, rfl⟩
    have hcleans := cleans_of_returns (hdirectory _ _ rfl) h
    rcases List.mem_cons.mp hremoved with hfirst | hrest
    · cases hfirst
    · cases hcleans with
      | missing => cases hrest
      | unreadable => cases hrest
      | swept hremoves =>
          have hevent := List.mem_map_of_mem (f := Sigma.fst) hrest
          rw [hremoves, List.mem_map] at hevent
          rcases hevent with ⟨other, hother, heq⟩
          cases heq
          exact hpath _ (List.mem_cons_self ..) hother

/-- Of one listed file of forty days and one of no log name the first is
deleted, and the entry that could not be listed is passed over. -/
theorem deleteExpiredLogFiles_exact_sweep :
    Returns
      (deleteExpiredLogFiles ⟨Path.ofName logDir, logFilePrefix, 30, 0⟩
        ⟨40 * 86400 * 1000000000⟩)
      [⟨.readDir (Path.ofName logDir), .ok
          [.error ⟨.other "interrupted", ""⟩,
            .ok ⟨OsString.ofStr "app.log.1", .ok ⟨true, .ok ⟨0⟩⟩⟩,
            .ok ⟨OsString.ofStr "web.log", .ok ⟨true, .ok ⟨0⟩⟩⟩]⟩,
        ⟨.removeFile ((Path.ofName logDir).join (OsString.ofStr "app.log.1")),
          .ok ()⟩]
      (.ok 1) := by
  apply (deleteExpiredLogFiles_exact _ _ _ _ _).left.mpr
  · refine ⟨_, _, rfl, Cleans.swept ?_⟩
    unfold Removes
    decide
  · intro listing hlisting
    rcases List.mem_cons.mp hlisting with hfirst | hrest
    · cases hfirst
      intro entry hentry modified hmodified
      simp only [entriesOf, List.mem_cons, List.not_mem_nil, or_false] at hentry
      rcases hentry with rfl | rfl
      · cases hmodified
        decide
      · cases hmodified
        decide
    · cases List.mem_singleton.mp hrest

end ConveyorModbus
