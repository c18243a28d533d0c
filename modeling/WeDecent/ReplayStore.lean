import WeDecent.Library.GoJson
import WeDecent.Library.ReplayWindow
import WeDecent.Library.Runs
import WeDecent.RouteAuthorization

/-!
# Replay stores for route authorizations

`MemoryRouteAuthorizationReplay` (`mesh/routeauth.go`) and
`FileRouteAuthorizationReplay` (`meshstate/replay.go`). What a call does under
`r.mu` is one function here. The file operations of `saveLocked` each end well,
fail, or take the process down with them, as an argument of the call says.
-/

namespace ReplayStore

open Bool List GoJson GoText GoTime ReplayWindow RouteAuthorization

abbrev Jti := List UInt8

/-- `MemoryRouteAuthorizationReplay.ConsumeRouteAuthorization` under `r.mu`, with the
`now` it has read before; it prunes in place, also when it refuses. -/
def consumeMemory (used : List (Jti × Time)) (now : Time) (jti : Jti) (expiresAt : Time) :
    List (Jti × Time) × Option AuthError :=
  match accept Time.nanos now.nanos jti expiresAt.utc used with
  | none => (prune Time.nanos now.nanos used, some .replay)
  | some used' => (used', none)

def routeReplayStoreVersion : Int := 1
def maxRouteReplayStoreSize : Nat := 1048576
def maxRouteReplayJTIBytes : Nat := 256

/-- The JTIs with their expiry in milliseconds. -/
abbrev Used := List (Jti × Int)

/-- `time.UnixMilli(expiryMS)` -/
def moment (expiryMS : Int) : Int := (Time.ofUnixMilli expiryMS).nanos

/-- `replayDiskState` as it is read back from the file, and the size of its text. -/
structure DiskState where
  version : Int
  used : Used
  size : Nat

def decimalLength (n : Nat) : Nat := (Nat.toDigits 10 n).length

/-- The length of the indented text; expiries are positive. -/
def encodedSize (used : Used) : Nat :=
  let entries := used.map fun r => (encodeString r.1).length + decimalLength r.2.toNat + 8
  if used.isEmpty then 32 else entries.sum + 34

/-- What `json.MarshalIndent` makes of the state; keys that differ only in bytes that
are not UTF-8 are kept side by side. -/
def written (used : Used) : DiskState :=
  ⟨routeReplayStoreVersion, used.map fun r => (readBack r.1, r.2), encodedSize used⟩

inductive FileOp where
  | mkdirAll
  | createTemp
  | chmodTemp
  | write
  | sync
  | closeTemp
  | replace
  | chmod
  deriving DecidableEq

/-- How a file operation ends. The process may die in it, before or after it has its
effect. -/
inductive Outcome where
  | succeeds
  | fails
  | crashes (effective : Bool)
  deriving DecidableEq

structure File where
  content : Option DiskState
  synced : Bool

structure FileSystem where
  path : Option File
  temp : Option File

def effect (state : DiskState) : FileOp → FileSystem → FileSystem
  | .createTemp, fs => { fs with temp := some ⟨none, false⟩ }
  | .write, fs => { fs with temp := some ⟨some state, false⟩ }
  | .sync, fs => { fs with temp := fs.temp.map fun f => { f with synced := true } }
  | .replace, fs => ⟨fs.temp, none⟩
  | _, fs => fs

inductive Ending where
  | done
  | failed (op : FileOp)
  | tooLarge
  | crashed

/-- Operations one after the other; a failure removes the temporary file. -/
def perform (faults : FileOp → Outcome) (state : DiskState) :
    List FileOp → FileSystem → FileSystem × Ending
  | [], fs => (fs, .done)
  | op :: rest, fs =>
    match faults op with
    | .succeeds => perform faults state rest (effect state op fs)
    | .fails => ({ fs with temp := none }, .failed op)
    | .crashes true => (effect state op fs, .crashed)
    | .crashes false => (fs, .crashed)

/-- `saveLocked` up to the replacement of the file -/
def prepareOps : List FileOp := [.createTemp, .chmodTemp, .write, .sync, .closeTemp]

def saveLocked (faults : FileOp → Outcome) (used : Used) (fs : FileSystem) :
    FileSystem × Ending :=
  match perform faults (written used) [.mkdirAll] fs with
  | (fs, .done) =>
    if encodedSize used > maxRouteReplayStoreSize then (fs, .tooLarge)
    else perform faults (written used) (prepareOps ++ [.replace, .chmod]) fs
  | ended => ended

/-- What a crash leaves: data that was not synced is gone. -/
def FileSystem.crash (fs : FileSystem) : FileSystem := ⟨fs.path.filter File.synced, none⟩

inductive StoreError where
  | context
  | invalid
  | replay
  | tooLarge
  | operation (op : FileOp)
  deriving DecidableEq

def validateJTI (jti : Jti) : Bool :=
  !jti.isEmpty && trimSpace jti == jti && jti.length ≤ maxRouteReplayJTIBytes

/-- One call of `ConsumeRouteAuthorization` on the file store: its arguments, what
`ctx.Err` says before and after it has the lock, the clock it reads under the lock, and
how its file operations end. -/
structure Call where
  jti : Jti
  expiresAt : Time
  endedBefore : Bool
  endedLocked : Bool
  now : Time
  faults : FileOp → Outcome

structure Reply where
  used : Used
  err : Option StoreError
  deriving DecidableEq

/-- `FileRouteAuthorizationReplay.ConsumeRouteAuthorization`; no reply when the process
dies in it. -/
def consume (c : Call) (used : Used) (fs : FileSystem) : Option Reply × FileSystem :=
  if c.endedBefore then (some ⟨used, some .context⟩, fs)
  else if !validateJTI c.jti then (some ⟨used, some .invalid⟩, fs)
  else if c.expiresAt.utc.unixMilli ≤ 0 then (some ⟨used, some .invalid⟩, fs)
  else if c.endedLocked then (some ⟨used, some .context⟩, fs)
  else
    match accept moment c.now.nanos c.jti c.expiresAt.utc.unixMilli used with
    | none => (some ⟨used, some .replay⟩, fs)
    | some next =>
      -- persistence precedes the commit in memory
      match saveLocked c.faults next fs with
      | (fs', .done) => (some ⟨next, none⟩, fs')
      | (fs', .failed op) => (some ⟨used, some (.operation op)⟩, fs')
      | (fs', .tooLarge) => (some ⟨used, some .tooLarge⟩, fs')
      | (fs', .crashed) => (none, fs'.crash)

inductive OpenError where
  | operation
  | size
  | version
  | jti
  | expiry

/-- `OpenFileRouteAuthorizationReplay`; `fails` stands for the file operations that read
the state. -/
def openStore (fails : Bool) (now : Time) (fs : FileSystem) : Except OpenError Used :=
  if fails then .error .operation
  else
    match fs.path with
    | none => .ok []
    | some ⟨none, _⟩ => .error .size
    | some ⟨some state, _⟩ =>
      if state.size = 0 ∨ state.size > maxRouteReplayStoreSize then .error .size
      else if state.version ≠ routeReplayStoreVersion then .error .version
      else if state.used.any fun r => !validateJTI r.1 then .error .jti
      else if state.used.any fun r => decide (r.2 ≤ 0) then .error .expiry
      else .ok (prune moment now.nanos state.used)

section Save

variable {faults : FileOp → Outcome} {state : DiskState} {used : Used} {fs fs' : FileSystem}
variable {ending : Ending}

theorem perform_append (ops more : List FileOp) :
    perform faults state (ops ++ more) fs =
      match perform faults state ops fs with
      | (fs', .done) => perform faults state more fs'
      | ended => ended := by
  induction ops generalizing fs with
  | nil => rfl
  | cons op ops ih =>
    simp only [cons_append, perform]
    cases faults op with
    | succeeds => exact ih
    | fails => rfl
    | crashes effective => cases effective <;> rfl

/-- Only the replacement touches the file itself. -/
theorem perform_path {ops : List FileOp} (before : .replace ∉ ops)
    (h : perform faults state ops fs = (fs', ending)) : fs'.path = fs.path := by
  induction ops generalizing fs with
  | nil =>
    cases h
    rfl
  | cons op ops ih =>
    have other : op ≠ .replace := fun same => before (same ▸ mem_cons_self)
    have untouched : (effect state op fs).path = fs.path := by
      cases op with
      | replace => exact absurd rfl other
      | _ => rfl
    have later : .replace ∉ ops := fun member => before (mem_cons_of_mem op member)
    unfold perform at h
    split at h
    · rw [ih later h, untouched]
    · cases h
      rfl
    · cases h
      exact untouched
    · cases h
      rfl

/-- The temporary file that is about to replace the state is complete and synced. -/
theorem prepare_done (h : perform faults state prepareOps fs = (fs', .done)) :
    fs'.temp = some ⟨some state, true⟩ := by
  unfold prepareOps at h
  simp only [perform] at h
  split at h <;> try cases h
  split at h <;> try cases h
  split at h <;> try cases h
  split at h <;> try cases h
  split at h <;> try cases h
  rfl

/-- What `saveLocked` can do to the file. -/
inductive Saves (faults : FileOp → Outcome) (used : Used) (fs fs' : FileSystem) : Ending → Prop
  | done (new : fs'.path = some ⟨some (written used), true⟩)
      (small : encodedSize used ≤ maxRouteReplayStoreSize) : Saves faults used fs fs' .done
  | failed (op : FileOp) (old : fs'.path = fs.path) : Saves faults used fs fs' (.failed op)
  | unsecured (fault : faults .chmod = .fails)
      (new : fs'.path = some ⟨some (written used), true⟩) :
      Saves faults used fs fs' (.failed .chmod)
  | tooLarge (old : fs'.path = fs.path) : Saves faults used fs fs' .tooLarge
  | crashed (old : fs'.path = fs.path) : Saves faults used fs fs' .crashed
  | crashedAfter (new : fs'.path = some ⟨some (written used), true⟩) :
      Saves faults used fs fs' .crashed

/-- The last two operations, once the temporary file is ready. -/
theorem replace_saves (ready : fs.temp = some ⟨some (written used), true⟩)
    (small : encodedSize used ≤ maxRouteReplayStoreSize)
    (h : perform faults (written used) [.replace, .chmod] fs = (fs', ending)) :
    Saves faults used fs fs' ending := by
  simp only [perform, effect] at h
  split at h
  · split at h <;> rename_i fault <;> cases h
    · exact .done ready small
    · exact .unsecured fault ready
    · exact .crashedAfter ready
    · exact .crashedAfter ready
  · cases h
    exact .failed .replace rfl
  · cases h
    exact .crashedAfter ready
  · cases h
    exact .crashed rfl

/-- The save has not come to the replacement. -/
theorem perform_saves {ops : List FileOp} (before : .replace ∉ ops)
    (unfinished : ending ≠ .done)
    (h : perform faults state ops fs = (fs', ending)) : Saves faults used fs fs' ending := by
  have old := perform_path before h
  cases ending with
  | done => exact absurd rfl unfinished
  | failed op => exact .failed op old
  | tooLarge => exact .tooLarge old
  | crashed => exact .crashed old

theorem Saves.of_path {mid : FileSystem} (same : mid.path = fs.path)
    (h : Saves faults used mid fs' ending) : Saves faults used fs fs' ending := by
  cases h with
  | done new small => exact .done new small
  | failed op old => exact .failed op (old.trans same)
  | unsecured fault new => exact .unsecured fault new
  | tooLarge old => exact .tooLarge (old.trans same)
  | crashed old => exact .crashed (old.trans same)
  | crashedAfter new => exact .crashedAfter new

theorem saveLocked_saves (h : saveLocked faults used fs = (fs', ending)) :
    Saves faults used fs fs' ending := by
  unfold saveLocked at h
  split at h
  · rename_i mid made
    have same : mid.path = fs.path := perform_path (by decide) made
    split at h
    · cases h
      exact .tooLarge same
    rename_i small
    rw [perform_append] at h
    split at h
    · rename_i ready prepared
      have path : ready.path = fs.path := (perform_path (by decide) prepared).trans same
      exact (replace_saves (prepare_done prepared) (Nat.not_lt.mp small) h).of_path path
    · rename_i unfinished
      refine (perform_saves (by decide) (fun finished => ?_) h).of_path same
      exact unfinished fs' (by rw [h, finished])
  · rename_i unfinished
    exact perform_saves (by decide) (fun finished => unfinished fs' (by rw [h, finished])) h

end Save

/-- The call gets as far as reading the clock under the lock. -/
def Call.reads (c : Call) : Bool :=
  !c.endedBefore && validateJTI c.jti && decide (0 < c.expiresAt.utc.unixMilli) && !c.endedLocked

/-- The set the call is about to save. -/
def Call.Admits (c : Call) (used next : Used) : Prop :=
  accept moment c.now.nanos c.jti c.expiresAt.utc.unixMilli used = some next

/-- What a call can do, by the point at which it ends. -/
inductive Consumes (c : Call) (used : Used) (fs : FileSystem) :
    Option Reply → FileSystem → Prop
  | refused (err : StoreError) (unread : c.reads = false) :
      Consumes c used fs (some ⟨used, some err⟩) fs
  | replay (reads : c.reads = true)
      (known : known c.jti (prune moment c.now.nanos used) = true) :
      Consumes c used fs (some ⟨used, some .replay⟩) fs
  | unsaved (next : Used) (err : StoreError) (fs' : FileSystem) (reads : c.reads = true)
      (admits : c.Admits used next) (old : fs'.path = fs.path) :
      Consumes c used fs (some ⟨used, some err⟩) fs'
  | unsecured (next : Used) (fs' : FileSystem) (reads : c.reads = true)
      (admits : c.Admits used next) (fault : c.faults .chmod = .fails)
      (new : fs'.path = some ⟨some (written next), true⟩) :
      Consumes c used fs (some ⟨used, some (.operation .chmod)⟩) fs'
  | consumed (next : Used) (fs' : FileSystem) (reads : c.reads = true)
      (admits : c.Admits used next) (new : fs'.path = some ⟨some (written next), true⟩) :
      Consumes c used fs (some ⟨next, none⟩) fs'
  | crashed (next : Used) (fs' : FileSystem) (reads : c.reads = true)
      (admits : c.Admits used next) (old : fs'.path = fs.path) :
      Consumes c used fs none fs'.crash
  | crashedAfter (next : Used) (fs' : FileSystem) (reads : c.reads = true)
      (admits : c.Admits used next) (new : fs'.path = some ⟨some (written next), true⟩) :
      Consumes c used fs none fs'.crash

theorem consume_consumes (c : Call) (used : Used) (fs : FileSystem) :
    Consumes c used fs (consume c used fs).1 (consume c used fs).2 := by
  unfold consume
  by_cases hbefore : c.endedBefore = true
  · rw [if_pos hbefore]
    exact .refused .context (by simp [Call.reads, hbefore])
  rw [if_neg hbefore]
  by_cases hjti : (!validateJTI c.jti) = true
  · rw [if_pos hjti]
    rw [not_eq_true'] at hjti
    exact .refused .invalid (by simp [Call.reads, hjti])
  rw [if_neg hjti]
  by_cases hexpiry : c.expiresAt.utc.unixMilli ≤ 0
  · rw [if_pos hexpiry]
    have late : ¬ 0 < c.expiresAt.utc.unixMilli := Int.not_lt.mpr hexpiry
    exact .refused .invalid (by simp only [Call.reads, late, decide_false, Bool.and_false,
      Bool.false_and])
  rw [if_neg hexpiry]
  by_cases hlocked : c.endedLocked = true
  · rw [if_pos hlocked]
    exact .refused .context (by simp [Call.reads, hlocked])
  rw [if_neg hlocked]
  have reads : c.reads = true := by
    rw [not_eq_true', not_eq_false] at hjti
    have positive : 0 < c.expiresAt.utc.unixMilli := Int.not_le.mp hexpiry
    simp only [Call.reads, hbefore, hjti, hlocked, positive, decide_true, Bool.not_false,
      Bool.and_self]
  split
  · rename_i refused
    refine .replay reads ?_
    unfold accept at refused
    split at refused
    · rename_i known
      exact known
    · cases refused
  · rename_i next admitted
    split
    · rename_i fs' saved
      cases saveLocked_saves saved with
      | done new => exact .consumed next fs' reads admitted new
    · rename_i fs' op saved
      cases saveLocked_saves saved with
      | failed op old => exact .unsaved next _ fs' reads admitted old
      | unsecured fault new => exact .unsecured next fs' reads admitted fault new
    · rename_i fs' saved
      cases saveLocked_saves saved with
      | tooLarge old => exact .unsaved next _ fs' reads admitted old
    · rename_i fs' saved
      cases saveLocked_saves saved with
      | crashed old => exact .crashed next fs' reads admitted old
      | crashedAfter new => exact .crashedAfter next fs' reads admitted new

/-- The store of one path. `memory` is `r.used` of the running process, if there is one;
`live` is what the store is for: the capabilities that were consumed with nil and have
not expired at any reading of the clock since. -/
structure System where
  memory : Option Used
  fs : FileSystem
  live : List (Jti × Time)

inductive Event where
  | call (c : Call)
  | crash
  | reopen (fails : Bool) (now : Time)

/-- A file that no process has open yet. -/
def System.start (file : Option DiskState) : System where
  memory := none
  fs := ⟨file.map fun state => ⟨some state, true⟩, none⟩
  live := []

/-- What a reading of the clock leaves of the live capabilities. -/
def System.read (s : System) (now : Time) : List (Jti × Time) :=
  prune Time.nanos now.nanos s.live

def System.afterCall (s : System) (c : Call) : List (Jti × Time) :=
  if c.reads then s.read c.now else s.live

def step (s : System) : Event → Option System
  | .call c =>
    match s.memory with
    | none => none
    | some used =>
      match consume c used s.fs with
      | (some ⟨used', none⟩, fs') =>
        some ⟨some used', fs', (c.jti, c.expiresAt) :: s.afterCall c⟩
      | (some ⟨used', some _⟩, fs') => some ⟨some used', fs', s.afterCall c⟩
      | (none, fs') => some ⟨none, fs', s.afterCall c⟩
  | .crash => some ⟨none, s.fs.crash, s.live⟩
  | .reopen fails now =>
    match s.memory with
    | some _ => none
    | none =>
      match openStore fails now s.fs with
      | .ok used => some ⟨some used, s.fs, s.read now⟩
      | .error _ => some ⟨none, s.fs, s.live⟩

/-- The file can hold what the call asks it to remember: the JTI is valid UTF-8, and the
expiry is a whole number of milliseconds. -/
def Call.faithful (c : Call) : Bool :=
  decide (readBack c.jti = c.jti) && decide (moment c.expiresAt.unixMilli = c.expiresAt.nanos)

/-- Moreover the last operation of the save succeeds once the others have. -/
def Call.careful (c : Call) : Bool :=
  decide (c.faults .chmod ≠ .fails) && c.faithful

def careful (_ : System) : Event → Bool
  | .call c => c.careful
  | _ => true

def FileSystem.holds (fs : FileSystem) (jti : Jti) : Bool :=
  match fs.path with
  | some ⟨some state, _⟩ => known jti state.used
  | _ => false

/-- A live capability is on record in memory and in the file. -/
structure Kept (s : System) : Prop where
  synced : ∀ file, s.fs.path = some file → file.synced = true
  inMemory : ∀ used, s.memory = some used → ∀ l ∈ s.live, (l.1, l.2.unixMilli) ∈ used
  inFile : ∀ l ∈ s.live, ∃ state,
    s.fs.path = some ⟨some state, true⟩ ∧ (l.1, l.2.unixMilli) ∈ state.used
  faithful : ∀ l ∈ s.live, readBack l.1 = l.1 ∧ moment l.2.unixMilli = l.2.nanos

variable {c : Call}

theorem faithful_iff : c.faithful = true ↔
    readBack c.jti = c.jti ∧ moment c.expiresAt.unixMilli = c.expiresAt.nanos := by
  simp [Call.faithful]

theorem careful_iff :
    c.careful = true ↔ c.faults .chmod ≠ .fails ∧ c.faithful = true := by
  simp [Call.careful]

theorem crash_path {fs : FileSystem} (synced : ∀ file, fs.path = some file → file.synced = true) :
    fs.crash.path = fs.path := by
  unfold FileSystem.crash
  cases hpath : fs.path with
  | none => rfl
  | some file => simp [Option.filter, synced file hpath]

variable {used : Used}

theorem mem_written {jti : Jti} {expiry : Int} (member : (jti, expiry) ∈ used)
    (valid : readBack jti = jti) : (jti, expiry) ∈ (written used).used := by
  refine List.mem_map.mpr ⟨(jti, expiry), member, ?_⟩
  rw [valid]

section Steps

variable {s : System} {c : Call} {used : Used}

theorem mem_afterCall {l : Jti × Time} (member : l ∈ s.afterCall c) : l ∈ s.live := by
  unfold System.afterCall at member
  split at member
  · exact (mem_prune.mp member).1
  · exact member

/-- What is still live after the call's reading is not pruned by it. -/
theorem live_pruned (kept : Kept s) (up : s.memory = some used) (reads : c.reads = true)
    {l : Jti × Time} (member : l ∈ s.afterCall c) :
    (l.1, l.2.unixMilli) ∈ prune moment c.now.nanos used := by
  unfold System.afterCall at member
  rw [if_pos reads] at member
  obtain ⟨live, unexpired⟩ := mem_prune.mp member
  refine mem_prune.mpr ⟨kept.inMemory used up l live, ?_⟩
  rw [(kept.faithful l live).2]
  exact unexpired

/-- A step after which fewer capabilities are live and the file is the same. -/
theorem Kept.same (kept : Kept s) {memory : Option Used} {fs : FileSystem}
    {live : List (Jti × Time)} (path : fs.path = s.fs.path) (fewer : ∀ l ∈ live, l ∈ s.live)
    (inMemory : ∀ used, memory = some used → ∀ l ∈ live, (l.1, l.2.unixMilli) ∈ used) :
    Kept ⟨memory, fs, live⟩ := by
  refine ⟨?_, inMemory, ?_, fun l member => kept.faithful l (fewer l member)⟩
  · rw [path]
    exact kept.synced
  · rw [path]
    exact fun l member => kept.inFile l (fewer l member)

/-- A step that replaces the file by one with everything that is live. -/
theorem Kept.replaced {memory : Option Used} {fs : FileSystem} {live : List (Jti × Time)}
    {next : Used} (new : fs.path = some ⟨some (written next), true⟩)
    (recorded : ∀ l ∈ live, (l.1, l.2.unixMilli) ∈ next)
    (inMemory : ∀ used, memory = some used → ∀ l ∈ live, (l.1, l.2.unixMilli) ∈ used)
    (faithful : ∀ l ∈ live, readBack l.1 = l.1 ∧ moment l.2.unixMilli = l.2.nanos) :
    Kept ⟨memory, fs, live⟩ := by
  refine ⟨?_, inMemory, ?_, faithful⟩
  · intro file hfile
    rw [new] at hfile
    cases hfile
    rfl
  · intro l member
    exact ⟨written next, new, mem_written (recorded l member) (faithful l member).1⟩

theorem admitted_recorded (kept : Kept s) (up : s.memory = some used) (reads : c.reads = true)
    {next : Used} (admits : c.Admits used next) :
    ∀ l ∈ s.afterCall c, (l.1, l.2.unixMilli) ∈ next := by
  intro l member
  rw [(accept_eq_some admits).2]
  exact mem_cons_of_mem _ (live_pruned kept up reads member)

end Steps

variable {s : System}

theorem kept_call {s' : System} (kept : Kept s) (up : s.memory = some used) (ok : c.faithful = true)
    (h : step s (.call c) = some s') :
    Kept s' := by
  obtain ⟨valid, aligned⟩ := faithful_iff.mp ok
  have fewer : ∀ l ∈ s.afterCall c, l ∈ s.live := fun l member => mem_afterCall member
  have still : ∀ m, some used = some m → ∀ l ∈ s.afterCall c, (l.1, l.2.unixMilli) ∈ m := by
    intro m same l member
    exact kept.inMemory m (up.trans same) l (fewer l member)
  have faithful : ∀ l ∈ s.afterCall c, readBack l.1 = l.1 ∧ moment l.2.unixMilli = l.2.nanos :=
    fun l member => kept.faithful l (fewer l member)
  have consumes := consume_consumes c used s.fs
  unfold step at h
  rw [up] at h
  dsimp only at h
  generalize consume c used s.fs = result at consumes h
  obtain ⟨reply, fs'⟩ := result
  cases consumes with
  | unsaved next _ fs' reads admits old =>
    cases h
    exact kept.same old fewer still
  | unsecured next fs' reads admits _ new =>
    cases h
    exact Kept.replaced new (admitted_recorded kept up reads admits) still faithful
  | consumed next fs' reads admits new =>
    cases h
    have recorded : ∀ l ∈ (c.jti, c.expiresAt) :: s.afterCall c, (l.1, l.2.unixMilli) ∈ next := by
      intro l member
      rcases mem_cons.mp member with rfl | member
      · rw [(accept_eq_some admits).2]
        exact mem_cons_self
      · exact admitted_recorded kept up reads admits l member
    refine Kept.replaced new recorded ?_ ?_
    · rintro m ⟨⟩
      exact recorded
    · intro l member
      rcases mem_cons.mp member with rfl | member
      · exact ⟨valid, aligned⟩
      · exact faithful l member
  | crashed next fs' reads admits old =>
    cases h
    have synced : ∀ file, fs'.path = some file → file.synced = true := old ▸ kept.synced
    exact kept.same ((crash_path synced).trans old) fewer nofun
  | crashedAfter next fs' reads admits new =>
    cases h
    have synced : ∀ file, fs'.path = some file → file.synced = true := by
      intro file hfile
      rw [new] at hfile
      cases hfile
      rfl
    exact Kept.replaced ((crash_path synced).trans new) (admitted_recorded kept up reads admits)
      nofun faithful
  | _ =>
    cases h
    exact kept.same rfl fewer still

/-- Opening the store finds what is live in the file. -/
theorem kept_open {now : Time} {fails : Bool} (kept : Kept s)
    (opened : openStore fails now s.fs = .ok used) : Kept ⟨some used, s.fs, s.read now⟩ := by
  have fewer : ∀ l ∈ s.read now, l ∈ s.live :=
    fun l member => (mem_prune.mp member).1
  refine kept.same rfl fewer ?_
  rintro m ⟨⟩ l member
  obtain ⟨live, unexpired⟩ := mem_prune.mp member
  obtain ⟨state, path, recorded⟩ := kept.inFile l live
  have pruned : used = prune moment now.nanos state.used := by
    unfold openStore at opened
    rw [path] at opened
    dsimp only at opened
    split at opened
    · cases opened
    split at opened
    · cases opened
    split at opened
    · cases opened
    split at opened
    · cases opened
    split at opened
    · cases opened
    exact (Except.ok.inj opened).symm
  rw [pruned]
  refine mem_prune.mpr ⟨recorded, ?_⟩
  rw [(kept.faithful l live).2]
  exact unexpired

theorem kept_start (file : Option DiskState) : Kept (.start file) where
  synced := by
    intro f hf
    cases file with
    | none => cases hf
    | some =>
      cases hf
      rfl
  inMemory := nofun
  inFile := nofun
  faithful := nofun

theorem kept_step (s : System) (e : Event) (s' : System) (kept : Kept s)
    (ok : ∀ c, e = .call c → c.faithful = true) (h : step s e = some s') : Kept s' := by
  cases e with
  | call c =>
    cases up : s.memory with
    | none =>
      unfold step at h
      rw [up] at h
      cases h
    | some => exact kept_call kept up (ok c rfl) h
  | crash =>
    cases h
    exact kept.same (crash_path kept.synced) (fun l member => member) nofun
  | reopen =>
    unfold step at h
    dsimp only at h
    split at h
    · cases h
    split at h
    · rename_i opened
      cases h
      exact kept_open kept opened
    · cases h
      exact kept.same rfl (fun l member => member) nofun

/-- A call that returns nil has its JTI in memory and in the file, and one that returns an
error has changed neither. -/
def Atomic (c : Call) (used : Used) (fs : FileSystem) : Prop :=
  match consume c used fs with
  | (some ⟨used', none⟩, fs') => known c.jti used' = true ∧ fs'.holds c.jti = true
  | (some ⟨used', some _⟩, fs') => used' = used ∧ fs'.path = fs.path
  | (none, _) => True

theorem known_self {jti : Jti} {expiry : Int} :
    known jti ((jti, expiry) :: used) = true :=
  known_iff.mpr ⟨expiry, mem_cons_self⟩

theorem atomic_of_careful (ok : c.careful = true) (used : Used) (fs : FileSystem) :
    Atomic c used fs := by
  obtain ⟨secured, faithful⟩ := careful_iff.mp ok
  obtain ⟨valid, -⟩ := faithful_iff.mp faithful
  have consumes := consume_consumes c used fs
  unfold Atomic
  generalize consume c used fs = result at consumes
  obtain ⟨reply, fs'⟩ := result
  cases consumes with
  | refused => exact ⟨rfl, rfl⟩
  | replay => exact ⟨rfl, rfl⟩
  | unsaved next _ fs' reads admits old => exact ⟨rfl, old⟩
  | unsecured next fs' reads admits fault => exact absurd fault secured
  | consumed next fs' reads admits new =>
    obtain ⟨-, rfl⟩ := accept_eq_some admits
    refine ⟨known_self, ?_⟩
    unfold FileSystem.holds
    rw [new]
    exact known_iff.mpr ⟨_, mem_written mem_cons_self valid⟩
  | _ => trivial

/-- A live capability is refused as a replay. -/
theorem live_refused (kept : Kept s) (up : s.memory = some used) {l : Jti × Time}
    (live : l ∈ s.live) (same : l.1 = c.jti) (reads : c.reads = true)
    (early : c.now.nanos < l.2.nanos) :
    (consume c used s.fs).1 = some ⟨used, some .replay⟩ := by
  have member : l ∈ s.afterCall c := by
    unfold System.afterCall
    rw [if_pos reads]
    exact mem_prune.mpr ⟨live, early⟩
  have known : known c.jti (prune moment c.now.nanos used) = true :=
    known_iff.mpr ⟨_, same ▸ live_pruned kept up reads member⟩
  have notAdmitted : ∀ next, ¬ c.Admits used next := by
    intro next admits
    have fresh := (accept_eq_some admits).1
    rw [known] at fresh
    cases fresh
  have consumes := consume_consumes c used s.fs
  generalize consume c used s.fs = result at consumes ⊢
  obtain ⟨reply, fs'⟩ := result
  cases consumes with
  | refused _ unread =>
    rw [reads] at unread
    cases unread
  | replay => rfl
  | unsecured next fs' _ admits => exact absurd admits (notAdmitted next)
  | _ =>
    rename_i admits _
    exact absurd admits (notAdmitted _)

/-- A reading of the clock keeps what has not expired by then. -/
theorem live_afterCall {l : Jti × Time} (live : l ∈ s.live) (early : c.now.nanos < l.2.nanos) :
    l ∈ s.afterCall c := by
  unfold System.afterCall
  split
  · exact mem_prune.mpr ⟨live, early⟩
  · exact live

/-- A call leaves alive what was alive and has not expired. -/
theorem live_call {s' : System} (h : step s (.call c) = some s') {l : Jti × Time}
    (live : l ∈ s.live) (early : c.now.nanos < l.2.nanos) : l ∈ s'.live := by
  have kept := live_afterCall live early
  unfold step at h
  dsimp only at h
  split at h
  · cases h
  split at h
  · cases h
    exact mem_cons_of_mem _ kept
  · cases h
    exact kept
  · cases h
    exact kept

/-- A call that returns nil makes its capability live, and finds no other one alive with
its JTI. -/
theorem call_consumed {s' : System} {used' : Used} (kept : Kept s) (up : s.memory = some used)
    (h : step s (.call c) = some s') (consumed : (consume c used s.fs).1 = some ⟨used', none⟩) :
    (c.jti, c.expiresAt) ∈ s'.live ∧
      ∀ l ∈ s.live, l.1 = c.jti → l.2.nanos ≤ c.now.nanos := by
  constructor
  · unfold step at h
    rw [up] at h
    dsimp only at h
    split at h
    · cases h
      exact mem_cons_self
    · rename_i answer
      rw [answer] at consumed
      cases consumed
    · rename_i answer
      rw [answer] at consumed
      cases consumed
  · intro l live same
    by_contra early
    have reads : c.reads = true := by
      have consumes := consume_consumes c used s.fs
      rw [consumed] at consumes
      cases consumes with
      | consumed _ _ reads => exact reads
    rw [live_refused kept up live same reads (Int.not_le.mp early)] at consumed
    cases consumed

/-- So does a restart. -/
theorem live_restart {s' : System} {e : Event} {now : Time}
    (restart : e = .crash ∨ ∃ fails, e = .reopen fails now) (h : step s e = some s')
    {l : Jti × Time} (live : l ∈ s.live) (early : now.nanos < l.2.nanos) : l ∈ s'.live := by
  rcases restart with rfl | ⟨fails, rfl⟩
  · cases h
    exact live
  unfold step at h
  dsimp only at h
  split at h
  · cases h
  split at h
  · cases h
    exact mem_prune.mpr ⟨live, early⟩
  · cases h
    exact live

/-- In every sequence of careful calls, crashes and reopenings: each call is all or nothing
on memory and file, everything consumed with nil is on record in both until it expires, and
until then a call that names it again and comes to the records is refused as a replay. -/
theorem consume_atomic {file : Option DiskState} {events : List Event}
    (conforming : Runs.Meets step (fun s e => careful s e = true) (.start file) events)
    (run : Runs.exec step (.start file) events = some s) (up : s.memory = some used) :
    (∀ c : Call, c.careful = true → Atomic c used s.fs) ∧
      (∀ l ∈ s.live, ReplayWindow.known l.1 used = true ∧ s.fs.holds l.1 = true) ∧
      ∀ l ∈ s.live, ∀ c : Call, l.1 = c.jti → c.reads = true → c.now.nanos < l.2.nanos →
        (consume c used s.fs).1 = some ⟨used, some .replay⟩ := by
  have kept : Kept s := by
    refine Runs.exec_invariant Kept ?_ (kept_start file) conforming run
    intro s e s' kept ok
    refine kept_step s e s' kept ?_
    rintro c rfl
    exact (careful_iff.mp ok).2
  refine ⟨fun c ok => atomic_of_careful ok used s.fs, ?_, ?_⟩
  · intro l live
    refine ⟨known_iff.mpr ⟨_, kept.inMemory used up l live⟩, ?_⟩
    obtain ⟨state, path, recorded⟩ := kept.inFile l live
    unfold FileSystem.holds
    rw [path]
    exact known_iff.mpr ⟨_, recorded⟩
  · intro l live c same reads early
    exact live_refused kept up live same reads early

section Samples

def noon : Time := ⟨1800000000000000000, .utc⟩

/-- A call at noon for a capability of one minute, with no fault. -/
def useCall (jti : Jti) : Call where
  jti := jti
  expiresAt := noon.add (60000 * nanosPerMilli)
  endedBefore := false
  endedLocked := false
  now := noon
  faults := fun _ => .succeeds

/-- A use, and a restart after it. -/
def usedOnce : List Event :=
  [.reopen false noon, .call (useCall (literal "one")), .crash, .reopen false noon]

theorem consume_atomic_restarted : ∃ s used, Runs.exec step (.start none) usedOnce = some s ∧
    s.memory = some used ∧ s.live = [(literal "one", noon.add (60000 * nanosPerMilli))] ∧
    (consume (useCall (literal "one")) used s.fs).1 = some ⟨used, some .replay⟩ := by
  have conforming : Runs.Meets step (fun s e => careful s e = true) (.start none) usedOnce := by
    decide +kernel
  refine ⟨_, _, rfl, rfl, by decide +kernel, ?_⟩
  exact (consume_atomic conforming rfl rfl).2.2
    (literal "one", noon.add (60000 * nanosPerMilli)) (by decide +kernel) _ rfl
    (by decide +kernel) (by decide +kernel)

/-- The chmod after the replacement fails. -/
def unsecuredCall (jti : Jti) : Call :=
  { useCall jti with faults := fun op => if op = .chmod then .fails else .succeeds }

/-- The call returns an error, and its JTI is in the file all the same: after a restart it
is refused as used. -/
theorem chmod_failure_burns_jti : ∃ s used s' used',
    Runs.exec step (.start none) [.reopen false noon] = some s ∧ s.memory = some used ∧
    ReplayWindow.known (literal "one") used = false ∧ s.fs.holds (literal "one") = false ∧
    (consume (unsecuredCall (literal "one")) used s.fs).1 =
      some ⟨used, some (.operation .chmod)⟩ ∧
    (consume (unsecuredCall (literal "one")) used s.fs).2.holds (literal "one") = true ∧
    Runs.exec step s [.call (unsecuredCall (literal "one")), .crash, .reopen false noon] =
      some s' ∧ s'.memory = some used' ∧
    (consume (useCall (literal "one")) used' s'.fs).1 = some ⟨used', some .replay⟩ := by
  refine ⟨_, _, _, _, rfl, rfl, ?_, ?_, ?_, ?_, rfl, rfl, ?_⟩ <;> decide +kernel

end Samples

end ReplayStore
