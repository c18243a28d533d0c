import WeDecent.Library.Exclusion
import WeDecent.Library.Runs
import WeDecent.UpdateState

/-!
# Advancing the update sequence

`StateStore.Advance` and `ApplyVerifiedInstaller` (`updateinfo/application.go`), called through any
number of `StateStore` values, in any number of processes, on one path. Each value has a mutex of
its own. `ApplyVerifiedInstaller` also takes the update lock, which is one for all; `Advance` does
not. What the package verification, the installer and the file operations answer is up to the
schedule.
-/

namespace UpdateRollback

open List Exclusion Fallible Runs UpdateState

inductive Operation where
  | advance
  | applyInstaller
  deriving DecidableEq

/-- Where a call stands -/
inductive Pc where
  | checking
  -- It waits for the mutex of its store, and then for the update lock.
  | locking
  | acquiring
  -- `loadState`
  | loading
  | reading
  -- It has found its sequence to be newer than the persisted one.
  | verifying
  | executing
  -- `saveState`
  | saving
  | replacing (node : Node)
  | syncing
  | returned (result : Except UpdateError Unit)
  deriving DecidableEq

structure Call where
  store : Nat
  operation : Operation
  sequence : UInt64
  pc : Pc

inductive Event where
  | invoked (sequence : UInt64)
  | committed (sequence : UInt64)
  deriving DecidableEq

structure System where
  file : Option Node
  calls : List Call
  events : List Event

def start (file : Option Node) : System := ⟨file, [], []⟩

/-- `s.mu` is unlocked when the call returns. -/
def Pc.holdsMutex : Pc → Bool
  | .checking | .locking | .returned _ => false
  | _ => true

/-- The update lock is released when the call returns. -/
def Call.holdsLock (c : Call) : Bool :=
  decide (c.operation = .applyInstaller) && decide (c.pc ≠ .acquiring) && c.pc.holdsMutex

def System.mutexFree (s : System) (store : Nat) : Bool :=
  s.calls.all fun c => decide (c.store ≠ store) || !c.pc.holdsMutex

def System.lockFree (s : System) : Bool := s.calls.all fun c => !c.holdsLock

def fail (e : UpdateError) : Pc := .returned (.error e)

/-- `saveState` has returned an error. -/
def Call.saveFailed (c : Call) : Pc :=
  match c.operation with
  | .advance => fail (.invalidState "update state")
  | .applyInstaller => fail .sequenceCommit

/-- The admission, with the sequence that `loadState` has returned -/
def Call.judged (c : Call) (current : UInt64) : Pc :=
  if c.sequence ≤ current then fail (.rollback c.sequence current)
  else match c.operation with
    | .advance => .saving
    | .applyInstaller => .verifying

/-- What the next statement of a call does: where the call stands then, and the file and the event
if it replaces the one or makes the other. `fails` is the answer of its environment. -/
structure Effect where
  pc : Pc
  file : Option Node
  events : List Event

def System.next (s : System) (c : Call) (fails : Bool) : Option Effect :=
  let go (pc : Pc) : Option Effect := some ⟨pc, s.file, s.events⟩
  match c.pc with
  | .checking =>
    match c.operation with
    | .advance =>
      go (if c.sequence = 0 then fail (.invalidState "sequence must be positive") else .locking)
    -- `manifest.Validate` refuses the sequence zero and more, and the context may be done.
    | .applyInstaller => go (if c.sequence = 0 || fails then fail .refused else .locking)
  | .locking =>
    if s.mutexFree c.store then
      match c.operation with
      | .advance => go .loading
      | .applyInstaller => go .acquiring
    else none
  | .acquiring => if fails then go (fail .refused) else if s.lockFree then go .loading else none
  | .loading =>
    match lstatState fails s.file with
    | .error e => go (fail e)
    | .ok false => go (c.judged 0)
    | .ok true => go .reading
  | .reading =>
    match readState (if fails then none else s.file.map Node.data) with
    | .error e => go (fail e)
    | .ok st => go (c.judged st.stableSequence)
  -- `WithVerifiedInstallerPackage` up to its callback
  | .verifying =>
    if fails then go (fail .refused)
    else some ⟨.executing, s.file, s.events ++ [.invoked c.sequence]⟩
  | .executing => go (if fails then fail .installerApply else .saving)
  -- `saveState` up to the replacement
  | .saving =>
    if fails then go c.saveFailed
    else match savedNode c.sequence with
      | .error _ => go c.saveFailed
      | .ok node => go (.replacing node)
  | .replacing node =>
    if fails then go c.saveFailed
    else some ⟨.syncing, some node, s.events ++ [.committed c.sequence]⟩
  -- The directory is synced after the replacement.
  | .syncing => go (if fails then c.saveFailed else .returned (.ok ()))
  | .returned _ => none

inductive Action where
  | call (store : Nat) (operation : Operation) (sequence : UInt64)
  | step (i : Nat) (fails : Bool)

def step (s : System) : Action → Option System
  | .call store operation sequence =>
    some { s with calls := s.calls ++ [⟨store, operation, sequence, .checking⟩] }
  | .step i fails =>
    s.calls[i]?.bind fun c => (s.next c fails).map fun e =>
      ⟨e.file, s.calls.set i { c with pc := e.pc }, e.events⟩

/-- The call has asked for the state file and may still replace it. -/
def Pc.inSection : Pc → Bool
  | .reading | .verifying | .executing | .saving | .replacing _ => true
  | _ => false

/-- A call does not load the state while a call through another store is between its load and its
replacement, unless both apply an installer. -/
def separate (s : System) : Action → Bool
  | .step i _ =>
    s.calls[i]?.all fun c => decide (c.pc ≠ .loading) || s.calls.all fun d =>
      decide (d.store = c.store) || !d.pc.inSection ||
        (decide (c.operation = .applyInstaller) && decide (d.operation = .applyInstaller))
  | _ => true

/-- It has found its sequence to be newer, and has not saved it. -/
def Pc.admitted : Pc → Bool
  | .verifying | .executing | .saving | .replacing _ => true
  | _ => false

def Pc.committed : Pc → Bool
  | .syncing | .returned (.ok _) => true
  | _ => false

/-- What a call knows of the file -/
structure Standing (file : Option Node) (c : Call) : Prop where
  found : c.pc = .reading → ∃ node, file = some node ∧ lstatState false (some node) = .ok true
  newer : c.pc.admitted = true → ∃ m, persisted file = some m ∧ m < c.sequence
  ready : ∀ node, c.pc = .replacing node → savedNode c.sequence = .ok node
  done : c.pc.committed = true → ∃ n, persisted file = some n ∧ c.sequence ≤ n

/-- A step that leaves the file and the events as they are -/
structure Quiet (file : Option Node) (c : Call) (pc : Pc) : Prop where
  enters : pc.inSection = true → c.pc.inSection = true ∨ c.pc = .loading
  commits : pc.committed = true → c.pc.committed = true
  standing : Standing file c → Standing file { c with pc }

/-- The steps of a call: the quiet ones, the invocation of the executor and the replacement of the
file -/
inductive Moved (s : System) (c : Call) : Effect → Prop
  | quiet {pc : Pc} (quiet : Quiet s.file c pc) : Moved s c ⟨pc, s.file, s.events⟩
  | invoked (at_ : c.pc = .verifying) :
      Moved s c ⟨.executing, s.file, s.events ++ [.invoked c.sequence]⟩
  | replaced {node : Node} (at_ : c.pc = .replacing node) :
      Moved s c ⟨.syncing, some node, s.events ++ [.committed c.sequence]⟩

section Step

variable {s s' : System} {c : Call} {e : Effect} {fails : Bool} {file : Option Node}

/-- A call that has returned an error knows nothing of the file. -/
theorem quiet_fail (error : UpdateError) : Quiet file c (fail error) :=
  ⟨nofun, nofun, fun _ => ⟨nofun, nofun, nofun, nofun⟩⟩

/-- So does one that has not loaded the state yet. -/
theorem quiet_early {pc : Pc} (early : pc = .locking ∨ pc = .acquiring ∨ pc = .loading) :
    Quiet file c pc := by
  rcases early with rfl | rfl | rfl
  all_goals
    refine ⟨?_, ?_, fun _ => ⟨?_, ?_, ?_, ?_⟩⟩ <;> intros <;> contradiction

theorem standing_reading
    (found : ∃ node, file = some node ∧ lstatState false (some node) = .ok true) :
    Standing file { c with pc := .reading } :=
  ⟨fun _ => found, nofun, nofun, nofun⟩

theorem standing_saving (newer : ∃ m, persisted file = some m ∧ m < c.sequence) :
    Standing file { c with pc := .saving } :=
  ⟨nofun, fun _ => newer, nofun, nofun⟩

theorem standing_replacing {node : Node} (newer : ∃ m, persisted file = some m ∧ m < c.sequence)
    (ready : savedNode c.sequence = .ok node) :
    Standing file { c with pc := .replacing node } :=
  ⟨by rintro ⟨⟩, fun _ => newer, fun _ same => Pc.replacing.inj same ▸ ready, by rintro ⟨⟩⟩

theorem standing_returned (done : ∃ n, persisted file = some n ∧ c.sequence ≤ n) :
    Standing file { c with pc := .returned (.ok ()) } :=
  ⟨nofun, nofun, nofun, fun _ => done⟩

theorem quiet_saveFailed : Quiet file c c.saveFailed := by
  unfold Call.saveFailed
  split
  · exact quiet_fail _
  · exact quiet_fail _

theorem quiet_judged {current : UInt64} (from_ : c.pc.inSection = true ∨ c.pc = .loading)
    (loaded : Standing file c → persisted file = some current) :
    Quiet file c (c.judged current) := by
  unfold Call.judged
  split
  · exact quiet_fail _
  rename_i newer
  have above := UInt64.not_le.mp newer
  split
  · exact ⟨fun _ => from_, by rintro ⟨⟩, fun standing =>
      standing_saving ⟨current, loaded standing, above⟩⟩
  · exact ⟨fun _ => from_, by rintro ⟨⟩, fun standing =>
      ⟨nofun, fun _ => ⟨current, loaded standing, above⟩, nofun, nofun⟩⟩

theorem moved_of_next (h : s.next c fails = some e) : Moved s c e := by
  unfold System.next at h
  split at h
  · -- `checking`
    split at h
    · cases h
      split
      · exact .quiet (quiet_fail _)
      · exact .quiet (quiet_early (by simp))
    · cases h
      split
      · exact .quiet (quiet_fail _)
      · exact .quiet (quiet_early (by simp))
  · -- `locking`
    split at h
    · split at h
      · cases h
        exact .quiet (quiet_early (by simp))
      · cases h
        exact .quiet (quiet_early (by simp))
    · cases h
  · -- `acquiring`
    split at h
    · cases h
      exact .quiet (quiet_fail _)
    · split at h
      · cases h
        exact .quiet (quiet_early (by simp))
      · cases h
  · -- `loading`
    rename_i at_
    split at h
    · cases h
      exact .quiet (quiet_fail _)
    · rename_i absent
      cases h
      refine .quiet (quiet_judged (.inr at_) fun _ => ?_)
      cases hfile : s.file with
      | none => rfl
      | some =>
        rw [hfile] at absent
        cases (lstatState_found absent).1
    · rename_i there
      cases h
      refine .quiet ⟨fun _ => .inr at_, by rintro ⟨⟩, fun _ => standing_reading ?_⟩
      cases hfile : s.file with
      | none =>
        rw [hfile] at there
        cases lstatState_absent there
      | some node =>
        rw [hfile] at there
        exact ⟨node, rfl, (lstatState_found there).2⟩
  · -- `reading`
    rename_i at_
    split at h
    · cases h
      exact .quiet (quiet_fail _)
    rename_i read
    cases h
    refine .quiet (quiet_judged (.inl (by rw [at_]; rfl)) fun standing => ?_)
    obtain ⟨node, hfile, there⟩ := standing.found at_
    cases fails with
    | true => cases read
    | false =>
      rw [hfile] at read ⊢
      exact persisted_read there read
  · -- `verifying`
    rename_i at_
    split at h
    · cases h
      exact .quiet (quiet_fail _)
    · cases h
      exact .invoked at_
  · -- `executing`
    rename_i at_
    cases h
    split
    · exact .quiet (quiet_fail _)
    · refine .quiet ⟨fun _ => .inl (by rw [at_]; rfl), by rintro ⟨⟩, fun standing => ?_⟩
      exact standing_saving (standing.newer (by rw [at_]; rfl))
  · -- `saving`
    rename_i at_
    split at h
    · cases h
      exact .quiet quiet_saveFailed
    split at h
    · cases h
      exact .quiet quiet_saveFailed
    · rename_i node saved
      cases h
      refine .quiet ⟨fun _ => .inl (by rw [at_]; rfl), by rintro ⟨⟩, fun standing => ?_⟩
      exact standing_replacing (standing.newer (by rw [at_]; rfl)) saved
  · -- `replacing`
    rename_i node at_
    split at h
    · cases h
      exact .quiet quiet_saveFailed
    · cases h
      exact .replaced at_
  · -- `syncing`
    rename_i at_
    cases h
    split
    · exact .quiet quiet_saveFailed
    · have committed : c.pc.committed = true := by rw [at_]; rfl
      exact .quiet ⟨by rintro ⟨⟩, fun _ => committed, fun standing =>
        standing_returned (standing.done committed)⟩
  · cases h

theorem inSection_holdsMutex {pc : Pc} (h : pc.inSection = true) : pc.holdsMutex = true := by
  cases pc <;> first | rfl | cases h

theorem inSection_holdsLock (h : c.pc.inSection = true) (op : c.operation = .applyInstaller) :
    c.holdsLock = true := by
  have other : c.pc ≠ .acquiring := by
    intro same
    rw [same] at h
    cases h
  rw [Call.holdsLock, op, inSection_holdsMutex h, decide_eq_true other]
  rfl

theorem mutex_of_next (h : s.next c fails = some e) (holds : e.pc.holdsMutex = true) :
    c.pc.holdsMutex = true ∨ (c.pc = .locking ∧ s.mutexFree c.store = true) := by
  cases hpc : c.pc with
  | checking =>
    simp only [System.next, hpc] at h
    split at h
    · cases h
      split at holds
      · cases holds
      · cases holds
    · cases h
      split at holds
      · cases holds
      · cases holds
  | locking =>
    simp only [System.next, hpc] at h
    split at h
    · rename_i free
      exact .inr ⟨rfl, free⟩
    · cases h
  | returned =>
    simp only [System.next, hpc] at h
    cases h
  | _ => exact .inl rfl

theorem lock_of_next (h : s.next c fails = some e)
    (holds : Call.holdsLock { c with pc := e.pc } = true) :
    c.holdsLock = true ∨ s.lockFree = true := by
  simp only [Call.holdsLock, Bool.and_eq_true, decide_eq_true_eq] at holds
  obtain ⟨⟨op, moved⟩, mutex⟩ := holds
  rcases mutex_of_next h mutex with held | ⟨at_, -⟩
  · by_cases at_ : c.pc = .acquiring
    · simp only [System.next, at_] at h
      split at h
      · cases h
        cases mutex
      · split at h
        · rename_i free
          exact .inr free
        · cases h
    · left
      rw [Call.holdsLock, op, held, decide_eq_true at_]
      rfl
  · -- With the mutex it goes on to acquire the lock.
    simp only [System.next, at_] at h
    split at h
    · split at h
      · rename_i other
        cases other.symm.trans op
      · cases h
        exact absurd rfl moved
    · cases h

end Step

/-- A run from `file` in which no sequence has been rolled back -/
structure Sound (file : Option Node) (s : System) : Prop where
  mutex : ∀ store, Alone (fun c => c.store = store ∧ c.pc.holdsMutex = true) s.calls
  lock : Alone (fun c => c.holdsLock = true) s.calls
  exclusive : Alone (fun c => c.pc.inSection = true) s.calls
  standing : ∀ c ∈ s.calls, Standing s.file c
  initial : ∀ m, persisted file = some m → ∃ n, persisted s.file = some n ∧ m ≤ n
  committed : ∀ m, .committed m ∈ s.events → ∃ n, persisted s.file = some n ∧ m ≤ n
  invoked : ∀ earlier sequence later, s.events = earlier ++ .invoked sequence :: later →
    (∀ m, .committed m ∈ earlier → m < sequence) ∧ ∀ m, persisted file = some m → m < sequence
  distinct : ∀ sequence, Alone (fun c => c.sequence = sequence ∧ c.pc.committed = true) s.calls

section Runs

variable {s s' : System} {file : Option Node} {a : Action}

theorem mutexFree_iff {store : Nat} :
    s.mutexFree store = true ↔ ∀ c ∈ s.calls, ¬(c.store = store ∧ c.pc.holdsMutex = true) := by
  simp only [System.mutexFree, all_eq_true, Bool.or_eq_true, decide_eq_true_eq,
    Bool.not_eq_true', not_and, Bool.not_eq_true]
  exact forall₂_congr fun c _ => ⟨fun h same => h.resolve_left (not_not.mpr same), fun h =>
    (em (c.store = store)).elim (fun same => .inr (h same)) .inl⟩

theorem lockFree_iff : s.lockFree = true ↔ ∀ c ∈ s.calls, ¬c.holdsLock = true := by
  simp [System.lockFree]

/-- Nobody is between their load and their replacement when a call loads the state. -/
theorem section_clear {i : Nat} {c : Call} {fails : Bool} (sound : Sound file s)
    (apart : separate s (.step i fails) = true) (at_i : s.calls[i]? = some c)
    (loads : c.pc = .loading) (j : Nat) (d : Call) (other : j ≠ i) (at_j : s.calls[j]? = some d) :
    ¬d.pc.inSection = true := by
  intro inside
  have held : c.pc.holdsMutex = true := by rw [loads]; rfl
  simp only [separate, at_i, Option.all_some, loads, ne_eq, not_true_eq_false, decide_false,
    Bool.false_or, all_eq_true, Bool.or_eq_true, Bool.and_eq_true, decide_eq_true_eq] at apart
  rcases apart d (mem_of_getElem? at_j) with (same | outside) | ⟨cop, dop⟩
  · exact (sound.mutex c.store).out at_i ⟨rfl, held⟩ other at_j ⟨same, inSection_holdsMutex inside⟩
  · rw [inside] at outside
    cases outside
  · have locks : c.holdsLock = true := by
      rw [Call.holdsLock, cop, loads]
      rfl
    exact sound.lock.out at_i locks other at_j (inSection_holdsLock inside dop)

theorem Standing.grown {file' : Option Node} {c : Call} (standing : Standing file c)
    (outside : ¬c.pc.inSection = true)
    (grows : ∀ m, persisted file = some m → ∃ n, persisted file' = some n ∧ m ≤ n) :
    Standing file' c where
  found at_ := absurd (by rw [at_]; rfl) outside
  newer admitted := by
    refine absurd ?_ outside
    cases hpc : c.pc <;> rw [hpc] at admitted <;> first | rfl | cases admitted
  ready := standing.ready
  done committed := by
    obtain ⟨n, hn, le⟩ := standing.done committed
    obtain ⟨n', hn', le'⟩ := grows n hn
    exact ⟨n', hn', UInt64.le_trans le le'⟩

section Move

variable {i : Nat} {c : Call} {e : Effect} {fails : Bool}

theorem mutex_move (sound : Sound file s) (at_i : s.calls[i]? = some c)
    (h : s.next c fails = some e) (store : Nat) :
    Alone (fun c => c.store = store ∧ c.pc.holdsMutex = true)
      (s.calls.set i { c with pc := e.pc }) := by
  refine alone_set (sound.mutex store) at_i fun ⟨same, holds⟩ => ?_
  rcases mutex_of_next h holds with held | ⟨-, free⟩
  · exact .inl ⟨same, held⟩
  · exact .inr fun j d _ at_j => mutexFree_iff.mp (same ▸ free) d (mem_of_getElem? at_j)

theorem lock_move (sound : Sound file s) (at_i : s.calls[i]? = some c)
    (h : s.next c fails = some e) :
    Alone (fun c => c.holdsLock = true) (s.calls.set i { c with pc := e.pc }) := by
  refine alone_set sound.lock at_i fun holds => ?_
  rcases lock_of_next h holds with held | free
  · exact .inl held
  · exact .inr fun j d _ at_j => lockFree_iff.mp free d (mem_of_getElem? at_j)

theorem exclusive_move (sound : Sound file s) (apart : separate s (.step i fails) = true)
    (at_i : s.calls[i]? = some c) (moved : Moved s c e) :
    Alone (fun c => c.pc.inSection = true) (s.calls.set i { c with pc := e.pc }) := by
  refine alone_set sound.exclusive at_i fun inside => ?_
  cases moved with
  | quiet quiet =>
    exact (quiet.enters inside).imp id fun loads => section_clear sound apart at_i loads
  | invoked at_ => exact .inl (by rw [at_]; rfl)
  | replaced => cases inside

theorem standing_set {calls : List Call} {x d : Call} (standing : ∀ c ∈ calls, Standing file c)
    (new : Standing file d) (member : x ∈ calls.set i d) : Standing file x := by
  rcases mem_or_eq_of_mem_set member with old | rfl
  · exact standing x old
  · exact new

/-- An event is the last one or was there before. -/
theorem event_split {events earlier later : List Event} {last event : Event}
    (h : events ++ [last] = earlier ++ event :: later) :
    (event = last ∧ earlier = events) ∨ ∃ later', events = earlier ++ event :: later' := by
  rcases eq_nil_or_concat later with rfl | ⟨later', y, rfl⟩
  · have parts := append_inj' h rfl
    cases parts.2
    exact .inl ⟨rfl, parts.1.symm⟩
  · right
    refine ⟨later', ?_⟩
    rw [concat_eq_append, ← cons_append, ← append_assoc] at h
    exact (append_inj' h rfl).1

theorem sound_quiet (sound : Sound file s) (apart : separate s (.step i fails) = true)
    (at_i : s.calls[i]? = some c) {pc : Pc} (h : s.next c fails = some ⟨pc, s.file, s.events⟩)
    (quiet : Quiet s.file c pc) :
    Sound file ⟨s.file, s.calls.set i { c with pc }, s.events⟩ where
  mutex := mutex_move sound at_i h
  lock := lock_move sound at_i h
  exclusive := exclusive_move sound apart at_i (.quiet quiet)
  standing _ member := standing_set sound.standing
    (quiet.standing (sound.standing c (mem_of_getElem? at_i))) member
  initial := sound.initial
  committed := sound.committed
  invoked := sound.invoked
  distinct sequence := alone_set (sound.distinct sequence) at_i fun both =>
    .inl ⟨both.1, quiet.commits both.2⟩

theorem sound_invoked (sound : Sound file s) (apart : separate s (.step i fails) = true)
    (at_i : s.calls[i]? = some c) (at_ : c.pc = .verifying)
    (h : s.next c fails = some ⟨.executing, s.file, s.events ++ [.invoked c.sequence]⟩) :
    Sound file ⟨s.file, s.calls.set i { c with pc := .executing },
      s.events ++ [.invoked c.sequence]⟩ := by
  have standing := sound.standing c (mem_of_getElem? at_i)
  have newer := standing.newer (by rw [at_]; rfl)
  have going : Standing s.file { c with pc := .executing } :=
    ⟨nofun, fun _ => newer, nofun, nofun⟩
  have above (m : UInt64) (h : ∃ n, persisted s.file = some n ∧ m ≤ n) : m < c.sequence := by
    obtain ⟨n, hn, le⟩ := h
    obtain ⟨n', hn', lt⟩ := newer
    cases hn.symm.trans hn'
    exact UInt64.lt_of_le_of_lt le lt
  exact {
    mutex := mutex_move sound at_i h
    lock := lock_move sound at_i h
    exclusive := exclusive_move sound apart at_i (.invoked at_)
    standing := fun _ member => standing_set sound.standing going member
    initial := sound.initial
    committed := fun m member => by
      rcases mem_append.mp member with old | new
      · exact sound.committed m old
      · cases mem_singleton.mp new
    invoked := fun earlier sequence later split => by
      rcases event_split split with ⟨same, rfl⟩ | ⟨later', split⟩
      · cases same
        exact ⟨fun m member => above m (sound.committed m member),
          fun m hm => above m (sound.initial m hm)⟩
      · exact sound.invoked earlier sequence later' split
    distinct := fun sequence =>
      alone_set (sound.distinct sequence) at_i fun both => nomatch both.2 }

/-- A call that replaces the file puts a newer sequence in place. -/
theorem grows_replaced {node : Node} (sound : Sound file s) (at_i : s.calls[i]? = some c)
    (at_ : c.pc = .replacing node) (m : UInt64) (h : persisted s.file = some m) :
    persisted (some node) = some c.sequence ∧ m < c.sequence := by
  have standing := sound.standing c (mem_of_getElem? at_i)
  obtain ⟨m', hm, newer⟩ := standing.newer (by rw [at_]; rfl)
  cases hm.symm.trans h
  exact ⟨persisted_saved (standing.ready node at_), newer⟩

theorem sound_replaced {node : Node} (sound : Sound file s)
    (apart : separate s (.step i fails) = true) (at_i : s.calls[i]? = some c)
    (at_ : c.pc = .replacing node)
    (h : s.next c fails = some ⟨.syncing, some node, s.events ++ [.committed c.sequence]⟩) :
    Sound file ⟨some node, s.calls.set i { c with pc := .syncing },
      s.events ++ [.committed c.sequence]⟩ := by
  have inside : c.pc.inSection = true := by rw [at_]; rfl
  have saved := persisted_saved ((sound.standing c (mem_of_getElem? at_i)).ready node at_)
  have grows (m : UInt64) (h : persisted s.file = some m) :
      ∃ n, persisted (some node) = some n ∧ m ≤ n :=
    ⟨c.sequence, saved, UInt64.le_of_lt (grows_replaced sound at_i at_ m h).2⟩
  have reached (m' : UInt64) (h : ∃ n, persisted s.file = some n ∧ m' ≤ n) :
      ∃ n, persisted (some node) = some n ∧ m' ≤ n := by
    obtain ⟨n, hn, le⟩ := h
    obtain ⟨n', hn', le'⟩ := grows n hn
    exact ⟨n', hn', UInt64.le_trans le le'⟩
  exact {
    mutex := mutex_move sound at_i h
    lock := lock_move sound at_i h
    exclusive := exclusive_move sound apart at_i (.replaced at_)
    standing := fun x member => by
      obtain ⟨j, at_j⟩ := mem_iff_getElem?.mp member
      rcases Cells.at_set at_j with ⟨-, rfl⟩ | ⟨other, at_j⟩
      · exact ⟨nofun, nofun, nofun, fun _ => ⟨c.sequence, saved, UInt64.le_refl _⟩⟩
      · exact (sound.standing x (mem_of_getElem? at_j)).grown
          (sound.exclusive.out at_i inside other at_j) grows
    initial := fun m' hm' => reached m' (sound.initial m' hm')
    committed := fun m' member => by
      rcases mem_append.mp member with old | new
      · exact reached m' (sound.committed m' old)
      · cases mem_singleton.mp new
        exact ⟨c.sequence, saved, UInt64.le_refl _⟩
    invoked := fun earlier sequence later split => by
      rcases event_split split with ⟨same, -⟩ | ⟨later', split⟩
      · cases same
      · exact sound.invoked earlier sequence later' split
    distinct := fun sequence => by
      refine alone_set (sound.distinct sequence) at_i fun both => .inr fun j d _ at_j earlier => ?_
      -- Whoever has committed the sequence before has left the file with it or a newer one.
      obtain ⟨n, hn, le⟩ := (sound.standing d (mem_of_getElem? at_j)).done earlier.2
      rw [earlier.1, ← both.1] at le
      exact UInt64.not_le.mpr (grows_replaced sound at_i at_ n hn).2 le }

end Move

theorem sound_step (sound : Sound file s) (apart : separate s a = true)
    (h : step s a = some s') : Sound file s' := by
  cases a with
  | call store _ sequence =>
    cases h
    exact {
      mutex := fun store => alone_push (sound.mutex store) fun both => nomatch both.2
      lock := alone_push sound.lock (by simp [Call.holdsLock, Pc.holdsMutex])
      exclusive := alone_push sound.exclusive (by rintro ⟨⟩)
      standing := fun x member => by
        rcases mem_append.mp member with old | new
        · exact sound.standing x old
        · cases mem_singleton.mp new
          exact ⟨nofun, nofun, nofun, nofun⟩
      initial := sound.initial
      committed := sound.committed
      invoked := sound.invoked
      distinct := fun sequence => alone_push (sound.distinct sequence) fun both => nomatch both.2 }
  | step =>
    obtain ⟨c, at_i, h⟩ := Option.bind_eq_some_iff.mp h
    obtain ⟨e, next, rfl⟩ := Option.map_eq_some_iff.mp h
    cases moved_of_next next with
    | quiet quiet => exact sound_quiet sound apart at_i next quiet
    | invoked at_ => exact sound_invoked sound apart at_i at_ next
    | replaced at_ => exact sound_replaced sound apart at_i at_ next

theorem sound_start (file : Option Node) : Sound file (start file) where
  mutex _ := alone_nil
  lock := alone_nil
  exclusive := alone_nil
  standing := (forall_mem_nil _)
  initial m hm := ⟨m, hm, UInt64.le_refl m⟩
  committed := nofun
  invoked earlier sequence later split := by
    cases earlier <;> cases split
  distinct _ := alone_nil

theorem grows_step (sound : Sound file s) (h : step s a = some s') (m : UInt64)
    (held : persisted s.file = some m) : ∃ n, persisted s'.file = some n ∧ m ≤ n := by
  cases a with
  | call =>
    cases h
    exact ⟨m, held, UInt64.le_refl m⟩
  | step =>
    obtain ⟨c, at_i, h⟩ := Option.bind_eq_some_iff.mp h
    obtain ⟨e, next, rfl⟩ := Option.map_eq_some_iff.mp h
    cases moved_of_next next with
    | replaced at_ =>
      obtain ⟨saved, newer⟩ := grows_replaced sound at_i at_ m held
      exact ⟨c.sequence, saved, UInt64.le_of_lt newer⟩
    | _ => exact ⟨m, held, UInt64.le_refl m⟩

end Runs

/-- In a run in which no call loads the state while one through another store is about to replace
it, the persisted sequence does not decrease, the executor is invoked with sequences that are newer
than all committed before and the initial one, and calls that succeed have different sequences. -/
theorem sequence_never_rolls_back (file : Option Node) (earlier later : List Action) (s t : System)
    (apart : Runs.Meets step (separate · · = true) (start file) (earlier ++ later))
    (before : Runs.exec step (start file) earlier = some s)
    (after : Runs.exec step s later = some t) :
    (∀ m, persisted s.file = some m → ∃ n, persisted t.file = some n ∧ m ≤ n) ∧
    (∀ events sequence rest, t.events = events ++ .invoked sequence :: rest →
      (∀ m, .committed m ∈ events → m < sequence) ∧ ∀ m, persisted file = some m → m < sequence) ∧
    (∀ (i j : Nat) c d, t.calls[i]? = some c → t.calls[j]? = some d →
      c.pc = .returned (.ok ()) → d.pc = .returned (.ok ()) → c.sequence = d.sequence → i = j) := by
  obtain ⟨apartBefore, apartAfter⟩ := meets_append before apart
  have sound : Sound file s := exec_invariant (Sound file)
    (fun _ _ _ held apart moved => sound_step held apart moved) (sound_start file) apartBefore
    before
  have kept (m : UInt64) (held : persisted s.file = some m) :
      Sound file t ∧ ∃ n, persisted t.file = some n ∧ m ≤ n :=
    exec_invariant (fun t => Sound file t ∧ ∃ n, persisted t.file = some n ∧ m ≤ n)
      (fun _ _ _ ⟨held, n, hn, le⟩ apart moved => by
        obtain ⟨n', hn', le'⟩ := grows_step held moved n hn
        exact ⟨sound_step held apart moved, n', hn', UInt64.le_trans le le'⟩)
      ⟨sound, m, held, UInt64.le_refl m⟩ apartAfter after
  have last : Sound file t := exec_invariant (Sound file)
    (fun _ _ _ held apart moved => sound_step held apart moved) sound apartAfter after
  refine ⟨fun m held => (kept m held).2, last.invoked, fun i j c d at_i at_j cdone ddone same => ?_⟩
  exact last.distinct d.sequence i j c d at_i at_j ⟨same, by rw [cdone]; rfl⟩
    ⟨rfl, by rw [ddone]; rfl⟩

section Sample

def steps (i n : Nat) : List Action := replicate n (.step i false)

/-- One store applies an installer with the sequence 5, and then another one advances to 7. -/
theorem sequence_never_rolls_back_seven :
    ∃ s t, Runs.exec step (start none) (.call 0 .applyInstaller 5 :: steps 0 9) = some s ∧
      Runs.exec step s (.call 1 .advance 7 :: steps 1 7) = some t ∧
      persisted s.file = some 5 ∧ t.events = [.invoked 5, .committed 5, .committed 7] ∧
      ∃ n, persisted t.file = some n ∧ 5 ≤ n := by
  have run : (exec step (start none) (.call 0 .applyInstaller 5 :: steps 0 9)).any (fun s =>
      decide (persisted s.file = some 5) &&
        (exec step s (.call 1 .advance 7 :: steps 1 7)).any fun t =>
          decide (t.events = [.invoked 5, .committed 5, .committed 7])) = true := by
    decide +kernel
  obtain ⟨s, before, run⟩ := (Option.any_eq_true _ _).mp run
  obtain ⟨five, run⟩ := (Bool.and_eq_true _ _).mp run
  obtain ⟨t, after, events⟩ := (Option.any_eq_true _ _).mp run
  refine ⟨s, t, before, after, of_decide_eq_true five, of_decide_eq_true events, ?_⟩
  exact (sequence_never_rolls_back none (.call 0 .applyInstaller 5 :: steps 0 9)
    (.call 1 .advance 7 :: steps 1 7) s t (by decide +kernel) before after).1 5
    (of_decide_eq_true five)

/-- The installer with the sequence 5 is admitted. Before it runs, `Advance` through another store
commits 7. -/
def overtaken : List Action :=
  .call 0 .applyInstaller 5 :: steps 0 4 ++ .call 1 .advance 7 :: steps 1 6

theorem sequence_rolled_back : ∃ s t, Runs.exec step (start none) overtaken = some s ∧
      Runs.exec step s (steps 0 5) = some t ∧
      persisted s.file = some 7 ∧ persisted t.file = some 5 ∧
      t.events = [.committed 7, .invoked 5, .committed 5] := by
  have run : (exec step (start none) overtaken).any (fun s =>
      decide (persisted s.file = some 7) && (exec step s (steps 0 5)).any fun t =>
        decide (persisted t.file = some 5) &&
          decide (t.events = [.committed 7, .invoked 5, .committed 5])) = true := by
    decide +kernel
  obtain ⟨s, before, run⟩ := (Option.any_eq_true _ _).mp run
  obtain ⟨seven, run⟩ := (Bool.and_eq_true _ _).mp run
  obtain ⟨t, after, run⟩ := (Option.any_eq_true _ _).mp run
  obtain ⟨five, events⟩ := (Bool.and_eq_true _ _).mp run
  exact ⟨s, t, before, after, of_decide_eq_true seven, of_decide_eq_true five,
    of_decide_eq_true events⟩

end Sample

end UpdateRollback
