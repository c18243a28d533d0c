import WeDecent.Library.Runs
import WeDecent.StreamRegistry
import Mathlib.Data.List.Perm.Subperm

/-!
# Admission of streams on one parent

The client decides by its own tables whether to send a StreamOpen
(`OpenTerminalStream`, `openFileStream`), the server decides by its registry
and its two live counters whether to admit it (`typedTerminalStreamSet.reserve`,
`typedFileServer.reserve`). Here every earlier open and close has completed on
both sides, so the two policies meet on settled tables.
-/

namespace Admission

open List StreamProtocol StreamRegistry

def managedMuxMaxStreams : Nat := 8
def managedMuxMaxAllocated : Nat := 256
def managedMuxMaxFileStreams : Nat := 4

/-- `terminals` is `typedTerminalStreamSet.open`, `files` is `typedFileServer.active`. -/
structure ServerTables where
  registry : Registry
  terminals : Nat
  files : Nat

namespace ServerTables

/-- `typedTerminalStreamSet.reserve`: stream 1 keeps one of the eight slots. -/
def terminalReserve (t : ServerTables) (streamID : Nat) : Except RegistryError ServerTables :=
  if maxTerminalStreamsPerConnection - 1 ≤ t.terminals then .error .limit
  else match t.registry.reserve streamID .terminal with
    | .error e => .error e
    | .ok r => .ok { t with registry := r, terminals := t.terminals + 1 }

def terminalAccept (t : ServerTables) (streamID : Nat) : Except RegistryError ServerTables :=
  match t.registry.accept streamID .terminal with
  | .error e => .error e
  | .ok r => .ok { t with registry := r }

/-- `markClosed` and the locked part of `closeStream`. -/
def terminalClose (t : ServerTables) (streamID : Nat) : ServerTables :=
  match t.registry.close streamID .terminal with
  | .error _ => t
  | .ok r => { t with registry := r, terminals := t.terminals - 1 }

/-- `typedTerminalServer.open` up to its answer; `started` is the PTY's. -/
def terminalOpen (t : ServerTables) (streamID : Nat) (started : Bool) :
    Except RegistryError ServerTables :=
  match t.terminalReserve streamID with
  | .error e => .error e
  | .ok r => if started then r.terminalAccept streamID else .ok (r.terminalClose streamID)

/-- `typedFileServer.reserve`; `false` reports that the resource-limit
StreamError was sent instead, which leaves the parent alive. -/
def fileReserve (t : ServerTables) (streamID : Nat) (kind : StreamKind) :
    Except RegistryError (ServerTables × Bool) :=
  match t.registry.reserve streamID kind with
  | .error e => .error e
  | .ok r =>
    if maxFileStreamsPerConnection ≤ t.files then
      match r.close streamID kind with
      | .error _ => .ok ({ t with registry := r }, false)
      | .ok r' => .ok ({ t with registry := r' }, false)
    else .ok ({ t with registry := r, files := t.files + 1 }, true)

/-- `releaseReservation` and `closeChild`. -/
def fileClose (t : ServerTables) (streamID : Nat) (kind : StreamKind) : ServerTables :=
  match t.registry.close streamID kind with
  | .error _ => { t with files := t.files - 1 }
  | .ok r => { t with registry := r, files := t.files - 1 }

def fileActivate (t : ServerTables) (streamID : Nat) (kind : StreamKind) :
    Except RegistryError ServerTables :=
  match t.registry.accept streamID kind with
  | .error e => .error e
  | .ok r => .ok { t with registry := r }

/-- `openUpload` and `openDownload` up to their answer; `granted` says whether
authorization and storage allowed the transfer. -/
def fileOpen (t : ServerTables) (streamID : Nat) (kind : StreamKind) (granted : Bool) :
    Except RegistryError (ServerTables × Bool) :=
  match t.fileReserve streamID kind with
  | .error e => .error e
  | .ok (r, false) => .ok (r, false)
  | .ok (r, true) =>
    if granted then
      match r.fileActivate streamID kind with
      | .error e => .error e
      | .ok r' => .ok (r', true)
    else .ok (r.fileClose streamID kind, false)

end ServerTables

/-- `streams` and `files` are the key sets of the two Go maps. -/
structure ClientTables where
  streams : List Nat
  files : List (Nat × StreamKind)
  nextStream : Nat
  allocated : Nat

namespace ClientTables

/-- The search loop for an ID that is not in use. -/
def freeID (streams : List Nat) : Nat → Nat → Nat
  | 0, id => id
  | fuel + 1, id => if id ∈ streams then freeID streams fuel (id + 1) else id

def nextID (c : ClientTables) : Nat :=
  freeID c.streams c.streams.length (max c.nextStream minTypedStreamID)

def allocate (c : ClientTables) : Nat × ClientTables :=
  (c.nextID, { c with
    streams := c.nextID :: c.streams
    nextStream := c.nextID + 1
    allocated := c.allocated + 1 })

/-- `OpenTerminalStream` up to its StreamOpen; `none` is a local refusal. -/
def openTerminalStream (c : ClientTables) : Option (Nat × ClientTables) :=
  if managedMuxMaxStreams ≤ c.streams.length ∨ managedMuxMaxAllocated ≤ c.allocated then none
  else some c.allocate

def openFileStream (c : ClientTables) (kind : StreamKind) : Option (Nat × ClientTables) :=
  if managedMuxMaxFileStreams ≤ c.files.length ∨ managedMuxMaxAllocated ≤ c.allocated then none
  else some (c.nextID, { c.allocate.2 with files := (c.nextID, kind) :: c.files })

def removeChild (c : ClientTables) (id : Nat) : ClientTables :=
  { c with streams := c.streams.erase id }

def removeFile (c : ClientTables) (id : Nat) (kind : StreamKind) : ClientTables :=
  { c with streams := c.streams.erase id, files := c.files.erase (id, kind) }

/-- Terminals the client has open. -/
def liveTerminals (c : ClientTables) : Nat := c.streams.length - c.files.length

/-- The loop needs at most one turn for each ID in use from its start on. -/
theorem freeID_notMem (streams : List Nat) (fuel id : Nat)
    (enough : (streams.filter fun k => decide (id ≤ k)).length ≤ fuel) :
    freeID streams fuel id ∉ streams := by
  induction fuel generalizing id with
  | zero =>
    intro hmem
    have hin : id ∈ streams.filter fun k => decide (id ≤ k) := by
      rw [mem_filter]
      exact ⟨hmem, by simp⟩
    have := length_pos_of_mem hin
    omega
  | succ fuel ih =>
    unfold freeID
    split
    · rename_i hmem
      apply ih
      have shorter : ((streams.filter fun k => decide (id ≤ k)).filter
          fun k => decide (id + 1 ≤ k)).length <
            (streams.filter fun k => decide (id ≤ k)).length := by
        rw [length_filter_lt_length_iff_exists]
        exact ⟨id, mem_filter.mpr ⟨hmem, by simp⟩, by simp⟩
      have same : (streams.filter fun k => decide (id ≤ k)).filter
          (fun k => decide (id + 1 ≤ k)) = streams.filter fun k => decide (id + 1 ≤ k) := by
        rw [List.filter_filter]
        apply filter_congr
        intro k _
        by_cases h : id + 1 ≤ k
        · simp [h, Nat.le_of_succ_le h]
        · simp [h]
      rw [same] at shorter
      omega
    · assumption

/-- The ID a new stream gets is never one in use. -/
theorem nextID_notMem (c : ClientTables) : c.nextID ∉ c.streams :=
  freeID_notMem c.streams c.streams.length _ (length_filter_le _ _)

theorem le_freeID (streams : List Nat) (fuel id : Nat) : id ≤ freeID streams fuel id := by
  induction fuel generalizing id with
  | zero => exact Nat.le_refl _
  | succ fuel ih =>
    unfold freeID
    split
    · have := ih (id + 1)
      omega
    · exact Nat.le_refl _

theorem nextStream_le_nextID (c : ClientTables) : c.nextStream ≤ c.nextID :=
  Nat.le_trans (Nat.le_max_left _ _) (le_freeID _ _ _)

theorem minTypedStreamID_le_nextID (c : ClientTables) : minTypedStreamID ≤ c.nextID :=
  Nat.le_trans (Nat.le_max_right _ _) (le_freeID _ _ _)

end ClientTables

/-- One parent; `ended` is set when a StreamOpen is answered by
`errTypedStreamProtocol`. -/
structure Parent where
  client : ClientTables
  server : ServerTables
  ended : Bool

def initial : Parent where
  client := ⟨[], [], minTypedStreamID, 0⟩
  server := ⟨Registry.new, 0, 0⟩
  ended := false

inductive Act where
  | openTerminal (started : Bool)
  | openFile (kind : FileKind) (granted : Bool)
  | discardFile (kind : FileKind)
  | closeTerminal (id : Nat)
  | closeFile (id : Nat) (kind : FileKind)

/-- One open or close, carried out on both sides. `discardFile` is an
`openFileStream` whose envelope fails its own validation after the ID is taken. -/
def step (p : Parent) : Act → Option Parent
  | .openTerminal started =>
    if p.ended then none else
    match p.client.openTerminalStream with
    | none => some p
    | some (id, c) => match p.server.terminalOpen id started with
      | .error _ => some { p with client := c, ended := true }
      | .ok t => some { p with client := if started then c else c.removeChild id, server := t }
  | .openFile kind granted =>
    if p.ended then none else
    match p.client.openFileStream kind.kind with
    | none => some p
    | some (id, c) => match p.server.fileOpen id kind.kind granted with
      | .error _ => some { p with client := c, ended := true }
      | .ok (t, true) => some { p with client := c, server := t }
      | .ok (t, false) => some { p with client := c.removeFile id kind.kind, server := t }
  | .discardFile kind =>
    if p.ended then none else
    match p.client.openFileStream kind.kind with
    | none => some p
    | some (id, c) => some { p with client := c.removeFile id kind.kind }
  | .closeTerminal id =>
    if p.ended ∨ id ∉ p.client.streams ∨ id ∈ p.client.files.map Prod.fst then none
    else some { p with client := p.client.removeChild id, server := p.server.terminalClose id }
  | .closeFile id kind =>
    if p.ended ∨ (id, kind.kind) ∉ p.client.files then none
    else some { p with
      client := p.client.removeFile id kind.kind
      server := p.server.fileClose id kind.kind }

/-- IDs are handed out in increasing order and each one once. -/
structure Numbered (c : ClientTables) (t : ServerTables) : Prop where
  allocated_below : ∀ id ∈ c.streams, id < c.nextStream
  streams_nodup : c.streams.Nodup
  unused : ∀ id, c.nextStream ≤ id → t.registry.get id = none
  size : t.registry.states.length ≤ c.allocated

/-- What the two sides know of each other between operations. -/
structure Agree (c : ClientTables) (t : ServerTables) : Prop extends Numbered c t where
  files_nodup : (c.files.map Prod.fst).Nodup
  terminals : t.terminals + c.files.length = c.streams.length
  files : t.files = c.files.length
  file_live : ∀ id kind, (id, kind) ∈ c.files →
    id ∈ c.streams ∧ t.registry.get id = some ⟨kind, .opened⟩
  terminal_live : ∀ id ∈ c.streams, id ∉ c.files.map Prod.fst →
    t.registry.get id = some ⟨.terminal, .opened⟩

theorem agree_initial : Agree initial.client initial.server := by
  refine ⟨⟨?_, nodup_nil, fun _ _ => rfl, Nat.le_refl _⟩, nodup_nil, rfl, rfl, ?_, ?_⟩
  · intro id hid
    cases hid
  · intro id kind hmem
    cases hmem
  · intro id hid
    cases hid

section Opening

variable {c : ClientTables} {t : ServerTables} {r : Registry}

theorem Agree.liveTerminals_eq (agree : Agree c t) : c.liveTerminals = t.terminals := by
  have := agree.terminals
  unfold ClientTables.liveTerminals
  omega

/-- The registry has room for every ID the client may still allocate. -/
theorem Numbered.registry_admits (numbered : Numbered c t)
    (room : c.allocated < managedMuxMaxAllocated) (kind : StreamKind) (named : kind ≠ .empty) :
    ∃ r, t.registry.reserve c.nextID kind = .ok r := by
  rw [Registry.reserve_admits named]
  refine ⟨c.minTypedStreamID_le_nextID, numbered.unused _ c.nextStream_le_nextID, ?_⟩
  have := numbered.size
  unfold managedMuxMaxAllocated at room
  unfold maxTypedStreamIDsPerConnection
  omega

variable (grown : r.states.length ≤ t.registry.states.length + 1)
  (others : ∀ id, id ≠ c.nextID → r.get id = t.registry.get id)

include others in
theorem get_of_mem_streams {id : Nat} (hid : id ∈ c.streams) : r.get id = t.registry.get id := by
  apply others
  rintro rfl
  exact c.nextID_notMem hid

include grown others

/-- `streams` is what is left in use of the old IDs and the new one. -/
theorem Numbered.advance (numbered : Numbered c t) {streams : List Nat} (nodup : streams.Nodup)
    (within : ∀ id ∈ streams, id = c.nextID ∨ id ∈ c.streams) (files : List (Nat × StreamKind))
    (terminals active : Nat) :
    Numbered ⟨streams, files, c.nextID + 1, c.allocated + 1⟩ ⟨r, terminals, active⟩ := by
  have hnext := c.nextStream_le_nextID
  refine ⟨?_, nodup, ?_, ?_⟩
  · intro id hid
    dsimp only
    rcases within id hid with rfl | hold
    · omega
    · have := numbered.allocated_below id hold
      omega
  · intro id hid
    dsimp only at hid
    rw [others id (by omega)]
    exact numbered.unused id (by omega)
  · have := numbered.size
    dsimp only
    omega

/-- The ID was allocated and is in use on neither side. -/
theorem Agree.spend (agree : Agree c t) :
    Agree ⟨c.streams, c.files, c.nextID + 1, c.allocated + 1⟩ ⟨r, t.terminals, t.files⟩ := by
  refine ⟨agree.advance grown others agree.streams_nodup (fun _ => .inr) _ _ _,
    agree.files_nodup, agree.terminals, agree.files, ?_, ?_⟩
  · intro id kind hmem
    obtain ⟨hid, hget⟩ := agree.file_live id kind hmem
    exact ⟨hid, (get_of_mem_streams others hid).trans hget⟩
  · intro id hid hfile
    exact (get_of_mem_streams others hid).trans (agree.terminal_live id hid hfile)

theorem Agree.add_terminal (agree : Agree c t)
    (opened : r.get c.nextID = some ⟨.terminal, .opened⟩) :
    Agree ⟨c.nextID :: c.streams, c.files, c.nextID + 1, c.allocated + 1⟩
      ⟨r, t.terminals + 1, t.files⟩ := by
  have nodup := nodup_cons.mpr ⟨c.nextID_notMem, agree.streams_nodup⟩
  refine ⟨agree.advance grown others nodup (fun _ => mem_cons.mp) _ _ _,
    agree.files_nodup, ?_, agree.files, ?_, ?_⟩
  · have := agree.terminals
    simp only [length_cons]
    omega
  · intro id kind hmem
    obtain ⟨hid, hget⟩ := agree.file_live id kind hmem
    exact ⟨mem_cons_of_mem _ hid, (get_of_mem_streams others hid).trans hget⟩
  · intro id hid hfile
    rcases mem_cons.mp hid with rfl | hold
    · exact opened
    · exact (get_of_mem_streams others hold).trans (agree.terminal_live id hold hfile)

theorem Agree.add_file (agree : Agree c t) {kind : StreamKind}
    (opened : r.get c.nextID = some ⟨kind, .opened⟩) :
    Agree ⟨c.nextID :: c.streams, (c.nextID, kind) :: c.files, c.nextID + 1, c.allocated + 1⟩
      ⟨r, t.terminals, t.files + 1⟩ := by
  have nodup := nodup_cons.mpr ⟨c.nextID_notMem, agree.streams_nodup⟩
  have fresh : c.nextID ∉ c.files.map Prod.fst := by
    intro hmem
    obtain ⟨⟨id, k⟩, hk, rfl⟩ := List.mem_map.mp hmem
    exact c.nextID_notMem (agree.file_live _ k hk).1
  refine ⟨agree.advance grown others nodup (fun _ => mem_cons.mp) _ _ _,
    nodup_cons.mpr ⟨fresh, agree.files_nodup⟩, ?_, ?_, ?_, ?_⟩
  · have := agree.terminals
    simp only [length_cons]
    omega
  · have := agree.files
    simp only [length_cons]
    omega
  · intro id k hmem
    rcases mem_cons.mp hmem with heq | hold
    · obtain ⟨rfl, rfl⟩ := Prod.mk.inj heq
      exact ⟨mem_cons_self, opened⟩
    · obtain ⟨hid, hget⟩ := agree.file_live id k hold
      exact ⟨mem_cons_of_mem _ hid, (get_of_mem_streams others hid).trans hget⟩
  · intro id hid hfile
    rw [map_cons, mem_cons, not_or] at hfile
    rcases mem_cons.mp hid with rfl | hold
    · exact absurd rfl hfile.1
    · exact (get_of_mem_streams others hold).trans (agree.terminal_live id hold hfile.2)

end Opening

section Closing

variable {c : ClientTables} {t : ServerTables} (agree : Agree c t)

include agree

/-- Erasing a live ID on the client and closing its record keeps the numbering. -/
theorem Agree.numbered_close {id : Nat} (hid : id ∈ c.streams) (record : Record)
    (files : List (Nat × StreamKind)) (terminals active : Nat) :
    Numbered { c with streams := c.streams.erase id, files := files }
      ⟨t.registry.put id record, terminals, active⟩ := by
  refine ⟨?_, agree.streams_nodup.erase id, ?_, ?_⟩
  · intro k hk
    exact agree.allocated_below k (mem_of_mem_erase hk)
  · intro k hk
    have hlt := agree.allocated_below id hid
    dsimp only at hk
    rw [Registry.get_put, if_neg (by omega)]
    exact agree.unused k hk
  · rw [Registry.put_length]
    exact agree.size

theorem Agree.close_terminal {id : Nat} (hid : id ∈ c.streams)
    (terminal : id ∉ c.files.map Prod.fst) :
    Agree (c.removeChild id) (t.terminalClose id) := by
  have hget := agree.terminal_live id hid terminal
  have other : ∀ k, k ≠ id → (t.registry.put id ⟨.terminal, .closed⟩).get k = t.registry.get k := by
    intro k hk
    rw [Registry.get_put, if_neg hk]
  rw [ServerTables.terminalClose, Registry.close_ok hget (by decide)]
  refine ⟨agree.numbered_close hid _ _ _ _, agree.files_nodup, ?_, agree.files, ?_, ?_⟩
  · have hcount := agree.terminals
    have herase := length_erase_of_mem hid
    have hfiles : c.files.length < c.streams.length := by
      have hsub : (id :: c.files.map Prod.fst).Subperm c.streams := by
        apply subperm_of_subset
        · exact nodup_cons.mpr ⟨terminal, agree.files_nodup⟩
        intro k hk
        rcases mem_cons.mp hk with rfl | hk
        · exact hid
        · obtain ⟨⟨key, kind⟩, hmem, rfl⟩ := List.mem_map.mp hk
          exact (agree.file_live key kind hmem).1
      have := hsub.length_le
      rw [length_cons, length_map] at this
      omega
    simp only [ClientTables.removeChild]
    omega
  · intro k kind hmem
    obtain ⟨hk, hrec⟩ := agree.file_live k kind hmem
    have hne : k ≠ id := by
      rintro rfl
      exact terminal (List.mem_map.mpr ⟨_, hmem, rfl⟩)
    refine ⟨?_, (other k hne).trans hrec⟩
    exact (mem_erase_of_ne hne).mpr hk
  · intro k hk hfile
    obtain ⟨hne, hold⟩ := agree.streams_nodup.mem_erase_iff.mp hk
    exact (other k hne).trans (agree.terminal_live k hold hfile)

theorem Agree.close_file {id : Nat} {kind : StreamKind} (hmem : (id, kind) ∈ c.files) :
    Agree (c.removeFile id kind) (t.fileClose id kind) := by
  obtain ⟨hid, hget⟩ := agree.file_live id kind hmem
  have other : ∀ k, k ≠ id → (t.registry.put id ⟨kind, .closed⟩).get k = t.registry.get k := by
    intro k hk
    rw [Registry.get_put, if_neg hk]
  have pairs : c.files.Nodup := agree.files_nodup.of_map
  -- the erased pair is the only one with its key
  have erased : ∀ k kd, (k, kd) ∈ c.files.erase (id, kind) → k ≠ id ∧ (k, kd) ∈ c.files := by
    intro k kd hk
    obtain ⟨hne, hold⟩ := pairs.mem_erase_iff.mp hk
    refine ⟨?_, hold⟩
    rintro rfl
    exact hne (inj_on_of_nodup_map agree.files_nodup hold hmem rfl)
  rw [ServerTables.fileClose, Registry.close_ok hget (by decide)]
  have hlen := length_erase_of_mem hmem
  have hpos := length_pos_of_mem hmem
  refine ⟨agree.numbered_close hid _ _ _ _, ?_, ?_, ?_, ?_, ?_⟩
  · exact agree.files_nodup.sublist (erase_sublist.map _)
  · have := agree.terminals
    have := length_erase_of_mem hid
    simp only [ClientTables.removeFile]
    omega
  · have := agree.files
    simp only [ClientTables.removeFile]
    omega
  · intro k kd hk
    obtain ⟨hne, hold⟩ := erased k kd hk
    obtain ⟨hin, hrec⟩ := agree.file_live k kd hold
    exact ⟨(mem_erase_of_ne hne).mpr hin, (other k hne).trans hrec⟩
  · intro k hk hfile
    obtain ⟨hne, hold⟩ := agree.streams_nodup.mem_erase_iff.mp hk
    refine (other k hne).trans (agree.terminal_live k hold ?_)
    intro hkey
    obtain ⟨⟨key, kd⟩, hpair, rfl⟩ := List.mem_map.mp hkey
    apply hfile
    refine List.mem_map.mpr ⟨(key, kd), ?_, rfl⟩
    apply pairs.mem_erase_iff.mpr
    refine ⟨?_, hpair⟩
    intro heq
    exact hne (Prod.mk.inj heq).1

end Closing

theorem openTerminalStream_eq_some {c c' : ClientTables} {id : Nat}
    (h : c.openTerminalStream = some (id, c')) :
    id = c.nextID ∧ c' = c.allocate.2 ∧ c.allocated < managedMuxMaxAllocated := by
  unfold ClientTables.openTerminalStream at h
  split at h
  · cases h
  · rename_i limits
    obtain ⟨rfl, rfl⟩ := Prod.mk.inj (Option.some.inj h)
    exact ⟨rfl, rfl, by omega⟩

theorem openFileStream_eq_some {c c' : ClientTables} {id : Nat} {kind : StreamKind}
    (h : c.openFileStream kind = some (id, c')) :
    id = c.nextID ∧ c' = { c.allocate.2 with files := (c.nextID, kind) :: c.files } ∧
      c.files.length < managedMuxMaxFileStreams ∧ c.allocated < managedMuxMaxAllocated := by
  unfold ClientTables.openFileStream at h
  split at h
  · cases h
  · rename_i limits
    obtain ⟨rfl, rfl⟩ := Prod.mk.inj (Option.some.inj h)
    exact ⟨rfl, rfl, by omega, by omega⟩

theorem fileKind_ne_empty (kind : FileKind) : kind.kind ≠ .empty := by
  cases kind with
  | upload => decide
  | download => decide

section Operations

variable {c : ClientTables} {t : ServerTables} (agree : Agree c t)
  (room : c.allocated < managedMuxMaxAllocated)

include agree room

/-- Where the policies differ: the server keeps a slot for stream 1. -/
theorem Agree.terminalReserve_iff : (∃ t', t.terminalReserve c.nextID = .ok t') ↔
      c.liveTerminals < maxTerminalStreamsPerConnection - 1 := by
  obtain ⟨r, hr⟩ := agree.registry_admits room .terminal (by decide)
  rw [agree.liveTerminals_eq, ServerTables.terminalReserve, hr]
  by_cases full : maxTerminalStreamsPerConnection - 1 ≤ t.terminals
  · rw [if_pos full]
    constructor
    · rintro ⟨t', ht⟩
      cases ht
    · intro spare
      omega
  · rw [if_neg full]
    exact ⟨fun _ => by omega, fun _ => ⟨_, rfl⟩⟩

theorem Agree.terminalOpen (spare : c.liveTerminals < maxTerminalStreamsPerConnection - 1)
    (started : Bool) :
    ∃ t', t.terminalOpen c.nextID started = .ok t' ∧
      Agree (if started then c.allocate.2 else c.allocate.2.removeChild c.nextID) t' := by
  obtain ⟨r, hr⟩ := agree.registry_admits room .terminal (by decide)
  rw [agree.liveTerminals_eq] at spare
  have opening : r.get c.nextID = some ⟨.terminal, .opening⟩ := by
    rw [Registry.get_reserve hr, if_pos rfl]
  have grown := fun record => Nat.le_of_eq (Registry.put_reserve_length hr record)
  have others := Registry.get_put_reserve_of_ne hr
  rw [ServerTables.terminalOpen, ServerTables.terminalReserve, if_neg (by omega), hr]
  cases started with
  | true =>
    simp only [ServerTables.terminalAccept, Registry.accept_ok opening, if_true]
    refine ⟨_, rfl, agree.add_terminal (grown _) (others _) ?_⟩
    rw [Registry.get_put_reserve hr, if_pos rfl]
  | false =>
    simp only [ServerTables.terminalClose, Registry.close_ok opening (by decide),
      Bool.false_eq_true, if_false]
    refine ⟨_, rfl, ?_⟩
    simp only [ClientTables.removeChild, ClientTables.allocate, erase_cons_head]
    exact agree.spend (grown _) (others _)

/-- File streams agree without a condition: both sides allow four. -/
theorem Agree.fileReserve (kind : FileKind) (fewer : c.files.length < managedMuxMaxFileStreams) :
    ∃ r, t.registry.reserve c.nextID kind.kind = .ok r ∧
      t.fileReserve c.nextID kind.kind = .ok (⟨r, t.terminals, t.files + 1⟩, true) := by
  obtain ⟨r, hr⟩ := agree.registry_admits room kind.kind (fileKind_ne_empty kind)
  have hfiles := agree.files
  unfold managedMuxMaxFileStreams at fewer
  refine ⟨r, hr, ?_⟩
  rw [ServerTables.fileReserve, hr]
  have below : ¬ maxFileStreamsPerConnection ≤ t.files := by
    unfold maxFileStreamsPerConnection
    omega
  simp [if_neg below]

theorem Agree.fileOpen (kind : FileKind) (fewer : c.files.length < managedMuxMaxFileStreams)
    (granted : Bool) :
    ∃ t', t.fileOpen c.nextID kind.kind granted = .ok (t', granted) ∧
      Agree (if granted then { c.allocate.2 with files := (c.nextID, kind.kind) :: c.files }
        else ⟨c.streams, c.files, c.nextID + 1, c.allocated + 1⟩) t' := by
  obtain ⟨r, hr, hres⟩ := agree.fileReserve room kind fewer
  have opening : r.get c.nextID = some ⟨kind.kind, .opening⟩ := by
    rw [Registry.get_reserve hr, if_pos rfl]
  have grown := fun record => Nat.le_of_eq (Registry.put_reserve_length hr record)
  have others := Registry.get_put_reserve_of_ne hr
  rw [ServerTables.fileOpen, hres]
  cases granted with
  | true =>
    simp only [ServerTables.fileActivate, Registry.accept_ok opening, if_true]
    refine ⟨_, rfl, agree.add_file (grown _) (others _) ?_⟩
    rw [Registry.get_put_reserve hr, if_pos rfl]
  | false =>
    simp only [ServerTables.fileClose, Registry.close_ok opening (by decide),
      Bool.false_eq_true, if_false]
    exact ⟨_, rfl, agree.spend (grown _) (others _)⟩

end Operations

theorem removeFile_openFile (c : ClientTables) (kind : StreamKind) :
    ClientTables.removeFile { c.allocate.2 with files := (c.nextID, kind) :: c.files }
      c.nextID kind = ⟨c.streams, c.files, c.nextID + 1, c.allocated + 1⟩ := by
  simp [ClientTables.removeFile, ClientTables.allocate]

/-- A terminal is opened only while the server has a slot for it. -/
def SpareSlot (p : Parent) : Act → Prop
  | .openTerminal _ => p.client.liveTerminals < maxTerminalStreamsPerConnection - 1
  | _ => True

/-- A live parent has agreeing tables. -/
def Settled (p : Parent) : Prop := p.ended = false → Agree p.client p.server

variable {p p' : Parent}

section

variable (agree : Agree p.client p.server)

include agree

theorem step_openTerminal_spare {started : Bool} (spare :
    p.client.liveTerminals < maxTerminalStreamsPerConnection - 1)
    (hs : step p (.openTerminal started) = some p') :
    p'.ended = p.ended ∧ Agree p'.client p'.server := by
  simp only [step] at hs
  split at hs
  · cases hs
  split at hs
  · cases hs
    exact ⟨rfl, agree⟩
  rename_i hopen
  obtain ⟨rfl, rfl, room⟩ := openTerminalStream_eq_some hopen
  obtain ⟨t', ht, hagree⟩ := agree.terminalOpen room spare started
  rw [ht] at hs
  cases hs
  exact ⟨rfl, hagree⟩

theorem step_openFile {kind : FileKind} {granted : Bool} (hs : step p
    (.openFile kind granted) = some p') :
    p'.ended = p.ended ∧ Agree p'.client p'.server := by
  simp only [step] at hs
  split at hs
  · cases hs
  split at hs
  · cases hs
    exact ⟨rfl, agree⟩
  rename_i hopen
  obtain ⟨rfl, rfl, fewer, room⟩ := openFileStream_eq_some hopen
  obtain ⟨t', ht, hagree⟩ := agree.fileOpen room kind fewer granted
  rw [ht] at hs
  cases granted with
  | true =>
    cases hs
    exact ⟨rfl, hagree⟩
  | false =>
    simp only [removeFile_openFile] at hs
    cases hs
    exact ⟨rfl, hagree⟩

theorem step_discardFile {kind : FileKind} (hs : step p (.discardFile kind) = some p') :
    p'.ended = p.ended ∧ Agree p'.client p'.server := by
  simp only [step] at hs
  split at hs
  · cases hs
  split at hs
  · cases hs
    exact ⟨rfl, agree⟩
  rename_i hopen
  obtain ⟨rfl, rfl, -, -⟩ := openFileStream_eq_some hopen
  rw [removeFile_openFile] at hs
  cases hs
  exact ⟨rfl, agree.spend (Nat.le_succ _) (fun _ _ => rfl)⟩

theorem step_close : (∀ id, step p (.closeTerminal id) = some p' →
      p'.ended = p.ended ∧ Agree p'.client p'.server) ∧
    (∀ id kind, step p (.closeFile id kind) = some p' →
      p'.ended = p.ended ∧ Agree p'.client p'.server) := by
  constructor
  · intro id hs
    simp only [step] at hs
    split at hs
    · cases hs
    · rename_i live
      cases hs
      rw [not_or, not_or, not_not] at live
      exact ⟨rfl, agree.close_terminal live.2.1 live.2.2⟩
  · intro id kind hs
    simp only [step] at hs
    split at hs
    · cases hs
    · rename_i live
      cases hs
      rw [not_or, not_not] at live
      exact ⟨rfl, agree.close_file live.2⟩

/-- No operation but the opening of a terminal can end the parent. -/
theorem step_spare {a : Act} (spare : SpareSlot p a) (hs : step p a = some p') :
    p'.ended = p.ended ∧ Agree p'.client p'.server := by
  cases a with
  | openTerminal => exact step_openTerminal_spare agree spare hs
  | openFile => exact step_openFile agree hs
  | discardFile => exact step_discardFile agree hs
  | closeTerminal id => exact (step_close agree).1 id hs
  | closeFile id kind => exact (step_close agree).2 id kind hs

end

theorem step_alive {a : Act} (hs : step p a = some p') : p.ended = false := by
  by_contra hended
  have htrue : p.ended = true := by simpa using hended
  cases a with
  | _ => simp [step, htrue] at hs

/-- A terminal opened with no slot to spare either is refused by the client or ends the parent. -/
theorem step_openTerminal_full {started : Bool} (agree : Agree p.client p.server)
    (full : ¬ p.client.liveTerminals < maxTerminalStreamsPerConnection - 1)
    (hs : step p (.openTerminal started) = some p') : p' = p ∨ p'.ended = true := by
  simp only [step] at hs
  split at hs
  · cases hs
  split at hs
  · cases hs
    exact .inl rfl
  rename_i hopen
  obtain ⟨rfl, rfl, room⟩ := openTerminalStream_eq_some hopen
  have refused := mt (agree.terminalReserve_iff room).mp full
  cases hres : p.server.terminalReserve p.client.nextID with
  | error =>
    simp only [ServerTables.terminalOpen, hres] at hs
    cases hs
    exact .inr rfl
  | ok t' => exact absurd ⟨t', hres⟩ refused

theorem step_settled {a : Act} (settled : Settled p) (hs : step p a = some p') : Settled p' := by
  have agree := settled (step_alive hs)
  intro hended
  by_cases spare : SpareSlot p a
  · exact (step_spare agree spare hs).2
  cases a with
  | openTerminal =>
    rcases step_openTerminal_full agree spare hs with rfl | hend
    · exact agree
    · rw [hended] at hend
      cases hend
  | _ => exact absurd trivial spare

/-- After every history, a terminal the client lets through is admitted exactly
when fewer than seven terminals are live, a file always; and a history that
opens terminals only then never ends the parent. -/
theorem admission_agreement (acts : List Act) (run : Runs.exec step initial acts = some p) :
    (Runs.Meets step SpareSlot initial acts → p.ended = false) ∧
    (p.ended = false → (∀ id c, p.client.openTerminalStream = some (id, c) →
        ((∃ t, p.server.terminalReserve id = .ok t) ↔
          p.client.liveTerminals < maxTerminalStreamsPerConnection - 1)) ∧
      (∀ (kind : FileKind) id c, p.client.openFileStream kind.kind = some (id, c) →
        ∃ t, p.server.fileReserve id kind.kind = .ok (t, true))) := by
  constructor
  · intro meets
    have kept := Runs.exec_invariant
      (fun q => q.ended = false ∧ Agree q.client q.server) ?_ ⟨rfl, agree_initial⟩ meets run
    · exact kept.1
    · intro q a q' hq spare hs
      obtain ⟨hend, hagree⟩ := step_spare hq.2 spare hs
      exact ⟨hend.trans hq.1, hagree⟩
  · intro alive
    have settled : Settled p := Runs.reachable_invariant Settled
      (fun _ _ _ => step_settled) (fun _ => agree_initial) ⟨acts, run⟩
    have agree := settled alive
    constructor
    · intro id c hopen
      obtain ⟨rfl, -, room⟩ := openTerminalStream_eq_some hopen
      exact agree.terminalReserve_iff room
    · intro kind id c hopen
      obtain ⟨rfl, -, fewer, room⟩ := openFileStream_eq_some hopen
      obtain ⟨r, -, hres⟩ := agree.fileReserve room kind fewer
      exact ⟨_, hres⟩

instance (p : Parent) (a : Act) : Decidable (SpareSlot p a) := by
  unfold SpareSlot
  split <;> infer_instance

/-- Terminals and files are opened and closed in turns. -/
def mixed : List Act :=
  [.openTerminal true, .openFile .upload true, .openTerminal true, .closeTerminal 2,
    .openFile .download true, .discardFile .upload, .closeFile 3 .upload, .openTerminal true]

theorem admission_agreement_mixed : ∃ p, Runs.exec step initial mixed = some p ∧
      p.client.liveTerminals = 2 ∧ p.server.files = 1 ∧ p.ended = false := by
  have run : (Runs.exec step initial mixed).any (fun p =>
      decide (p.client.liveTerminals = 2) && decide (p.server.files = 1)) = true := by
    decide +kernel
  obtain ⟨p, after, met⟩ := (Option.any_eq_true _ _).mp run
  rw [Bool.and_eq_true, decide_eq_true_eq, decide_eq_true_eq] at met
  exact ⟨p, after, met.1, met.2, (admission_agreement mixed after).1 (by decide +kernel)⟩

/-- Seven terminals are open, the client's limit of eight lets the next one
through, and the server answers its StreamOpen with the stream limit. -/
theorem eighth_terminal_refused :
    ∃ p id c, Runs.exec step initial (List.replicate 7 (.openTerminal true)) = some p ∧
      p.ended = false ∧ p.client.openTerminalStream = some (id, c) ∧
      p.server.terminalReserve id = .error .limit ∧
      (step p (.openTerminal true)).map Parent.ended = some true :=
  ⟨_, _, _, rfl, rfl, rfl, rfl, rfl⟩

end Admission
