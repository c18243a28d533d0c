import Mathlib.Logic.Function.Basic
import WeDecent.Library.Exclusion
import WeDecent.Library.GoJson
import WeDecent.Library.GoMap
import WeDecent.Library.Linear
import WeDecent.Library.Runs

/-!
# The trust store

`Store` of `trust/store.go`: the peers that a device trusts, in a file that any number of `Store`
values in any number of processes read and replace. A writer holds the lock of the file and the
mutex of its value, a reader the mutex alone; each of them reads the file anew. Any file operation
may fail, as the schedule says.
-/

namespace TrustStore

open List Exclusion GoMap

abbrev Text := List UInt8

structure Peer where
  id : Text
  name : Text
  fingerprint : Text
  endpoint : Text
  -- The instant; `none` is the zero time.
  trustedAt : Option Int
  deriving DecidableEq

/-- A peer that was written and read again -/
def Peer.readBack (p : Peer) : Peer :=
  ⟨GoJson.readBack p.id, GoJson.readBack p.name, GoJson.readBack p.fingerprint,
    GoJson.readBack p.endpoint, p.trustedAt⟩

def Peer.stamped (p : Peer) (now : Int) : Peer :=
  { p with trustedAt := p.trustedAt.or (some now) }

abbrev Peers := GoMap Text Peer

/-- Every text is valid UTF-8. -/
def Valid (peers : Peers) : Prop :=
  ∀ e ∈ peers.entries, GoJson.readBack e.1 = e.1 ∧ e.2.readBack = e.2

/-- What `json.Unmarshal` makes of the text that `json.MarshalIndent` makes: the keys are sorted
as they are and may come back equal. -/
def readBack (peers : Peers) : Peers :=
  .ofList ((peers.entries.mergeSort fun a b => decide (a.1 ≤ b.1)).map fun e =>
    (GoJson.readBack e.1, e.2.readBack))

/-- What is found at the path. The size of a file that is `sized` is positive and within
`maxStoreSize`; the peers are `none` where the text does not parse. -/
structure File where
  symlink : Bool
  sized : Bool
  peers : Option Peers
  valid : ∀ m, peers = some m → Valid m

theorem mem_foldl_set {l : List (Text × Peer)} {m : Peers} {e : Text × Peer}
    (h : e ∈ (l.foldl (fun m e => m.set e.1 e.2) m).entries) : e ∈ l ∨ e ∈ m.entries := by
  induction l generalizing m with
  | nil => exact .inr h
  | cons x l ih =>
    rcases ih h with listed | set
    · exact .inl (mem_cons_of_mem x listed)
    · rcases mem_cons.mp set with rfl | kept
      · exact .inl mem_cons_self
      · exact .inr (mem_filter.mp kept).1

theorem Peer.readBack_readBack (p : Peer) : p.readBack.readBack = p.readBack := by
  simp [Peer.readBack, GoJson.readBack_readBack]

theorem valid_readBack (peers : Peers) : Valid (readBack peers) := by
  intro e member
  rcases mem_foldl_set member with listed | old
  · obtain ⟨x, -, rfl⟩ := List.mem_map.mp listed
    exact ⟨GoJson.readBack_readBack x.1, x.2.readBack_readBack⟩
  · cases old

/-- The file that `saveLocked` puts in place -/
def saved (peers : Peers) : File where
  symlink := false
  sized := true
  peers := some (readBack peers)
  valid := fun _ same => Option.some.inj same ▸ valid_readBack peers

/-- The first half of `reloadLocked`: `true` where there is a file to read, and `none` on an
error -/
def lstat (fails : Bool) (file : Option File) : Option Bool :=
  if fails then none
  else match file with
    | none => some false
    | some f => if f.symlink || !f.sized then none else some true

/-- The second half: the file is read, its mode set and its text parsed. -/
def read (fails : Bool) (file : Option File) : Option Peers :=
  if fails then none else file.bind File.peers

def load (fails : Bool) (file : Option File) : Option Peers :=
  (lstat fails file).bind fun there => if there then read false file else some .empty

inductive Operation where
  | put (p : Peer) (now : Int)
  | deletePeer (id : Text)
  | get (id : Text)
  | findByFingerprint (fp : Text)
  | list

inductive Answer where
  | stored
  | deleted (peer : Option Peer)
  | got (peer : Option Peer)
  | found (peer : Option Peer)
  | listed (peers : List Peer)
  deriving DecidableEq

/-- The variables of a call that changes the peers: the key, what was there, and what it returns
if all goes well -/
structure Change where
  key : Text
  previous : Option Peer
  answer : Answer
  deriving DecidableEq

/-- Where a call stands. It returns `none` for an error, or where it could not read the peers. -/
inductive Pc where
  | locking
  | waiting
  | statting
  | reading
  | saving (change : Change)
  | replacing (change : Change)
  | securing (change : Change)
  | returned (answer : Option Answer)
  deriving DecidableEq

structure Call where
  store : Nat
  op : Operation
  pc : Pc

structure System where
  file : Option File
  -- `Peers` of each `Store`
  stores : List Peers
  calls : List Call
  -- The calls that have taken effect
  log : List (Nat × Answer)

def start (file : Option File) : System := ⟨file, [], [], []⟩

def Operation.writes : Operation → Bool
  | .put .. | .deletePeer _ => true
  | _ => false

def Pc.holdsMutex : Pc → Bool
  | .locking | .waiting | .returned _ => false
  | _ => true

def Call.holdsLock (c : Call) : Bool :=
  c.op.writes && match c.pc with
    | .locking | .returned _ => false
    | _ => true

def System.mutexFree (s : System) (store : Nat) : Bool :=
  s.calls.all fun c => decide (c.store ≠ store) || !c.pc.holdsMutex

def System.lockFree (s : System) : Bool := s.calls.all fun c => !c.holdsLock

/-- What a call does with the peers it has read: it changes them or is done with them. -/
inductive Use where
  | change (memory : Peers) (change : Change)
  | answer (a : Answer)

/-- A loop over the map takes its entries in the order `order`. -/
def Operation.use (op : Operation) (m : Peers) (order : List (Text × Peer)) : Use :=
  match op with
  | .put p now => .change (m.set p.id (p.stamped now)) ⟨p.id, m.get p.id, .stored⟩
  | .deletePeer id =>
    match m.get id with
    | none => .answer (.deleted none)
    | some p => .change (m.erase id) ⟨id, some p, .deleted (some p)⟩
  | .get id => .answer (.got (m.get id))
  | .findByFingerprint fp =>
    .answer (.found ((order.find? fun e => decide (e.2.fingerprint = fp)).map Prod.snd))
  | .list => .answer (.listed (order.map Prod.snd))

/-- What a step leaves: where the call stands, the peers of its store, the file and the log -/
structure Effect where
  pc : Pc
  memory : Peers
  file : Option File
  log : List (Nat × Answer)

/-- `reloadLocked` has read the peers `m`. -/
def System.loaded (s : System) (i : Nat) (c : Call) (m : Peers) (order : List (Text × Peer)) :
    Option Effect :=
  if order.Perm m.entries then
    match c.op.use m order with
    | .change memory change => some ⟨.saving change, memory, s.file, s.log⟩
    | .answer a => some ⟨.returned (some a), m, s.file, s.log ++ [(i, a)]⟩
  else none

/-- A save has failed, and the peers in memory are put back. -/
def System.undo (s : System) (memory : Peers) (change : Change) : Effect :=
  ⟨.returned none, memory.write change.key change.previous, s.file, s.log⟩

def System.next (s : System) (i : Nat) (c : Call) (memory : Peers) (fails : Bool)
    (order : List (Text × Peer)) : Option Effect :=
  let go (pc : Pc) : Option Effect := some ⟨pc, memory, s.file, s.log⟩
  match c.pc with
  | .locking =>
    if fails then go (.returned none) else if s.lockFree then go .waiting else none
  | .waiting => if s.mutexFree c.store then go .statting else none
  | .statting =>
    match lstat fails s.file with
    | none => go (.returned none)
    | some false => s.loaded i c .empty order
    | some true => go .reading
  | .reading =>
    match read fails s.file with
    | none => go (.returned none)
    | some m => s.loaded i c m order
  -- `saveLocked` up to the replacement
  | .saving change => if fails then some (s.undo memory change) else go (.replacing change)
  | .replacing change =>
    if fails then some (s.undo memory change)
    else some ⟨.securing change, memory, some (saved memory), s.log ++ [(i, change.answer)]⟩
  -- `os.Chmod` after it
  | .securing change =>
    if fails then some (s.undo memory change) else go (.returned (some change.answer))
  | .returned _ => none

inductive Action where
  -- `Open`, which adds a store unless it fails
  | openStore (fails : Bool)
  | call (store : Nat) (op : Operation)
  | step (i : Nat) (fails : Bool) (order : List (Text × Peer))

def step (s : System) : Action → Option System
  | .openStore fails =>
    match load fails s.file with
    | none => some s
    | some m => some { s with stores := s.stores ++ [m] }
  | .call store op =>
    let pc := if op.writes then Pc.locking else .waiting
    if store < s.stores.length then some { s with calls := s.calls ++ [⟨store, op, pc⟩] } else none
  | .step i fails order =>
    s.calls[i]?.bind fun c => s.stores[c.store]?.bind fun memory =>
      (s.next i c memory fails order).map fun e =>
        ⟨e.file, s.stores.set c.store e.memory, s.calls.set i { c with pc := e.pc }, e.log⟩

/-- The operations on a table of peers -/
inductive Does : Operation → (Text → Option Peer) → Answer → (Text → Option Peer) → Prop
  | put {t p now} : Does (.put p now) t .stored (Function.update t p.id (some (p.stamped now)))
  | delete {t id p} (held : t id = some p) :
      Does (.deletePeer id) t (.deleted (some p)) (Function.update t id none)
  | absent {t id} (held : t id = none) : Does (.deletePeer id) t (.deleted none) t
  | get {t id} : Does (.get id) t (.got (t id)) t
  | found {t id p fp} (held : t id = some p) (same : p.fingerprint = fp) :
      Does (.findByFingerprint fp) t (.found (some p)) t
  | unknown {t fp} (other : ∀ id p, t id = some p → p.fingerprint ≠ fp) :
      Does (.findByFingerprint fp) t (.found none) t
  | list {t} {entries : List (Text × Peer)} (distinct : (entries.map Prod.fst).Nodup)
      (whole : ∀ id p, (id, p) ∈ entries ↔ t id = some p) :
      Does .list t (.listed (entries.map Prod.snd)) t

/-- The peers that a call finds if it can read the file -/
def seen (file : Option File) : Text → Option Peer :=
  match load false file with
  | none => fun _ => none
  | some m => m.get

def Pc.result : Pc → Option (Option Answer)
  | .returned answer => some answer
  | _ => none

def System.history (s : System) : List (Linear.Call Operation Answer) :=
  s.calls.map fun c => ⟨c.op, c.pc.result⟩

/-- Peers that are put have valid UTF-8 as texts, and the mode of the file can be set after it has
been replaced. -/
def steady (s : System) : Action → Bool
  | .call _ (.put p _) => decide (p.readBack = p)
  | .step i fails _ => s.calls[i]?.all fun c =>
    match c.pc with
    | .securing _ => !fails
    | _ => true
  | _ => true

theorem get_readBack {m : Peers} (valid : Valid m) (key : Text) :
    (readBack m).get key = m.get key := by
  have sorted := mergeSort_perm m.entries fun a b => decide (a.1 ≤ b.1)
  have same : (m.entries.mergeSort fun a b => decide (a.1 ≤ b.1)).map
      (fun e => (GoJson.readBack e.1, e.2.readBack)) =
        m.entries.mergeSort fun a b => decide (a.1 ≤ b.1) := by
    rw [map_congr_left (g := id), List.map_id]
    intro e member
    obtain ⟨text, peer⟩ := valid e (sorted.mem_iff.mp member)
    rw [text, peer]
    rfl
  have distinct := (sorted.map Prod.fst).nodup_iff.mpr m.distinct
  apply Option.ext
  intro p
  rw [readBack, same, get_ofList distinct, sorted.mem_iff, get_eq_some]

theorem seen_saved {m : Peers} (valid : Valid m) : seen (some (saved m)) = m.get := by
  funext id
  exact get_readBack valid id

theorem seen_absent : seen none = empty.get := rfl

theorem seen_read {f : File} {m : Peers} (there : lstat false (some f) = some true)
    (read : f.peers = some m) : seen (some f) = m.get := by
  have loaded : load false (some f) = some m := by
    rw [load, there]
    exact read
  rw [seen, loaded]

theorem lstat_absent {fails : Bool} {file : Option File} (h : lstat fails file = some false) :
    file = none := by
  cases file with
  | none => rfl
  | some =>
    unfold lstat at h
    split at h
    · cases h
    · dsimp only at h
      split at h <;> cases h

theorem lstat_there {fails : Bool} {file : Option File} (h : lstat fails file = some true) :
    ∃ f, file = some f ∧ lstat false (some f) = some true := by
  cases fails with
  | true => cases h
  | false =>
    cases file with
    | none => cases h
    | some f => exact ⟨f, rfl, h⟩

theorem lstat_saved (m : Peers) : lstat false (some (saved m)) = some true := rfl

theorem get_set (m : Peers) (id : Text) (p : Peer) :
    (m.set id p).get = Function.update m.get id (some p) := by
  funext id'
  by_cases same : id' = id
  · subst same
    rw [get_set_self, Function.update_self]
  · rw [get_set_of_ne same, Function.update_of_ne same]

theorem get_erase (m : Peers) (id : Text) : (m.erase id).get = Function.update m.get id none := by
  funext id'
  by_cases same : id' = id
  · subst same
    rw [get_erase_self, Function.update_self]
  · rw [get_erase_of_ne same, Function.update_of_ne same]

section Use

variable {op : Operation} {m memory : Peers} {order : List (Text × Peer)} {change : Change}
  {a : Answer}

/-- The peers that are put have valid texts. -/
def Operation.Valid : Operation → Prop
  | .put p _ => p.readBack = p
  | _ => True

theorem valid_set {id : Text} {p : Peer} (valid : Valid m) (key : GoJson.readBack id = id)
    (peer : p.readBack = p) : Valid (m.set id p) := by
  intro e member
  rcases mem_cons.mp member with rfl | kept
  · exact ⟨key, peer⟩
  · exact valid e (mem_filter.mp kept).1

theorem change_does (h : op.use m order = .change memory change) :
    Does op m.get change.answer memory.get := by
  cases op with
  | put =>
    cases h
    rw [get_set]
    exact .put
  | deletePeer id =>
    simp only [Operation.use] at h
    split at h
    · cases h
    · rename_i p held
      cases h
      rw [get_erase]
      exact .delete held
  | _ => cases h

theorem change_valid (h : op.use m order = .change memory change) (valid : Valid m)
    (texts : op.Valid) : Valid memory := by
  cases op with
  | put p now =>
    cases h
    have texts : p.readBack = p := texts
    refine valid_set valid (congrArg Peer.id texts) ?_
    have stamped : (p.stamped now).readBack = p.readBack.stamped now := rfl
    rw [stamped, texts]
  | deletePeer =>
    simp only [Operation.use] at h
    split at h
    · cases h
    · cases h
      exact fun e member => valid e (mem_filter.mp member).1
  | _ => cases h

theorem answer_does (h : op.use m order = .answer a) (order_ : order.Perm m.entries) :
    Does op m.get a m.get := by
  cases op with
  | put => cases h
  | deletePeer id =>
    simp only [Operation.use] at h
    split at h
    · rename_i held
      cases h
      exact .absent held
    · cases h
  | get =>
    cases h
    exact .get
  | findByFingerprint fp =>
    cases h
    cases hfind : order.find? fun e => decide (e.2.fingerprint = fp) with
    | none =>
      refine .unknown fun id p held same => ?_
      have member := order_.mem_iff.mpr (get_eq_some.mp held)
      exact find?_eq_none.mp hfind _ member (decide_eq_true same)
    | some e =>
      obtain ⟨id, p⟩ := e
      have member := order_.mem_iff.mp (List.mem_of_find?_eq_some hfind)
      have same : p.fingerprint = fp := by simpa using find?_some hfind
      exact .found (get_eq_some.mpr member) same
  | list =>
    cases h
    refine .list ((order_.map Prod.fst).nodup_iff.mpr m.distinct) fun id p => ?_
    rw [order_.mem_iff, get_eq_some]

end Use

end TrustStore
