import WeDecent.StreamProtocol
import Mathlib.Data.List.Nodup

/-!
# The parent's StreamID registry

`typedParentStreamRegistry` owns the StreamID namespace of one connection: a
closed ID stays recorded, so no operation kind can reuse it. The Go map is an
association list whose keys occur once; that the keys occur once is part of the
type. `typedTerminalStreamSet` and the file engine count their live streams on
top of it (`session/typed_stream_state.go`, `session/typed_file_server.go`).
-/

namespace StreamRegistry

open List StreamProtocol

def maxTerminalStreamsPerConnection : Nat := 8
def maxTypedStreamIDsPerConnection : Nat := 256
def maxFileStreamsPerConnection : Nat := 4

inductive StreamState where
  | opening
  | opened
  | closed
  deriving DecidableEq

structure Record where
  kind : StreamKind
  state : StreamState
  deriving DecidableEq

inductive RegistryError where
  | idReserved
  | duplicate
  | limit
  | notOpen
  | kindInvalid

structure Registry where
  states : List (Nat × Record)
  nodup : (states.map Prod.fst).Nodup

namespace Registry

def new : Registry := ⟨[], nodup_nil⟩

def get (r : Registry) (streamID : Nat) : Option Record := r.states.lookup streamID

/-- Overwrite the record of an ID that is already in the map. -/
def put (r : Registry) (streamID : Nat) (record : Record) : Registry where
  states := r.states.map fun p => if p.1 = streamID then (streamID, record) else p
  nodup := by
    have keys : (r.states.map fun p => if p.1 = streamID then (streamID, record) else p).map
        Prod.fst = r.states.map Prod.fst := by
      rw [List.map_map]
      apply map_congr_left
      intro p _
      by_cases h : p.1 = streamID
      · simp [h]
      · simp [h]
    rw [keys]
    exact r.nodup

def reserve (r : Registry) (streamID : Nat) (kind : StreamKind) : Except RegistryError Registry :=
  if streamID < minTypedStreamID then .error .idReserved
  else if kind = .empty then .error .kindInvalid
  else if h : r.states.lookup streamID = none then
    if maxTypedStreamIDsPerConnection ≤ r.states.length then .error .limit
    else .ok {
      states := (streamID, ⟨kind, .opening⟩) :: r.states
      nodup := by
        rw [map_cons, nodup_cons]
        refine ⟨?_, r.nodup⟩
        intro hmem
        obtain ⟨p, hp, hkey⟩ := List.mem_map.mp hmem
        have := (lookup_eq_none_iff.mp h) p hp
        simp [hkey] at this }
  else .error .duplicate

def accept (r : Registry) (streamID : Nat) (kind : StreamKind) : Except RegistryError Registry :=
  if r.get streamID = some ⟨kind, .opening⟩ then .ok (r.put streamID ⟨kind, .opened⟩)
  else .error .notOpen

def isOpen (r : Registry) (streamID : Nat) (kind : StreamKind) : Bool :=
  decide (r.get streamID = some ⟨kind, .opened⟩)

/-- The kind of an ID that is in use. -/
def kind (r : Registry) (streamID : Nat) : Option StreamKind :=
  match r.get streamID with
  | some ⟨k, .opening⟩ => some k
  | some ⟨k, .opened⟩ => some k
  | _ => none

def close (r : Registry) (streamID : Nat) (kind : StreamKind) : Except RegistryError Registry :=
  match r.get streamID with
  | some record =>
    if record.kind ≠ kind ∨ record.state = .closed then .error .notOpen
    else .ok (r.put streamID ⟨record.kind, .closed⟩)
  | none => .error .notOpen

theorem lookup_map_put (states : List (Nat × Record)) (streamID other : Nat) (record : Record) :
    (states.map fun p => if p.1 = streamID then (streamID, record) else p).lookup other =
      if other = streamID then (states.lookup streamID).map fun _ => record
      else states.lookup other := by
  induction states with
  | nil => simp
  | cons p rest ih =>
    obtain ⟨key, value⟩ := p
    rw [map_cons]
    by_cases hk : key = streamID
    · subst hk
      by_cases ho : other = key
      · subst ho
        simp
      · have hne : (other == key) = false := by simpa using ho
        simp only [if_true, lookup_cons, hne, ih, if_neg ho]
    · by_cases ho : other = streamID
      · subst ho
        have hne : (other == key) = false := by simpa using Ne.symm hk
        simp only [if_neg hk, lookup_cons, hne, ih, if_true]
      · simp only [if_neg hk, lookup_cons, ih, if_neg ho]

theorem get_put (r : Registry) (streamID other : Nat) (record : Record) :
    (r.put streamID record).get other =
      if other = streamID then (r.get streamID).map fun _ => record else r.get other :=
  lookup_map_put r.states streamID other record

@[simp] theorem put_length (r : Registry) (streamID : Nat) (record : Record) :
    (r.put streamID record).states.length = r.states.length := by
  simp [put]

variable {r r' : Registry} {streamID : Nat} {kind : StreamKind}

/-- A reservation that succeeds records a fresh ID and nothing else. -/
theorem reserve_ok (h : r.reserve streamID kind = .ok r') :
    r'.states = (streamID, ⟨kind, .opening⟩) :: r.states := by
  unfold reserve at h
  split at h
  · cases h
  split at h
  · cases h
  split at h
  · split at h
    · cases h
    · cases h
      rfl
  · cases h

theorem get_reserve (h : r.reserve streamID kind = .ok r') (other : Nat) :
    r'.get other = if other = streamID then some ⟨kind, .opening⟩ else r.get other := by
  unfold get
  rw [reserve_ok h, lookup_cons]
  by_cases ho : other = streamID
  · simp [ho]
  · have hne : (other == streamID) = false := by simpa using ho
    simp [hne, ho]

/-- Exactly when an ID of a named kind is admitted. -/
theorem reserve_admits (named : kind ≠ .empty) : (∃ r', r.reserve streamID kind = .ok r') ↔
      minTypedStreamID ≤ streamID ∧ r.get streamID = none ∧
        r.states.length < maxTypedStreamIDsPerConnection := by
  constructor
  · rintro ⟨r', h⟩
    unfold reserve at h
    split at h
    · cases h
    rename_i hid
    split at h
    · rename_i hnew
      split at h
      · cases h
      · exact ⟨by omega, hnew, by omega⟩
    · cases h
  · rintro ⟨hid, hnew, hlen⟩
    unfold get at hnew
    simp [reserve, Nat.not_lt.mpr hid, named, hnew, Nat.not_le.mpr hlen]

theorem close_ok {state : StreamState} (h : r.get streamID = some ⟨kind, state⟩)
    (live : state ≠ .closed) :
    r.close streamID kind = .ok (r.put streamID ⟨kind, .closed⟩) := by
  simp [close, h, live]

theorem accept_ok (h : r.get streamID = some ⟨kind, .opening⟩) :
    r.accept streamID kind = .ok (r.put streamID ⟨kind, .opened⟩) := by
  simp [accept, h]

section

variable (h : r.reserve streamID kind = .ok r') (record : Record)

include h record

/-- Reserving an ID and then settling its record changes no other ID. -/
theorem get_put_reserve (other : Nat) : (r'.put streamID record).get other =
      if other = streamID then some record else r.get other := by
  rw [get_put, get_reserve h, get_reserve h]
  by_cases ho : other = streamID
  · simp [ho]
  · simp [ho]

theorem get_put_reserve_of_ne (other : Nat)
    (ne : other ≠ streamID) : (r'.put streamID record).get other = r.get other := by
  rw [get_put_reserve h, if_neg ne]

theorem put_reserve_length : (r'.put streamID record).states.length = r.states.length + 1 := by
  rw [put_length, reserve_ok h, length_cons]

end

/-- The record of one ID as the server of its stream keeps it -/
def Tracks (r : Registry) (streamID : Nat) (kind : StreamKind) (record : Option StreamState) :
    Prop :=
  r.get streamID = record.map (Record.mk kind)

section Tracks

theorem tracks_reserve (h : r.reserve streamID kind = .ok r') :
    r'.Tracks streamID kind (some .opening) := by
  rw [Tracks, get_reserve h, if_pos rfl]
  rfl

theorem tracks_put {record : Option StreamState} (state : StreamState)
    (tracks : r.Tracks streamID kind record) (known : record ≠ none) :
    (r.put streamID ⟨kind, state⟩).Tracks streamID kind (some state) := by
  obtain ⟨old, rfl⟩ := Option.ne_none_iff_exists'.mp known
  rw [Tracks, get_put, if_pos rfl, show r.get streamID = _ from tracks]
  rfl

variable {record : Option StreamState} (tracks : r.Tracks streamID kind record)

include tracks

theorem Tracks.kind_iff :
    r.kind streamID = some kind ↔ record = some .opening ∨ record = some .opened := by
  rw [Registry.kind, show r.get streamID = _ from tracks]
  cases record with
  | none => simp
  | some state => cases state <;> simp

theorem Tracks.isOpen_eq : r.isOpen streamID kind = decide (record = some .opened) := by
  rw [isOpen, show r.get streamID = _ from tracks]
  cases record with
  | none => simp
  | some state => cases state <;> simp

/-- The record goes from one state to the next exactly as the registry allows. -/
theorem Tracks.accept (opening : record = some .opening) : ∃ r',
    r.accept streamID kind = .ok r' ∧ r'.Tracks streamID kind (some .opened) := by
  subst opening
  exact ⟨_, accept_ok tracks, tracks_put _ tracks nofun⟩

theorem Tracks.close (live : record = some .opening ∨ record = some .opened) : ∃ r',
    r.close streamID kind = .ok r' ∧ r'.Tracks streamID kind (some .closed) := by
  rcases live with rfl | rfl
  all_goals exact ⟨_, close_ok tracks nofun, tracks_put _ tracks nofun⟩

end Tracks

end Registry

end StreamRegistry
