import WeDecent.ConnectionService
import WeDecent.Library.Weights

/-!
# What half finished calls of the connection service owe

A call of the service owes something while it is half finished: a place among the opening
connections, a reserved ID, a handle or a terminal that is not yet in a map. `Effect` says how
a step of any thread moves these obligations between the threads and the maps.
-/

namespace ConnectionObligations

open List Option ConnectionService CoreRequests GoMap Weights

/-- The call is between its reservation and its activation or release. -/
def slot : Thread → Bool
  | .connect (.naming _ _) => true
  | .connect (.unreserving _) => true
  | .connect (.opening _ _) => true
  | .connect (.failedOpen _) => true
  | .connect (.failedRunning _) => true
  | .connect (.checking _ _ _ _) => true
  | .connect (.checkingClosed _ _ _ _) => true
  | .connect (.publishing _ _ _ _) => true
  | .connect (.activating _ _) => true
  | .connect (.closing _ _ _) => true
  | .connect (.releasing _ _) => true
  | _ => false

/-- The ID that the call has reserved -/
def name : Thread → Option ID
  | .connect (.opening _ id) => some id
  | .connect (.failedOpen id) => some id
  | .connect (.failedRunning id) => some id
  | .connect (.checking _ id _ _) => some id
  | .connect (.checkingClosed _ id _ _) => some id
  | .connect (.publishing _ id _ _) => some id
  | .connect (.activating connection _) => some connection.id
  | .connect (.closing id _ _) => some id
  | .connect (.releasing id _) => some id
  | .openTerminal (.opening _ id _ _) => some id
  | .openTerminal (.checking _ id _ _) => some id
  | .openTerminal (.registering _ id _ _) => some id
  | .openTerminal (.cleaning _ id _) => id
  | .openTerminal (.releasing id _) => some id
  | _ => none

/-- The handles that the call has still to close or to hand over -/
def holds : Thread → List Nat
  | .connect (.checking _ _ handle _) => handle.toList
  | .connect (.checkingClosed _ _ handle _) => [handle]
  | .connect (.publishing _ _ handle _) => [handle]
  | .connect (.activating _ handle) => [handle]
  | .connect (.closing _ handle _) => [handle]
  | .connect (.abandoning handle) => [handle]
  | .close (.closing rest _) => rest.map Prod.snd
  | _ => []

/-- The terminal that the call has still to close or to register -/
def child : Thread → Option Nat
  | .openTerminal (.checking _ _ child _) => some child
  | .openTerminal (.registering _ _ child _) => some child
  | .openTerminal (.cleaning child _ _) => some child
  | _ => none

/-- `Close` was called on the handle, or its channel is closed. -/
def Ended (s : Shared) (h : Nat) : Prop :=
  (∃ x, s.handles[h]? = some x ∧ x.closeCalled = true) ∨ s.signalled h = true

/-- The token was made for this connection and handle. -/
def Made (s : Shared) (token : Nat) (id : ID) (h : Nat) : Prop :=
  s.generations[token]? = some ⟨id, h⟩ ∧ h < s.handles.length

/-- The terminal was opened on the handle of the token. -/
def Opened (s : Shared) (token c : Nat) : Prop :=
  ∃ (id : ID) (h : Nat) (x : Child), Made s token id h ∧ s.children[c]? = some x ∧ x.parent = h

/-- What a thread knows of the handles and tokens it works with -/
def Knows (s : Shared) : Thread → Prop
  | .connect (.checking _ _ (some h) _) => h < s.handles.length
  | .connect (.checkingClosed _ _ h _) => h < s.handles.length
  | .connect (.publishing _ _ h _) => h < s.handles.length
  | .connect (.activating _ h) => h < s.handles.length
  | .connect (.starting connection h token) => Made s token connection.id h
  | .disconnect (.closing id token h) => Made s token id h
  | .disconnect (.failed id token h) => Made s token id h
  | .disconnect (.sampled id token _) => ∃ h, Made s token id h
  | .disconnect (.clearing id token h) => Made s token id h ∧ Ended s h
  | .watch id token h => Made s token id h
  | .expire id token => ∃ h, Made s token id h ∧ Ended s h
  | .openTerminal (.naming _ parent token _) => ∃ id, Made s token id parent
  | .openTerminal (.opening _ _ parent token) => ∃ id, Made s token id parent
  | .openTerminal (.checking _ _ c token) => Opened s token c
  | .openTerminal (.registering _ _ c token) => Opened s token c
  | .openTerminal (.starting _ _ c token) => Opened s token c
  | .watchChild _ token c => Opened s token c
  | .close (.closing _ _) => s.closed = true
  | .close (.returned _) => s.closed = true
  | _ => True

/-- Objects are only added, and what has happened to them stays. -/
structure Grows (s s' : Shared) : Prop where
  closed : s.closed = true → s'.closed = true
  generations : ∀ (t : Nat) g, s.generations[t]? = some g → s'.generations[t]? = some g
  handles : ∀ (h : Nat) x, s.handles[h]? = some x → ∃ x',
    s'.handles[h]? = some x' ∧ x'.observable = x.observable ∧
      (x.done = true → x'.done = true) ∧ (x.closeCalled = true → x'.closeCalled = true)
  children : ∀ (c : Nat) x, s.children[c]? = some x → ∃ x',
    s'.children[c]? = some x' ∧ x'.parent = x.parent ∧
      (x.closeCalled = true → x'.closeCalled = true)

section Grows

variable {s s' : Shared}

theorem Grows.of_eq (closed : s'.closed = s.closed) (generations : s'.generations = s.generations)
    (handles : s'.handles = s.handles) (children : s'.children = s.children) : Grows s s' where
  closed := fun isClosed => closed.trans isClosed
  generations := fun _ _ found => generations ▸ found
  handles := fun _ x found => ⟨x, handles ▸ found, rfl, id, id⟩
  children := fun _ x found => ⟨x, children ▸ found, rfl, id⟩

section

variable (grows : Grows s s')

include grows

theorem Grows.signalled {h : Nat} (done : s.signalled h = true) : s'.signalled h = true := by
  obtain ⟨x, found, past⟩ := (Option.any_eq_true _ _).mp done
  obtain ⟨x', found', observable, stays, -⟩ := grows.handles h x found
  rw [Bool.and_eq_true] at past
  refine (Option.any_eq_true _ _).mpr ⟨x', found', ?_⟩
  rw [Bool.and_eq_true, observable]
  exact ⟨past.1, stays past.2⟩

theorem Grows.ended {h : Nat} (past : Ended s h) : Ended s' h := by
  rcases past with ⟨x, found, called⟩ | done
  · obtain ⟨x', found', -, -, stays⟩ := grows.handles h x found
    exact .inl ⟨x', found', stays called⟩
  · exact .inr (grows.signalled done)

theorem Grows.allocated {h : Nat} (bound : h < s.handles.length) : h < s'.handles.length := by
  obtain ⟨x', found, -⟩ := grows.handles h _ (List.getElem?_eq_getElem bound)
  exact (List.getElem?_eq_some_iff.mp found).1

theorem Grows.made {token h : Nat} {id : ID} (made : Made s token id h) : Made s' token id h :=
  ⟨grows.generations _ _ made.1, grows.allocated made.2⟩

theorem Grows.opened {token c : Nat} (opened : Opened s token c) : Opened s' token c := by
  obtain ⟨id, h, x, made, found, parent⟩ := opened
  obtain ⟨x', found', same, -⟩ := grows.children c x found
  exact ⟨id, h, x', grows.made made, found', same.trans parent⟩

theorem Grows.knows {t : Thread} (known : Knows s t) : Knows s' t := by
  unfold Knows at known ⊢
  split at known
  · exact grows.allocated known
  · exact grows.allocated known
  · exact grows.allocated known
  · exact grows.allocated known
  · exact grows.made known
  · exact grows.made known
  · exact grows.made known
  · obtain ⟨h, made⟩ := known
    exact ⟨h, grows.made made⟩
  · exact ⟨grows.made known.1, grows.ended known.2⟩
  · exact grows.made known
  · obtain ⟨h, made, past⟩ := known
    exact ⟨h, grows.made made, grows.ended past⟩
  · obtain ⟨id, made⟩ := known
    exact ⟨id, grows.made made⟩
  · obtain ⟨id, made⟩ := known
    exact ⟨id, grows.made made⟩
  · exact grows.opened known
  · exact grows.opened known
  · exact grows.opened known
  · exact grows.opened known
  · exact grows.closed known
  · exact grows.closed known
  · trivial

end

theorem Grows.push (s : Shared) (x : Handle) : Grows s { s with handles := s.handles ++ [x] } :=
  ⟨id, fun _ _ found => found, fun _ y found => ⟨y, Cells.at_push_old found, rfl, id, id⟩,
    fun _ y found => ⟨y, found, rfl, id⟩⟩

theorem Grows.closeHandle (s : Shared) (h : Nat) : Grows s (s.closeHandle h) := by
  refine ⟨id, fun _ _ found => found, fun k x found => ?_, fun _ x found => ⟨x, found, rfl, id⟩⟩
  refine ⟨_, Cells.at_modify_of found, ?_⟩
  by_cases here : h = k
  · rw [if_pos here]
    exact ⟨rfl, id, fun _ => rfl⟩
  · rw [if_neg here]
    exact ⟨rfl, id, id⟩

theorem Grows.closeChild (s : Shared) (c : Nat) : Grows s (s.closeChild c) := by
  refine ⟨id, fun _ _ found => found, fun _ x found => ⟨x, found, rfl, id, id⟩, fun k x found => ?_⟩
  refine ⟨_, Cells.at_modify_of found, ?_⟩
  by_cases here : c = k
  · rw [if_pos here]
    exact ⟨rfl, fun _ => rfl⟩
  · rw [if_neg here]
    exact ⟨rfl, id⟩

theorem Grows.signal (s : Shared) (h : Nat) : Grows s (s.signal h) := by
  refine ⟨id, fun _ _ found => found, fun k x found => ?_, fun _ x found => ⟨x, found, rfl, id⟩⟩
  refine ⟨_, Cells.at_modify_of found, ?_⟩
  by_cases here : h = k
  · rw [if_pos here]
    exact ⟨rfl, fun _ => rfl, id⟩
  · rw [if_neg here]
    exact ⟨rfl, id, id⟩

/-- A handle that exists has ended once `Close` is called on it. -/
theorem ended_closeHandle {h : Nat} (bound : h < s.handles.length) : Ended (s.closeHandle h) h := by
  refine .inl ⟨_, Cells.at_modify_of (List.getElem?_eq_getElem bound), ?_⟩
  rw [if_pos rfl]

end Grows

structure View where
  slot : Bool
  name : Option ID
  holds : List Nat
  child : Option Nat

def view (t : Thread) : View := ⟨slot t, name t, holds t, child t⟩

/-- A thread without obligations -/
def View.idle : View := ⟨false, none, [], none⟩

/-- The handle is in the map of active connections, or has ended. -/
def Held (s : Shared) (h : Nat) : Prop :=
  (∃ id a, s.active.get id = some a ∧ a.handle = h) ∨ Ended s h

/-- What the maps of the service say. -/
structure Facts (s : Shared) : Prop where
  active : ∀ (id : ID) (a : ActiveConnection), s.active.get id = some a → Made s a.token id a.handle
  streams : ∀ (id : ID) (e : TerminalStreamEntry), s.streams.get id = some e →
    ∃ (id' : ID) (h : Nat), Made s e.token id' h ∧ (e.closed = true → Ended s h) ∧
      ∀ c, e.handle = .child c → Opened s e.token c ∧ Held s h
  closed : s.closed = true → (∀ id, s.active.get id = none) ∧ ∀ id, s.streams.get id = none

/-- Entries of the maps change their marks or leave, the latter only when the handle has ended. -/
structure Shrinks (s : Shared) (active : GoMap ID ActiveConnection)
    (streams : GoMap ID TerminalStreamEntry) : Prop where
  len : active.len ≤ s.active.len
  activeOld : ∀ id a, active.get id = some a →
    ∃ a', s.active.get id = some a' ∧ a'.handle = a.handle ∧ a'.token = a.token
  activeNew : ∀ id a, s.active.get id = some a →
    (∃ a', active.get id = some a' ∧ a'.handle = a.handle) ∨ Ended s a.handle
  streamsOld : ∀ id e, streams.get id = some e →
    ∃ e', s.streams.get id = some e' ∧ e'.handle = e.handle ∧ e'.token = e.token ∧
      (e.closed = true → e'.closed = true ∨ ∃ id' h, Made s e.token id' h ∧ Ended s h)
  streamsNew : ∀ id e, s.streams.get id = some e →
    (∃ e', streams.get id = some e' ∧ e'.handle = e.handle) ∨
      ∃ id' h, Made s e.token id' h ∧ Ended s h

/-- What an activation does to the streams: retained ones may go, and that of the connection
comes. -/
structure Joins (s : Shared) (id : ID) (h : Nat) (streams : GoMap ID TerminalStreamEntry) :
    Prop where
  old : ∀ k e, streams.get k = some e →
    s.streams.get k = some e ∨ (k = id ∧ e = ⟨.own h, s.generations.length, false⟩)
  new : ∀ k e, s.streams.get k = some e → streams.get k = some e ∨ e.closed = true ∨ k = id

inductive Effect (cfg : Config) (s : Shared) (t : Thread) : Outcome → Prop
  | moved (t' : Thread) (spawned) (same : view t' = view t) (idle : ∀ x ∈ spawned, view x = .idle)
      (knows : Facts s → Knows s t → Knows s t' ∧ ∀ x ∈ spawned, Knows s x) :
      Effect cfg s t ⟨s, t', spawned⟩
  | reserved (t' : Thread) (room : s.active.len + s.opening < cfg.max) (before : view t = .idle)
      (after : view t' = ⟨true, none, [], none⟩) (knows : ∀ s, Knows s t') :
      Effect cfg s t ⟨{ s with opening := s.opening + 1 }, t', []⟩
  | unreserved (t' : Thread) (before : view t = ⟨true, none, [], none⟩)
      (after : view t' = .idle) (knows : ∀ s, Knows s t') :
      Effect cfg s t ⟨s.releaseOpening, t', []⟩
  | named (t' : Thread) (id : ID) (slot : Bool) (free : s.free id = true)
      (before : view t = ⟨slot, none, [], none⟩) (after : view t' = ⟨slot, some id, [], none⟩)
      (knows : ∀ s', Grows s s' → Knows s t → Knows s' t') :
      Effect cfg s t ⟨{ s with reserved := s.reserved.set id () }, t', []⟩
  | released (t' : Thread) (id : ID) (before : view t = ⟨true, some id, [], none⟩)
      (after : view t' = .idle) (knows : ∀ s, Knows s t') :
      Effect cfg s t ⟨s.releaseOpeningAndID id, t', []⟩
  | unnamed (t' : Thread) (id : ID) (c) (before : view t = ⟨false, some id, [], c⟩)
      (after : view t' = ⟨false, none, [], c⟩) (knows : ∀ s, Knows s t') :
      Effect cfg s t ⟨{ s with reserved := s.reserved.erase id }, t', []⟩
  | gained (t' : Thread) (x : Handle) (id : ID) (before : view t = ⟨true, some id, [], none⟩)
      (after : view t' = ⟨true, some id, [s.handles.length], none⟩)
      (knows : ∀ s' : Shared, s.handles.length < s'.handles.length → Knows s' t') :
      Effect cfg s t ⟨{ s with handles := s.handles ++ [x] }, t', []⟩
  -- an error came with a handle
  | dropped (deviceID : Bytes) (id : ID) (x : Handle) (was : t = .connect (.opening deviceID id)) :
      Effect cfg s t ⟨{ s with handles := s.handles ++ [x] }, .connect (.failedOpen id), []⟩
  | closed (t' : Thread) (h : Nat) (slot : Bool) (name) (before after : List Nat)
      (was : view t = ⟨slot, name, before, none⟩) (is : view t' = ⟨slot, name, after, none⟩)
      (rest : ∀ x ∈ before, x = h ∨ x ∈ after)
      (knows : ∀ s', Grows s s' → (h < s.handles.length → Ended s' h) → Knows s t → Knows s' t') :
      Effect cfg s t ⟨s.closeHandle h, t', []⟩
  | abandoned (t' : Thread) (id : ID) (h : Nat) (before : view t = ⟨true, some id, [h], none⟩)
      (after : view t' = ⟨false, none, [h], none⟩) (knows : ∀ s, Knows s t') :
      Effect cfg s t ⟨{ s with opening := s.opening - 1, reserved := s.reserved.erase id }, t', []⟩
  | activated (t' : Thread) (a) (id : ID) (streams) (isOpen : s.closed = false)
      (before : view t = ⟨true, some id, [a.handle], none⟩) (after : view t' = .idle)
      (fresh : a.token = s.generations.length) (joins : Joins s id a.handle streams)
      (bound : Knows s t → a.handle < s.handles.length)
      (knows : ∀ s', Made s' a.token id a.handle → Knows s' t') :
      Effect cfg s t ⟨{ s with
        opening := s.opening - 1
        reserved := s.reserved.erase id
        generations := s.generations ++ [⟨id, a.handle⟩]
        active := s.active.set id a
        streams := streams }, t', []⟩
  | shrunk (t' : Thread) (spawned) (active) (streams)
      (shrinks : Facts s → Knows s t → Shrinks s active streams)
      (same : view t' = view t) (idle : ∀ x ∈ spawned, view x = .idle)
      (knows : ∀ s', Grows s s' → Facts s → Knows s t → Knows s' t' ∧ ∀ x ∈ spawned, Knows s' x) :
      Effect cfg s t ⟨{ s with active := active, streams := streams }, t', spawned⟩
  | shut (t' : Thread) (before : view t = .idle)
      (after : view t' = ⟨false, none, s.active.entries.map fun e => e.2.handle, none⟩)
      (knows : ∀ s' : Shared, s'.closed = true → Knows s' t') :
      Effect cfg s t ⟨{ s with closed := true, active := .empty, streams := .empty }, t', []⟩
  | born (t' : Thread) (parent : Nat) (id : ID) (before : view t = ⟨false, some id, [], none⟩)
      (after : view t' = ⟨false, some id, [], some s.children.length⟩)
      (bound : Knows s t → parent < s.handles.length)
      (knows : ∀ s', Grows s s' → s'.children[s.children.length]? = some ⟨parent, false⟩ →
        Knows s t → Knows s' t') :
      Effect cfg s t ⟨{ s with children := s.children ++ [⟨parent, false⟩] }, t', []⟩
  | buried (t' : Thread) (c : Nat) (name) (before : view t = ⟨false, name, [], some c⟩)
      (after : view t' = ⟨false, name, [], none⟩) (knows : ∀ s, Knows s t') :
      Effect cfg s t ⟨s.closeChild c, t', []⟩
  | registered (t' : Thread) (id connectionID : ID) (c : Nat) (a)
      (isOpen : s.closed = false) (absent : s.streams.get id = none)
      (parent : s.active.get connectionID = some a) (opened : Knows s t → Opened s a.token c)
      (before : view t = ⟨false, some id, [], some c⟩) (after : view t' = .idle)
      (knows : ∀ s', Grows s s' → Knows s t → Knows s' t') :
      Effect cfg s t ⟨{ s with
        reserved := s.reserved.erase id
        streams := s.streams.set id ⟨.child c, a.token, false⟩ }, t', []⟩

section Inversion

variable {cfg : Config} {s : Shared} {o : Outcome}

/-- A step without effect on the service and on what is owed. -/
theorem Effect.stay {t : Thread} (t' : Thread) (same : view t' = view t)
    (knows : Facts s → Knows s t → Knows s t') : Effect cfg s t ⟨s, t', []⟩ :=
  .moved t' [] same nofun fun facts known => ⟨knows facts known, nofun⟩

/-- The same, for a thread that needs to know nothing of the step before. -/
theorem Effect.pass {t t' : Thread} (same : view t' = view t) (known : Knows s t') :
    Effect cfg s t ⟨s, t', []⟩ :=
  .stay t' same fun _ _ => known

theorem effect_of_reserveOpening (deviceID : Bytes) :
    Effect cfg s (.connect (.reserving deviceID)) (reserveOpening cfg s deviceID) := by
  unfold reserveOpening
  split
  · exact .pass rfl trivial
  · split
    · exact .pass rfl trivial
    · rename_i room
      exact .reserved _ (by omega) rfl rfl fun _ => trivial

theorem effect_of_reserveConnectionID (deviceID : Bytes) (attempt : Nat) (candidate : Option ID) :
    Effect cfg s (.connect (.naming deviceID attempt))
      (reserveConnectionID s deviceID attempt candidate) := by
  unfold reserveConnectionID
  split
  · exact .pass rfl trivial
  split
  · exact .pass rfl trivial
  split
  · rename_i free
    exact .named _ _ true free rfl rfl fun _ _ _ => trivial
  · split
    · exact .pass rfl trivial
    · exact .pass rfl trivial

theorem effect_of_opened (deviceID : Bytes) (id : ID) (failed : Bool)
    (answer : ConnectionService.Opened) :
    Effect cfg s (.connect (.opening deviceID id)) (opened s deviceID id failed answer) := by
  obtain ⟨handle, path⟩ := answer
  cases handle with
  | none =>
    cases failed with
    | false => exact .pass rfl trivial
    | true => exact .pass rfl trivial
  | some x =>
    cases failed with
    | false => exact .gained _ _ id rfl rfl fun _ bound => bound
    | true => exact .dropped deviceID id _ rfl

/-- Pruning only removes streams that are closed. -/
theorem prune_cases {picks : List ID} {streams streams' : GoMap ID TerminalStreamEntry}
    (h : pruneRetainedStreamsLocked cfg picks streams = some streams') :
    (∀ k e, streams'.get k = some e → streams.get k = some e) ∧
      ∀ k e, streams.get k = some e → streams'.get k = some e ∨ e.closed = true := by
  induction picks generalizing streams with
  | nil =>
    unfold pruneRetainedStreamsLocked at h
    simp only at h
    split at h
    · cases h
      exact ⟨fun _ _ => id, fun _ _ => .inl⟩
    · split at h <;> cases h
      exact ⟨fun _ _ => id, fun _ _ => .inl⟩
  | cons id _ ih =>
    unfold pruneRetainedStreamsLocked at h
    simp only at h
    split at h
    · cases h
    split at h
    · rename_i victim
      obtain ⟨old, new⟩ := ih h
      obtain ⟨v, at_id, closed⟩ := (Option.any_eq_true _ _).mp victim
      refine ⟨fun k e found => (get_of_erase (old k e found)).2, fun k e found => ?_⟩
      by_cases same : k = id
      · subst same
        cases found.symm.trans at_id
        exact .inr closed
      · exact new k e ((get_erase_of_ne same).trans found)
    · cases h

theorem effect_of_activate {connection : Connection} {h : Nat} {picks : List ID}
    (step : activate cfg s connection h picks = some o) :
    Effect cfg s (.connect (.activating connection h)) o := by
  unfold activate at step
  simp only at step
  split at step
  · obtain ⟨-, step⟩ := ite_none_right_eq_some.mp step
    cases step
    exact .abandoned _ connection.id h rfl rfl fun _ => trivial
  · rename_i isOpen
    rw [Bool.not_eq_true] at isOpen
    split at step
    · obtain ⟨streams, pruned, rfl⟩ := map_eq_some_iff.mp step
      obtain ⟨old, new⟩ := prune_cases pruned
      refine .activated _ ⟨connection, h, false, false, s.generations.length⟩ connection.id _ isOpen
        rfl rfl rfl ⟨fun k e found => ?_, fun k e found => ?_⟩ id fun _ made => made
      · rcases get_of_set found with ⟨here, rfl⟩ | ⟨-, kept⟩
        · exact .inr ⟨here, rfl⟩
        · exact .inl (old k e kept)
      · by_cases same : k = connection.id
        · exact .inr (.inr same)
        · rw [get_set_of_ne same]
          exact (new k e found).imp id .inl
    · obtain ⟨-, step⟩ := ite_none_right_eq_some.mp step
      cases step
      exact .activated _ ⟨connection, h, false, false, s.generations.length⟩ connection.id s.streams
        isOpen rfl rfl rfl ⟨fun k e => .inl, fun k e => .inl⟩ id fun _ made => made

theorem effect_of_connectStep {pc : ConnectPc} {a : Act} (h : connectStep cfg s pc a = some o) :
    Effect cfg s (.connect pc) o := by
  unfold connectStep at h
  split at h
  · cases h
    exact effect_of_reserveOpening _
  · cases h
    exact effect_of_reserveConnectionID _ _ _
  · cases h
    exact .unreserved _ rfl rfl fun _ => trivial
  · cases h
    exact effect_of_opened _ _ _ _
  · cases h
    exact .pass rfl trivial
  · split at h
    · cases h
      exact .pass rfl trivial
    · cases h
      exact .pass rfl trivial
  · cases h
    exact .pass rfl trivial
  · cases h
    exact .pass rfl trivial
  · cases h
    exact .pass rfl trivial
  · split at h
    · cases h
      exact .pass rfl trivial
    split at h
    · cases h
      exact .pass rfl trivial
    · cases h
      exact .stay _ rfl fun _ known => known
  · split at h
    · cases h
      exact .pass rfl trivial
    · cases h
      exact .stay _ rfl fun _ known => known
  · cases h
    exact .pass rfl trivial
  · cases h
    exact .stay _ rfl fun _ known => known
  · exact effect_of_activate h
  · rename_i id handle _
    cases h
    exact .closed _ handle true (some id) [handle] [] rfl rfl
      (fun x member => .inl (mem_singleton.mp member)) fun _ _ _ _ => trivial
  · cases h
    exact .released _ _ rfl rfl fun _ => trivial
  · rename_i handle
    cases h
    exact .closed _ handle false none [handle] [] rfl rfl
      (fun x member => .inl (mem_singleton.mp member)) fun _ _ _ _ => trivial
  · cases h
    refine .moved _ _ rfl ?_ fun _ known => ⟨trivial, ?_⟩
    · intro x member
      split at member
      · cases mem_singleton.mp member
        rfl
      · cases member
    · intro x member
      split at member
      · cases mem_singleton.mp member
        exact known
      · cases member
  · cases h

/-- The marks of an active connection change. -/
theorem Shrinks.mark {id : ID} {a a' : ActiveConnection} (found : s.active.get id = some a)
    (handle : a'.handle = a.handle) (token : a'.token = a.token) :
    Shrinks s (s.active.set id a') s.streams where
  len := Nat.le_of_eq (len_set_of_some found)
  activeOld := by
    intro k x at_k
    rcases get_of_set at_k with ⟨rfl, rfl⟩ | ⟨-, old⟩
    · exact ⟨a, found, handle.symm, token.symm⟩
    · exact ⟨x, old, rfl, rfl⟩
  activeNew := by
    intro k x at_k
    by_cases same : k = id
    · subst same
      cases at_k.symm.trans found
      exact .inl ⟨a', get_set_self, handle⟩
    · exact .inl ⟨x, (get_set_of_ne same).trans at_k, rfl⟩
  streamsOld := fun _ e found => ⟨e, found, rfl, rfl, .inl⟩
  streamsNew := fun _ e found => .inl ⟨e, found, rfl⟩

/-- Entries of an ended connection leave the maps. -/
theorem Shrinks.drop {token h : Nat} {id : ID} {active : GoMap ID ActiveConnection}
    {streams : GoMap ID TerminalStreamEntry} (facts : Facts s) (made : Made s token id h)
    (past : Ended s h)
    (active_or : active = s.active ∨
      (∃ a, s.active.get id = some a ∧ a.token = token) ∧ active = s.active.erase id)
    (streams_or : streams = s.streams ∨
      (∃ e, s.streams.get id = some e ∧ e.token = token) ∧ streams = s.streams.erase id) :
    Shrinks s active streams where
  len := by
    rcases active_or with rfl | ⟨-, rfl⟩
    · exact Nat.le_refl _
    · exact len_keep_le _ _
  activeOld := by
    intro k x at_k
    rcases active_or with rfl | ⟨-, rfl⟩
    · exact ⟨x, at_k, rfl, rfl⟩
    · exact ⟨x, (get_of_erase at_k).2, rfl, rfl⟩
  activeNew := by
    intro k x at_k
    rcases active_or with rfl | ⟨⟨a, at_id, same⟩, rfl⟩
    · exact .inl ⟨x, at_k, rfl⟩
    by_cases here : k = id
    · subst here
      cases at_k.symm.trans at_id
      have own := facts.active k x at_k
      rw [same] at own
      cases own.1.symm.trans made.1
      exact .inr past
    · exact .inl ⟨x, (get_erase_of_ne here).trans at_k, rfl⟩
  streamsOld := by
    intro k e at_k
    rcases streams_or with rfl | ⟨-, rfl⟩
    · exact ⟨e, at_k, rfl, rfl, .inl⟩
    · exact ⟨e, (get_of_erase at_k).2, rfl, rfl, .inl⟩
  streamsNew := by
    intro k e at_k
    rcases streams_or with rfl | ⟨⟨e', at_id, same⟩, rfl⟩
    · exact .inl ⟨e, at_k, rfl⟩
    by_cases here : k = id
    · subst here
      cases at_k.symm.trans at_id
      exact .inr ⟨k, h, same ▸ made, past⟩
    · exact .inl ⟨e, (get_erase_of_ne here).trans at_k, rfl⟩

theorem effect_of_clearing (id : ID) (token h : Nat) {a : Act}
    (step : disconnectStep s (.clearing id token h) a = some o) :
    Effect cfg s (.disconnect (.clearing id token h)) o := by
  cases a with
  | go =>
    have entry : ∀ {V : Type} {m : GoMap ID V} {tokenOf : V → Nat},
        (m.get id).any (fun v => decide (tokenOf v = token)) = true →
        ∃ v, m.get id = some v ∧ tokenOf v = token := by
      intro V m tokenOf found
      obtain ⟨v, at_id, same⟩ := (Option.any_eq_true _ _).mp found
      exact ⟨v, at_id, of_decide_eq_true same⟩
    simp only [disconnectStep] at step
    split at step
    · rename_i found
      split at step
      · rename_i found'
        cases step
        exact .shrunk _ [] _ _ (fun facts known => .drop facts known.1 known.2
          (.inr ⟨entry found, rfl⟩) (.inr ⟨entry found', rfl⟩)) rfl (by simp)
          fun _ _ _ _ => ⟨trivial, by simp⟩
      · cases step
        exact .shrunk _ [] _ _ (fun facts known => .drop facts known.1 known.2
          (.inr ⟨entry found, rfl⟩) (.inl rfl)) rfl (by simp) fun _ _ _ _ => ⟨trivial, by simp⟩
    · split at step
      · rename_i found'
        cases step
        exact .shrunk _ [] _ _ (fun facts known => .drop facts known.1 known.2
          (.inl rfl) (.inr ⟨entry found', rfl⟩)) rfl (by simp) fun _ _ _ _ => ⟨trivial, by simp⟩
      · cases step
        exact .pass rfl trivial
  | _ => cases step

theorem effect_of_disconnectStep {pc : DisconnectPc} {a : Act}
    (h : disconnectStep s pc a = some o) : Effect cfg s (.disconnect pc) o := by
  cases pc with
  | clearing id token handle => exact effect_of_clearing id token handle h
  | looking id =>
    cases a <;> try cases h
    simp only [disconnectStep] at h
    split at h
    · cases h
      exact .pass rfl trivial
    rename_i a found
    split at h
    · cases h
      exact .pass rfl trivial
    · cases h
      exact .shrunk _ [] _ _ (fun _ _ => .mark found rfl rfl) rfl (by simp)
        fun _ grows facts _ => ⟨grows.made (facts.active id a found), by simp⟩
  | closing id token handle =>
    cases a <;> try cases h
    refine .closed _ handle false none [] [] rfl ?_ (by simp) ?_
    · split <;> rfl
    · intro s' grows past known
      split
      · exact ⟨grows.made known, past known.2⟩
      · exact grows.made known
  | failed id token handle =>
    cases a <;> try cases h
    exact .stay _ rfl fun _ known => ⟨handle, known⟩
  | sampled id token =>
    cases a <;> try cases h
    simp only [disconnectStep] at h
    split at h
    · rename_i a found
      split at h
      · cases h
        exact .shrunk _ [] _ _ (fun _ _ => .mark found rfl rfl) rfl (by simp)
          fun _ _ _ _ => ⟨trivial, by simp⟩
      · cases h
        exact .pass rfl trivial
    · cases h
      exact .pass rfl trivial
  | returned => cases a <;> cases h

theorem effect_of_closeStep {pc : ClosePc} {a : Act} (h : closeStep s pc a = some o) :
    Effect cfg s (.close pc) o := by
  unfold closeStep at h
  split at h
  · split at h
    · rename_i isClosed
      cases h
      exact .stay _ rfl fun _ _ => isClosed
    · cases h
      refine .shut _ rfl ?_ fun _ isClosed => isClosed
      simp only [view, slot, name, holds, child, List.map_map]
      rfl
  · rename_i rest _ k _
    obtain ⟨e, found, rfl⟩ := map_eq_some_iff.mp h
    refine .closed _ e.2 false none (rest.map Prod.snd) ((rest.eraseIdx k).map Prod.snd) rfl rfl ?_
      fun _ grows _ isClosed => grows.closed isClosed
    intro x member
    obtain ⟨y, listed, rfl⟩ := List.mem_map.mp member
    by_cases here : y = e
    · exact .inl (congrArg Prod.snd here)
    obtain ⟨j, at_j⟩ := mem_iff_getElem?.mp listed
    refine .inr (List.mem_map.mpr ⟨y, ?_, rfl⟩)
    refine mem_eraseIdx_iff_getElem?.mpr ⟨j, ?_, at_j⟩
    rintro rfl
    exact here (Option.some.inj (at_j.symm.trans found))
  · cases h
    exact .stay _ rfl fun _ isClosed => isClosed
  · cases h

theorem effect_of_watchRemoteClose {id : ID} {token h : Nat} (done : s.signalled h = true) :
    Effect cfg s (.watch id token h) (watchRemoteClose s id token) := by
  unfold watchRemoteClose
  split
  · exact .pass rfl trivial
  rename_i a found
  split
  · exact .pass rfl trivial
  rename_i same
  rw [ne_eq, Decidable.not_not] at same
  split
  · exact .pass rfl trivial
  split
  · exact .shrunk _ [] _ _ (fun _ _ => .mark found rfl rfl) rfl (by simp)
      fun _ _ _ _ => ⟨trivial, by simp⟩
  have removed : Facts s → Made s token id h →
      Shrinks s (s.active.erase id) s.streams := fun facts made =>
    .drop facts made (.inr done) (.inr ⟨⟨a, found, same⟩, rfl⟩) (.inl rfl)
  simp only
  split
  · exact .shrunk _ [] _ _ removed rfl (by simp) fun _ _ _ _ => ⟨trivial, by simp⟩
  rename_i e at_id
  split
  · rename_i own
    -- the stream of the connection is retained until the timer fires
    refine .shrunk _ _ _ _ (fun facts made => ?_) rfl ?_ fun s' grows facts made =>
      ⟨trivial, ?_⟩
    · have base := removed facts made
      refine ⟨base.len, base.activeOld, base.activeNew, ?_, ?_⟩
      · intro k x at_k
        rcases get_of_set at_k with ⟨rfl, rfl⟩ | ⟨-, old⟩
        · exact ⟨e, at_id, rfl, rfl, fun _ => .inr ⟨k, h, own ▸ made, .inr done⟩⟩
        · exact ⟨x, old, rfl, rfl, .inl⟩
      · intro k x at_k
        by_cases here : k = id
        · subst here
          cases at_k.symm.trans at_id
          exact .inl ⟨_, get_set_self, rfl⟩
        · exact .inl ⟨x, (get_set_of_ne here).trans at_k, rfl⟩
    · intro x member
      cases mem_singleton.mp member
      rfl
    · intro x member
      cases mem_singleton.mp member
      exact ⟨h, grows.made made, .inr (grows.signalled done)⟩
  · exact .shrunk _ [] _ _ removed rfl (by simp) fun _ _ _ _ => ⟨trivial, by simp⟩

theorem effect_of_expire (id : ID) (token : Nat) :
    Effect cfg s (.expire id token) ⟨expireTerminalStream s id token, .expired, []⟩ := by
  unfold expireTerminalStream
  split
  · rename_i found
    obtain ⟨e, at_id, matched⟩ := (Option.any_eq_true _ _).mp found
    rw [Bool.and_eq_true, decide_eq_true_eq] at matched
    refine .shrunk _ [] s.active _ (fun facts known => ?_) rfl (by simp)
      fun _ _ _ _ => ⟨trivial, by simp⟩
    obtain ⟨h, made, past⟩ := known
    exact .drop facts made past (.inl rfl) (.inr ⟨⟨e, at_id, matched.1⟩, rfl⟩)
  · exact .pass rfl trivial

theorem effect_of_removeLogicalTerminal {id : ID} {token c : Nat}
    (done : ((s.children[c]?).map Child.parent).any s.signalled = true) :
    Effect cfg s (.watchChild id token c)
      ⟨removeLogicalTerminal s id token c, .childWatched, []⟩ := by
  unfold removeLogicalTerminal
  split
  · rename_i found
    obtain ⟨e, at_id, matched⟩ := (Option.any_eq_true _ _).mp found
    rw [Bool.and_eq_true, decide_eq_true_eq, decide_eq_true_eq] at matched
    obtain ⟨parent, at_c, signalled⟩ := (Option.any_eq_true _ _).mp done
    obtain ⟨x, found_c, rfl⟩ := map_eq_some_iff.mp at_c
    refine .shrunk _ [] s.active _ (fun facts known => ?_) rfl (by simp)
      fun _ _ _ _ => ⟨trivial, by simp⟩
    obtain ⟨owner, h, y, made, found_y, rfl⟩ := known
    cases found_c.symm.trans found_y
    refine ⟨Nat.le_refl _, fun _ a at_k => ⟨a, at_k, rfl, rfl⟩, fun _ a at_k => .inl ⟨a, at_k, rfl⟩,
      fun k x at_k => ⟨x, (get_of_erase at_k).2, rfl, rfl, .inl⟩, fun k x at_k => ?_⟩
    by_cases here : k = id
    · subst here
      cases at_k.symm.trans at_id
      exact .inr ⟨owner, _, matched.1 ▸ made, .inr signalled⟩
    · exact .inl ⟨x, (get_erase_of_ne here).trans at_k, rfl⟩
  · exact .pass rfl trivial

theorem effect_of_reserveTerminalStreamID (connectionID : ID) (parent token attempt : Nat)
    (candidate : Option ID) :
    Effect cfg s (.openTerminal (.naming connectionID parent token attempt))
      (reserveTerminalStreamID s connectionID parent token attempt candidate) := by
  unfold reserveTerminalStreamID
  split
  · exact .pass rfl trivial
  split
  · exact .pass rfl trivial
  split
  · rename_i free
    refine .named _ _ false free rfl rfl fun _ grows known => ?_
    obtain ⟨id, made⟩ := known
    exact ⟨id, grows.made made⟩
  · split
    · exact .stay _ rfl fun _ known => known
    · exact .pass rfl trivial

theorem effect_of_register (connectionID id : ID) (c token : Nat) :
    Effect cfg s (.openTerminal (.registering connectionID id c token))
      (register s connectionID id c token) := by
  unfold register
  simp only
  split
  · exact .unnamed _ id (some c) rfl rfl fun _ => trivial
  rename_i isOpen
  split
  · exact .unnamed _ id (some c) rfl rfl fun _ => trivial
  rename_i parent
  split
  · exact .unnamed _ id (some c) rfl rfl fun _ => trivial
  rename_i absent
  rw [Bool.not_eq_true] at isOpen absent
  cases found : s.active.get connectionID with
  | none =>
    rw [found] at parent
    exact absurd rfl parent
  | some a =>
    rw [found, all_some, Bool.or_eq_true, not_or, decide_eq_true_eq, Decidable.not_not] at parent
    obtain ⟨-, rfl⟩ := parent
    exact .registered _ id connectionID c a isOpen (not_isSome_iff_eq_none.mp
      (Bool.eq_false_iff.mp absent)) found (fun known => known) rfl rfl
      fun _ grows known => grows.opened known

theorem activeMultiplexTerminal_made {connectionID : ID} {parent token : Nat} (facts : Facts s)
    (h : activeMultiplexTerminal s connectionID = .ok (parent, token)) :
    Made s token connectionID parent := by
  unfold activeMultiplexTerminal at h
  split at h
  · cases h
  split at h
  · cases h
  rename_i a found
  split at h
  · cases h
  · split at h <;> cases h
    exact facts.active connectionID a found

theorem effect_of_openStep {pc : OpenPc} {a : Act} (h : openStep s pc a = some o) :
    Effect cfg s (.openTerminal pc) o := by
  unfold openStep at h
  split at h
  · split at h
    · cases h
      exact .pass rfl trivial
    · rename_i found
      cases h
      exact .stay _ rfl fun facts _ => ⟨_, activeMultiplexTerminal_made facts found⟩
  · cases h
    exact effect_of_reserveTerminalStreamID _ _ _ _ _
  · cases h
    exact .pass rfl trivial
  · cases h
    exact .pass rfl trivial
  · rename_i id parent _
    cases h
    refine .born _ parent id rfl rfl (fun known => ?_) fun s' grows found known => ?_
    · obtain ⟨_, made⟩ := known
      exact made.2
    · obtain ⟨owner, made⟩ := known
      exact ⟨owner, parent, _, grows.made made, found, rfl⟩
  · cases h
    exact .pass rfl trivial
  · cases h
    exact .stay _ rfl fun _ known => known
  · cases h
    exact effect_of_register _ _ _ _
  · cases h
    exact .buried _ _ _ rfl rfl fun _ => trivial
  · cases h
    exact .buried _ _ _ rfl rfl fun _ => trivial
  · cases h
    exact .unnamed _ _ none rfl rfl fun _ => trivial
  · cases h
    refine .moved _ _ rfl ?_ fun _ known => ⟨trivial, ?_⟩
    · intro x member
      cases mem_singleton.mp member
      rfl
    · intro x member
      cases mem_singleton.mp member
      exact known
  · cases h

theorem effect_of_advance {t : Thread} {a : Act} (h : advance cfg s t a = some o) :
    Effect cfg s t o := by
  unfold advance at h
  split at h
  · exact effect_of_connectStep h
  · exact effect_of_disconnectStep h
  · exact effect_of_closeStep h
  · exact effect_of_openStep h
  · obtain ⟨done, h⟩ := ite_none_right_eq_some.mp h
    cases h
    exact effect_of_watchRemoteClose done
  · cases h
    exact effect_of_expire _ _
  · obtain ⟨done, h⟩ := ite_none_right_eq_some.mp h
    cases h
    exact effect_of_removeLogicalTerminal done
  · cases h

end Inversion

/-- Whatever a thread does, objects are only added. -/
theorem Effect.grows {cfg : Config} {s : Shared} {t : Thread} {o : Outcome}
    (effect : Effect cfg s t o) : Grows s o.shared := by
  cases effect with
  | gained => exact .push s _
  | dropped => exact .push s _
  | closed t' h => exact .closeHandle s h
  | activated =>
    exact ⟨id, fun _ _ found => Cells.at_push_old found, fun _ y found => ⟨y, found, rfl, id, id⟩,
      fun _ y found => ⟨y, found, rfl, id⟩⟩
  | shut =>
    exact ⟨fun _ => rfl, fun _ _ found => found, fun _ y found => ⟨y, found, rfl, id, id⟩,
      fun _ y found => ⟨y, found, rfl, id⟩⟩
  | born =>
    exact ⟨id, fun _ _ found => found, fun _ y found => ⟨y, found, rfl, id, id⟩,
      fun _ y found => ⟨y, Cells.at_push_old found, rfl, id⟩⟩
  | buried t' c => exact .closeChild s c
  | _ => exact .of_eq rfl rfl rfl rfl

end ConnectionObligations
