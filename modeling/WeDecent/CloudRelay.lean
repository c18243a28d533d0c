import WeDecent.Library.Cells
import WeDecent.Library.JavaScript
import WeDecent.Library.Pairing

/-!
# The cloud relay

The Durable Object of a device in `cloudflare/relay-worker/src/index.js`. Agents keep sockets parked
at it. A client that is admitted is attached to a free one: each of the two sockets names the other
in its attachment, and what arrives at one is sent to the other. Clients are admitted one at a time,
along a chain of promises; between the choice of an agent and its attachment the admission awaits
the storage, and everything else may happen there.
-/

namespace CloudRelay

open List Option JavaScript Pairing

universe u v

inductive Role where
  | agent
  | client
  deriving DecidableEq

inductive ReadyState where
  | opened
  | closing
  | closed
  deriving DecidableEq

structure Attachment (Id : Type u) where
  id : Id
  role : Role
  peerId : Option Id
  slot : Option Number

structure Socket (Id : Type u) where
  tag : Role
  attachment : Attachment Id
  readyState : ReadyState
  -- `getWebSockets` still returns it.
  listed : Bool

inductive Closer where
  | retiring
  | handling

/-- A call of `close`, and the peer that the socket had then -/
structure Close (Id : Type u) where
  closer : Closer
  socket : Nat
  peerId : Option Id
  code : Nat
  reason : Text

structure Sent (Message : Type v) where
  source : Nat
  target : Nat
  message : Message

inductive Response where
  | attached
  | unavailable
  | noMetadata
  | alreadyUsed
  | failed
  deriving DecidableEq

/-- Where `#acceptClient` stands, with the agent that it has chosen -/
inductive CallPc where
  | waiting
  | consuming (agent : Nat)
  | scheduling (agent : Nat)
  | returning (response : Response)
  | returned (response : Response)
  deriving DecidableEq

structure Call where
  previous : Option Nat
  pc : CallPc

structure State (Id : Type u) (Message : Type v) where
  sockets : List (Socket Id)
  calls : List Call
  clientAdmission : Option Nat
  sent : List (Sent Message)
  closes : List (Close Id)
  -- The sockets that had a peer when they were closed or failed
  parted : List Nat

section Code

variable {Id : Type u} {Message : Type v} [DecidableEq Id]

def start : State Id Message := ⟨[], [], none, [], [], []⟩

/-- An order in which the runtime may list the sockets -/
def State.lists (s : State Id Message) (order : List Nat) : Bool :=
  order.all (fun k => s.sockets[k]?.any (·.listed)) &&
    (range s.sockets.length).all fun k => !s.sockets[k]?.any (·.listed) || k ∈ order

def State.getWebSockets (s : State Id Message) (order : List Nat) (tag : Role) : List Nat :=
  order.filter fun k => s.sockets[k]?.any fun x => decide (x.tag = tag)

def State.findSocket (s : State Id Message) (order : List Nat) (id : Id) : Option Nat :=
  order.find? fun k => s.sockets[k]?.any fun x => decide (x.attachment.id = id)

def Socket.isOpen (x : Socket Id) : Bool := decide (x.readyState = .opened)

def Socket.free (x : Socket Id) : Bool :=
  x.isOpen && decide (x.attachment.role = .agent) && x.attachment.peerId.isNone

def Socket.close (x : Socket Id) : Socket Id :=
  { x with readyState := if x.readyState = .opened then .closing else x.readyState }

def State.close (s : State Id Message) (closer : Closer) (k : Nat) (code : Nat) (reason : Text) :
    State Id Message :=
  { s with
    sockets := s.sockets.modify k Socket.close
    closes := s.closes ++ [⟨closer, k, s.sockets[k]?.bind (·.attachment.peerId), code, reason⟩] }

def legacy (x : Socket Id) : Bool := !x.attachment.slot.any Number.isInteger

def duplicateSlot (slot : Number) (x : Socket Id) : Bool :=
  x.attachment.slot.any fun other => other.strictEqual slot

def State.retire (s : State Id Message) (slot : Number) (k : Nat) : State Id Message :=
  match s.sockets[k]? with
  | some x =>
    if x.free && (legacy x || duplicateSlot slot x) then
      s.close .retiring k 1000 (text
        (if legacy x then "Replaced legacy relay slot" else "Superseded relay slot"))
    else s
  | none => s

/-- `#retireSupersededFreeAgents` -/
def State.retireSupersededFreeAgents (s : State Id Message) (order : List Nat) (slot : Number) :
    State Id Message :=
  (s.getWebSockets order .agent).foldl (fun s k => s.retire slot k) s

/-- `#acceptAgent`, with what `Number.parseInt` makes of the slot -/
def State.acceptAgent (s : State Id Message) (order : List Nat) (slot : Option Number) (id : Id) :
    State Id Message :=
  let s' := match slot with
    | some n => s.retireSupersededFreeAgents order n
    | none => s
  { s' with sockets := s'.sockets ++ [⟨.agent, ⟨id, .agent, none, slot⟩, .opened, true⟩] }

/-- `#acceptClient`, until it awaits the admission before it -/
def State.acceptClient (s : State Id Message) : State Id Message :=
  { s with
    calls := s.calls ++ [⟨s.clientAdmission, .waiting⟩]
    clientAdmission := some s.calls.length }

def CallPc.released : CallPc → Bool
  | .returned _ => true
  | _ => false

def CallPc.agent : CallPc → Option Nat
  | .consuming k => some k
  | .scheduling k => some k
  | _ => none

def State.setCall (s : State Id Message) (n : Nat) (c : Call) (pc : CallPc) : State Id Message :=
  { s with calls := s.calls.set n { c with pc := pc } }

def State.findAgent (s : State Id Message) (order : List Nat) : Option Nat :=
  (s.getWebSockets order .agent).find? fun k => s.sockets[k]?.any (·.free)

def Socket.setPeer (x : Socket Id) (peerId : Id) : Socket Id :=
  { x with attachment := { x.attachment with peerId := some peerId } }

/-- The two attachments, and the client's socket -/
def State.attach (s : State Id Message) (k : Nat) (x : Socket Id) (clientId : Id) :
    State Id Message :=
  { s with
    sockets := s.sockets.set k (x.setPeer clientId) ++
      [⟨.client, ⟨clientId, .client, some x.attachment.id, none⟩, .opened, true⟩] }

inductive CallInput (Id : Type u) where
  -- The admission before is over; the request has its replay metadata, or not.
  | resume (order : List Nat) (replay : Bool)
  | consumed (accepted : Bool)
  | scheduled (clientId : Id)
  | throws
  | release

def State.fresh (s : State Id Message) (id : Id) : Bool :=
  s.sockets.all fun x => decide (x.attachment.id ≠ id)

def State.stepCall (s : State Id Message) (n : Nat) (c : Call) :
    CallInput Id → Option (State Id Message)
  | .resume order replay =>
    if c.pc = .waiting ∧ s.lists order = true ∧
        c.previous.all (fun p => s.calls[p]?.any (·.pc.released)) = true then
      some (s.setCall n c (match s.findAgent order with
        | none => .returning .unavailable
        | some k => if replay then .consuming k else .returning .noMetadata))
    else none
  | .consumed accepted =>
    match c.pc with
    | .consuming k =>
      some (s.setCall n c (if accepted then .scheduling k else .returning .alreadyUsed))
    | _ => none
  | .scheduled clientId =>
    match c.pc with
    | .scheduling k => s.sockets[k]?.bind fun x =>
      if s.fresh clientId then some ((s.attach k x clientId).setCall n c (.returning .attached))
      else none
    | _ => none
  | .throws =>
    match c.pc with
    | .consuming _ => some (s.setCall n c (.returning .failed))
    | .scheduling _ => some (s.setCall n c (.returning .failed))
    | _ => none
  | .release =>
    match c.pc with
    | .returning response => some (s.setCall n c (.returned response))
    | _ => none

/-- Whether the peer is there to be sent to or closed -/
def State.openPeer (s : State Id Message) (order : List Nat) (id : Id) : Option Nat :=
  (s.findSocket order id).filter fun k => s.sockets[k]?.any (·.isOpen)

def State.webSocketMessage (s : State Id Message) (order : List Nat) (k : Nat) (x : Socket Id)
    (message : Message) : State Id Message :=
  match x.attachment.peerId with
  | none => s.close .handling k 1011 (text "Relay peer is not attached")
  | some id =>
    match s.openPeer order id with
    | none => s.close .handling k 1011 (text "Relay peer disconnected")
    | some peer => { s with sent := s.sent ++ [⟨k, peer, message⟩] }

/-- What `webSocketClose` and `webSocketError` do, with the code and the reason for the peer -/
def State.part (s : State Id Message) (order : List Nat) (k : Nat) (x : Socket Id) (code : Nat)
    (reason : Text) : State Id Message :=
  match x.attachment.peerId with
  | none => s
  | some id =>
    let s' := match s.openPeer order id with
      | none => s
      | some peer => s.close .handling peer code reason
    { s' with parted := s'.parted ++ [k] }

def State.webSocketClose (s : State Id Message) (order : List Nat) (k : Nat) (x : Socket Id)
    (code : Nat) (reason : Text) : State Id Message :=
  s.part order k x (if code = 1000 then 1000 else 1011)
    (if reason = [] then text "Relay peer disconnected" else reason)

def State.webSocketError (s : State Id Message) (order : List Nat) (k : Nat) (x : Socket Id) :
    State Id Message :=
  s.part order k x 1011 (text "Relay peer error")

inductive Event (Message : Type v) where
  | message (message : Message)
  | close (code : Nat) (reason : Text)
  | error

inductive Action (Id : Type u) (Message : Type v) where
  | acceptAgent (order : List Nat) (slot : Option Number) (id : Id)
  | acceptClient
  | call (n : Nat) (input : CallInput Id)
  | event (order : List Nat) (k : Nat) (event : Event Message)
  -- The connection of a socket closes, or is gone.
  | network (k : Nat) (readyState : ReadyState) (listed : Bool)
  -- The object is evicted. Its sockets and their attachments outlive it.
  | restart

def State.handle (s : State Id Message) (order : List Nat) (k : Nat) (x : Socket Id) :
    Event Message → State Id Message
  | .message message => s.webSocketMessage order k x message
  | .close code reason => s.webSocketClose order k x code reason
  | .error => s.webSocketError order k x

def step (s : State Id Message) : Action Id Message → Option (State Id Message)
  | .acceptAgent order slot id =>
    if s.lists order = true ∧ s.fresh id = true then some (s.acceptAgent order slot id) else none
  | .acceptClient => some s.acceptClient
  | .call n input => s.calls[n]?.bind fun c => s.stepCall n c input
  | .event order k event => s.sockets[k]?.bind fun x =>
    if s.lists order then some (s.handle order k x event) else none
  | .network k readyState listed => s.sockets[k]?.bind fun x =>
    -- A socket that is open is listed, and one that is not does not open again.
    if readyState = .opened then none
    else some { s with
      sockets := s.sockets.set k { x with readyState := readyState, listed := x.listed && listed } }
  | .restart => some { s with calls := [], clientAdmission := none }

end Code

section Attachments

variable {Id : Type u} {Message : Type v}

def Socket.entry (x : Socket Id) : Entry Id :=
  ⟨x.attachment.id, decide (x.attachment.role = .agent), x.attachment.peerId⟩

def State.entries (s : State Id Message) : List (Entry Id) := s.sockets.map Socket.entry

variable {s s' : State Id Message} {k : Nat} {x y : Socket Id} {e : Entry Id}

theorem at_entries (h : s.entries[k]? = some e) : ∃ x, s.sockets[k]? = some x ∧ x.entry = e := by
  rw [State.entries, List.getElem?_map] at h
  exact map_eq_some_iff.mp h

theorem entries_at (h : s.sockets[k]? = some x) : s.entries[k]? = some x.entry := by
  rw [State.entries, List.getElem?_map, h]
  rfl

/-- The sockets keep their attachments, none is opened again, and those still open are listed as
before. -/
structure Quiet (l l' : List (Socket Id)) : Prop where
  length : l'.length = l.length
  socket : ∀ (k : Nat) x y, l[k]? = some x → l'[k]? = some y → y.attachment = x.attachment ∧
    (y.readyState = .opened → x.readyState = .opened ∧ y.listed = x.listed)

variable {l l' l'' : List (Socket Id)}

theorem Quiet.refl (l : List (Socket Id)) : Quiet l l where
  length := rfl
  socket k x y at_k at_k' := by
    cases at_k.symm.trans at_k'
    exact ⟨rfl, fun opened => ⟨opened, rfl⟩⟩

theorem Quiet.at (quiet : Quiet l l') (found : l[k]? = some x) :
    ∃ y, l'[k]? = some y ∧ y.attachment = x.attachment ∧
      (y.readyState = .opened → x.readyState = .opened ∧ y.listed = x.listed) := by
  have bound : k < l'.length := by
    rw [quiet.length]
    exact (List.getElem?_eq_some_iff.mp found).1
  have found' := List.getElem?_eq_getElem bound
  exact ⟨_, found', quiet.socket k x _ found found'⟩

theorem Quiet.before (quiet : Quiet l l') (found : l'[k]? = some y) : ∃ x, l[k]? = some x := by
  have bound : k < l.length := by
    rw [← quiet.length]
    exact (List.getElem?_eq_some_iff.mp found).1
  exact ⟨_, List.getElem?_eq_getElem bound⟩

theorem Quiet.entries (quiet : Quiet l l') : l'.map Socket.entry = l.map Socket.entry := by
  refine ext_getElem? fun k => ?_
  rw [List.getElem?_map, List.getElem?_map]
  cases found : l[k]? with
  | none =>
    rw [List.getElem?_eq_none_iff.mpr]
    rw [quiet.length]
    exact List.getElem?_eq_none_iff.mp found
  | some =>
    obtain ⟨y, found', same, -⟩ := quiet.at found
    rw [found', map_some, map_some, Socket.entry, same, Socket.entry]

theorem Quiet.trans (h : Quiet l l') (h' : Quiet l' l'') : Quiet l l'' where
  length := h'.length.trans h.length
  socket k x z at_x at_z := by
    obtain ⟨y, at_y, same, opened⟩ := h.at at_x
    obtain ⟨same', opened'⟩ := h'.socket k y z at_y at_z
    refine ⟨same'.trans same, fun now => ?_⟩
    obtain ⟨before, listed⟩ := opened' now
    obtain ⟨before', listed'⟩ := opened before
    exact ⟨before', listed.trans listed'⟩

theorem quiet_close (l : List (Socket Id)) (k : Nat) : Quiet l (l.modify k Socket.close) where
  length := length_modify ..
  socket j x y at_x at_y := by
    obtain ⟨a, at_a, rfl⟩ := Cells.at_modify at_y
    cases at_x.symm.trans at_a
    split
    · refine ⟨rfl, fun opened => ?_⟩
      unfold Socket.close at opened
      dsimp only at opened
      split at opened
      · cases opened
      · exact ⟨opened, rfl⟩
    · exact ⟨rfl, fun opened => ⟨opened, rfl⟩⟩

theorem quiet_set (found : l[k]? = some x) (same : y.attachment = x.attachment)
    (shut : y.readyState = .opened → x.readyState = .opened ∧ y.listed = x.listed) :
    Quiet l (l.set k y) where
  length := length_set
  socket j a b at_a at_b := by
    rcases Cells.at_set at_b with ⟨rfl, rfl⟩ | ⟨-, at_b⟩
    · cases found.symm.trans at_a
      exact ⟨same, shut⟩
    · cases at_a.symm.trans at_b
      exact ⟨rfl, fun opened => ⟨opened, rfl⟩⟩

end Attachments

end CloudRelay
