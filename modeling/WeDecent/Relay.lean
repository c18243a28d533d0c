import WeDecent.Library.Cells
import WeDecent.Library.Codec
import WeDecent.Library.GoJson
import WeDecent.Library.GoMap
import WeDecent.Library.Runs

/-!
# The self-hosted relay

`relay/server.go` and `relay/broker.go`. An agent keeps a connection parked at the relay; a client
that asks for its device gets one of the parked connections, and the relay copies bytes between the
two. The goroutine that has parked a connection waits until it is done with, but not longer than six
minutes. The broker's methods run under its mutex, each in one step. What the peers and the
connections do is up to the schedule: a `Write` may take a part of its bytes and may fail.
-/

namespace Relay

open List Option Codec GoJson GoText

abbrev Text := List UInt8

/-- What `NewBroker` makes of its arguments -/
structure Config where
  maxSlotsPerDevice : Nat
  slotTTL : Int
  slots : 1 ≤ maxSlotsPerDevice
  lasting : 0 < slotTTL

def minute : Int := 60000000000

def newBroker (maxSlotsPerDevice slotTTL : Int) : Config where
  maxSlotsPerDevice := if maxSlotsPerDevice < 1 then 8 else maxSlotsPerDevice.toNat
  slotTTL := if slotTTL ≤ 0 then 5 * minute else slotTTL
  slots := by split <;> omega
  lasting := by unfold minute; split <;> omega

inductive Message where
  | challenge (text : Text)
  | waiting
  | ready
  | error (code detail : String)

/-- `json.Marshal`; empty fields are left out. -/
def Message.data : Message → List UInt8
  | .challenge [] => literal "\x7b\"type\":\"challenge\"\x7d"
  | .challenge text =>
    literal "\x7b\"type\":\"challenge\",\"challenge\":" ++ encodeString text ++ literal "\x7d"
  | .waiting => literal "\x7b\"type\":\"waiting\"\x7d"
  | .ready => literal "\x7b\"type\":\"ready\"\x7d"
  | .error code detail =>
    literal "\x7b\"type\":\"error\",\"code\":" ++ encodeString (literal code) ++
      literal ",\"error\":" ++ encodeString (literal detail) ++ literal "\x7d"

def maxMessage : Nat := 16384

/-- What `relayproto.Write` writes -/
def Message.encode (m : Message) : List UInt8 := framed 4 m.data

/-- Why a registration is refused before the broker is asked -/
inductive Refusal where
  | badRequest
  | badDeviceID
  | badPublicKey
  | identityMismatch
  | badSignature
  deriving DecidableEq

def Refusal.message : Refusal → Message
  | .badRequest => .error "bad_request" "expected register or connect"
  | .badDeviceID => .error "bad_device_id" "invalid device ID"
  | .badPublicKey => .error "bad_public_key" "invalid Ed25519 public key"
  | .identityMismatch => .error "identity_mismatch" "device ID does not match public key"
  | .badSignature => .error "bad_signature" "invalid registration signature"

def slotLimit : Message := .error "slot_limit" "device has too many parked relay slots"

def validDeviceID (id : Text) : Bool :=
  id.length == 19 && id.take 3 == literal "wd_" && (id.drop 3).all fun c =>
    (97 ≤ c && c ≤ 122) || (50 ≤ c && c ≤ 55)

/-- Where the goroutine of an agent's connection stands; `rest` is what it has still to write. -/
inductive AgentPc where
  | challenging (rest : List UInt8)
  | reading
  | parking
  | rejecting (rest : List UInt8)
  | announcing (rest : List UInt8)
  -- It waits for the slot to be done, since a time.
  | selecting (since : Int)
  | removing
  | closing
  | returned
  deriving DecidableEq

inductive Closer where
  | pruning
  | registering
  | client (i : Nat)
  deriving DecidableEq

/-- A call of `Close` on an agent's connection, and whose the connection was then -/
structure Close where
  closer : Closer
  owner : Option Nat
  deriving DecidableEq

/-- An agent's connection, with its slot once it is parked -/
structure Agent where
  device : Text
  challenge : Text
  pc : AgentPc
  written : List UInt8
  closed : Bool
  createdAt : Int
  done : Bool
  -- The waiting message has been written.
  announced : Bool
  closes : List Close

/-- `io.Copy` from the client to the agent -/
inductive Copy where
  | reading
  | writing (data : List UInt8)
  | ended
  deriving DecidableEq

/-- Where `handleConnect` stands, and with which slot -/
inductive ClientPc where
  | taking
  | rejecting
  | readying (k : Nat) (rest : List UInt8)
  | aborting (k : Nat)
  | greeting (k : Nat)
  | bridging (k : Nat) (copy : Copy) (otherEnded : Bool)
  | closing (k : Nat)
  | finishing (k : Nat)
  | returned
  deriving DecidableEq

structure Client where
  device : Text
  pc : ClientPc
  took : Option Nat
  -- What was read from the client
  received : List UInt8

structure System where
  now : Int
  queues : GoMap Text (List Nat)
  agents : List Agent
  clients : List Client

def start (now : Int) : System := ⟨now, .empty, [], []⟩

def ClientPc.slot : ClientPc → Option Nat
  | .readying k _ | .aborting k | .greeting k | .bridging k _ _ => some k
  | .closing k | .finishing k => some k
  | _ => none

/-- The client whose `handleConnect` has the slot and has not returned -/
def System.owner (s : System) (k : Nat) : Option Nat :=
  s.clients.findIdx? fun c => decide (c.pc.slot = some k)

def System.setAgent (s : System) (k : Nat) (a : Agent) : System :=
  { s with agents := s.agents.set k a }

def System.setClient (s : System) (i : Nat) (c : Client) : System :=
  { s with clients := s.clients.set i c }

def Agent.close (a : Agent) (c : Close) : Agent :=
  { a with closed := true, closes := a.closes ++ [c] }

def System.queue (s : System) (device : Text) : List Nat := (s.queues.get device).getD []

/-- A queue that is empty is deleted. -/
def System.setQueue (s : System) (device : Text) (q : List Nat) : System :=
  { s with queues := s.queues.write device (if q = [] then none else some q) }

/-- `s.createdAt.Before(time.Now().Add(-b.slotTTL))` -/
def System.expired (cfg : Config) (s : System) (k : Nat) : Bool :=
  s.agents[k]?.any fun a => decide (a.createdAt < s.now - cfg.slotTTL)

/-- `pruneLocked` -/
def System.prune (cfg : Config) (s : System) (device : Text) : System :=
  let q := s.queue device
  let gone := q.filter (s.expired cfg)
  { s.setQueue device (q.filter fun k => !s.expired cfg k) with
    agents := s.agents.mapIdx fun k a =>
      if k ∈ gone then { a.close ⟨.pruning, s.owner k⟩ with done := true } else a }

/-- `Park`, and what `handleRegister` goes on with -/
def System.park (cfg : Config) (s : System) (k : Nat) (a : Agent) : System :=
  let s' := s.prune cfg a.device
  let q := s'.queue a.device
  if cfg.maxSlotsPerDevice ≤ q.length then
    s'.setAgent k { a with pc := .rejecting slotLimit.encode }
  else (s'.setQueue a.device (q ++ [k])).setAgent k
    { a with pc := .announcing Message.waiting.encode, createdAt := s.now }

/-- `Take` -/
def System.take (cfg : Config) (s : System) (device : Text) : System × Option Nat :=
  let s' := s.prune cfg device
  match s'.queue device with
  | [] => (s', none)
  | k :: rest => (s'.setQueue device rest, some k)

/-- `Remove` -/
def System.remove (s : System) (device : Text) (k : Nat) : System :=
  s.setQueue device ((s.queue device).erase k)

inductive Input where
  | go
  | fail
  -- `Write` takes `n` bytes, and may report an error.
  | wrote (n : Nat) (fails : Bool)
  | bytes (data : List UInt8)
  | refuse (why : Refusal)
  deriving DecidableEq

inductive Progress where
  | failed
  | more (rest : List UInt8)
  | all
  deriving DecidableEq

/-- A round of `writeAll`. Nothing is written to a closed connection. -/
def progress (closed : Bool) (rest : List UInt8) (n : Nat) (fails : Bool) : Option Progress :=
  if rest.length < n ∨ (closed = true ∧ 0 < n) then none
  else if fails = true ∨ n = 0 then some .failed
  else if n = rest.length then some .all
  else some (.more (rest.drop n))

/-- Where a goroutine stands after a round -/
def Progress.then {Pc : Type} (p : Progress) (more : List UInt8 → Pc) (all failed : Pc) : Pc :=
  match p with
  | .failed => failed
  | .more rest => more rest
  | .all => all

def System.stepAgent (cfg : Config) (s : System) (k : Nat) (a : Agent) (input : Input) :
    Option System :=
  match a.pc, input with
  | .challenging rest, .wrote n fails => (progress a.closed rest n fails).map fun p =>
    s.setAgent k { a with
      written := a.written ++ rest.take n, pc := p.then .challenging .reading .closing }
  | .reading, .go => some (s.setAgent k { a with pc := .parking })
  | .reading, .fail => some (s.setAgent k { a with pc := .closing })
  | .reading, .refuse why => some (s.setAgent k { a with pc := .rejecting why.message.encode })
  | .rejecting rest, .wrote n fails => (progress a.closed rest n fails).map fun p =>
    s.setAgent k { a with
      written := a.written ++ rest.take n, pc := p.then .rejecting .closing .closing }
  | .parking, .go => some (s.park cfg k a)
  | .announcing rest, .wrote n fails => (progress a.closed rest n fails).map fun p =>
    s.setAgent k { a with
      written := a.written ++ rest.take n, pc := p.then .announcing (.selecting s.now) .removing,
      announced := decide (p = .all) }
  | .selecting _, .go => if a.done then some (s.setAgent k { a with pc := .returned }) else none
  -- `time.After(6 * time.Minute)`
  | .selecting since, .fail =>
    if since + 6 * minute ≤ s.now then some (s.setAgent k { a with pc := .removing }) else none
  | .removing, .go => some ((s.remove a.device k).setAgent k { a with pc := .closing })
  | .closing, .go =>
    some (s.setAgent k { a.close ⟨.registering, s.owner k⟩ with pc := .returned })
  | _, _ => none

def System.stepClient (cfg : Config) (s : System) (i : Nat) (c : Client) (input : Input) :
    Option System :=
  match c.pc, input with
  | .taking, .go =>
    if validDeviceID c.device then
      match s.take cfg c.device with
      | (s', none) => some (s'.setClient i { c with pc := .rejecting })
      | (s', some k) =>
        some (s'.setClient i { c with pc := .readying k Message.ready.encode, took := some k })
    else some (s.setClient i { c with pc := .rejecting })
  | .rejecting, .go => some (s.setClient i { c with pc := .returned })
  | .readying k rest, .wrote n fails => s.agents[k]?.bind fun a =>
    (progress a.closed rest n fails).map fun p =>
      (s.setAgent k { a with written := a.written ++ rest.take n }).setClient i
        { c with pc := p.then (.readying k) (.greeting k) (.aborting k) }
  -- The write of the ready message to the client, which is closed together with the agent
  | .greeting k, .go => some (s.setClient i { c with pc := .bridging k .reading false })
  | .greeting k, .fail => some (s.setClient i { c with pc := .aborting k })
  | .aborting k, .go => s.agents[k]?.map fun a =>
    (s.setAgent k (a.close ⟨.client i, s.owner k⟩)).setClient i { c with pc := .finishing k }
  | .bridging k .reading other, .bytes data =>
    if data = [] then none
    else some (s.setClient i
      { c with pc := .bridging k (.writing data) other, received := c.received ++ data })
  | .bridging k .reading other, .fail =>
    some (s.setClient i { c with pc := .bridging k .ended other })
  -- `io.Copy` ends when `Write` takes less than it is given.
  | .bridging k (.writing data) other, .wrote n fails => s.agents[k]?.bind fun a =>
    (progress a.closed data n fails).map fun p =>
      (s.setAgent k { a with written := a.written ++ data.take n }).setClient i
        { c with pc := .bridging k (p.then (fun _ => .ended) .reading .ended) other }
  | .bridging k copy false, .go => some (s.setClient i { c with pc := .bridging k copy true })
  | .bridging k .ended true, .go => some (s.setClient i { c with pc := .closing k })
  | .closing k, .go => s.agents[k]?.map fun a =>
    (s.setAgent k (a.close ⟨.client i, s.owner k⟩)).setClient i { c with pc := .finishing k }
  | .finishing k, .go => s.agents[k]?.map fun a =>
    (s.setAgent k { a with done := true }).setClient i { c with pc := .returned }
  | _, _ => none

inductive Action where
  | tick (elapsed : Nat)
  -- The connection of an agent of the device, and the challenge that it is given
  | accept (device challenge : Text)
  | agent (k : Nat) (input : Input)
  | connect (device : Text)
  | client (i : Nat) (input : Input)

def step (cfg : Config) (s : System) : Action → Option System
  | .tick elapsed => some { s with now := s.now + elapsed }
  | .accept device challenge =>
    let m := Message.challenge challenge
    let pc := if maxMessage < m.data.length then AgentPc.closing else .challenging m.encode
    some { s with
      agents := s.agents ++ [⟨device, challenge, pc, [], false, 0, false, false, []⟩] }
  | .agent k input => s.agents[k]?.bind fun a => s.stepAgent cfg k a input
  | .connect device => some { s with clients := s.clients ++ [⟨device, .taking, none, []⟩] }
  | .client i input => s.clients[i]?.bind fun c => s.stepClient cfg i c input

inductive AgentMoves (cfg : Config) (s : System) (k : Nat) (a : Agent) : Input → System → Prop
  | challenge {rest : List UInt8} {n : Nat} {fails : Bool} {p : Progress}
      (at_ : a.pc = .challenging rest) (round : progress a.closed rest n fails = some p) :
      AgentMoves cfg s k a (.wrote n fails) (s.setAgent k { a with
        written := a.written ++ rest.take n, pc := p.then .challenging .reading .closing })
  | admitted (at_ : a.pc = .reading) :
      AgentMoves cfg s k a .go (s.setAgent k { a with pc := .parking })
  | drop (at_ : a.pc = .reading) :
      AgentMoves cfg s k a .fail (s.setAgent k { a with pc := .closing })
  | refuse {why : Refusal} (at_ : a.pc = .reading) : AgentMoves cfg s k a (.refuse why)
      (s.setAgent k { a with pc := .rejecting why.message.encode })
  | reject {rest : List UInt8} {n : Nat} {fails : Bool} {p : Progress}
      (at_ : a.pc = .rejecting rest) (round : progress a.closed rest n fails = some p) :
      AgentMoves cfg s k a (.wrote n fails) (s.setAgent k { a with
        written := a.written ++ rest.take n, pc := p.then .rejecting .closing .closing })
  | park (at_ : a.pc = .parking) : AgentMoves cfg s k a .go (s.park cfg k a)
  | announce {rest : List UInt8} {n : Nat} {fails : Bool} {p : Progress}
      (at_ : a.pc = .announcing rest) (round : progress a.closed rest n fails = some p) :
      AgentMoves cfg s k a (.wrote n fails) (s.setAgent k { a with
        written := a.written ++ rest.take n, pc := p.then .announcing (.selecting s.now) .removing,
        announced := decide (p = .all) })
  | wake {since : Int} (at_ : a.pc = .selecting since) (done : a.done = true) :
      AgentMoves cfg s k a .go (s.setAgent k { a with pc := .returned })
  | expire {since : Int} (at_ : a.pc = .selecting since) (late : since + 6 * minute ≤ s.now) :
      AgentMoves cfg s k a .fail (s.setAgent k { a with pc := .removing })
  | remove (at_ : a.pc = .removing) : AgentMoves cfg s k a .go
      ((s.remove a.device k).setAgent k { a with pc := .closing })
  | close (at_ : a.pc = .closing) : AgentMoves cfg s k a .go
      (s.setAgent k { a.close ⟨.registering, s.owner k⟩ with pc := .returned })

inductive ClientMoves (cfg : Config) (s : System) (i : Nat) (c : Client) : Input → System → Prop
  | invalid (at_ : c.pc = .taking) :
      ClientMoves cfg s i c .go (s.setClient i { c with pc := .rejecting })
  | unavailable {s' : System} (at_ : c.pc = .taking) (take : s.take cfg c.device = (s', none)) :
      ClientMoves cfg s i c .go (s'.setClient i { c with pc := .rejecting })
  | take {s' : System} {k : Nat} (at_ : c.pc = .taking)
      (take : s.take cfg c.device = (s', some k)) : ClientMoves cfg s i c .go
        (s'.setClient i { c with pc := .readying k Message.ready.encode, took := some k })
  | reject (at_ : c.pc = .rejecting) :
      ClientMoves cfg s i c .go (s.setClient i { c with pc := .returned })
  | ready {k n : Nat} {rest : List UInt8} {fails : Bool} {a : Agent} {p : Progress}
      (at_ : c.pc = .readying k rest) (found : s.agents[k]? = some a)
      (round : progress a.closed rest n fails = some p) : ClientMoves cfg s i c (.wrote n fails)
        ((s.setAgent k { a with written := a.written ++ rest.take n }).setClient i
          { c with pc := p.then (.readying k) (.greeting k) (.aborting k) })
  | greet {k : Nat} (at_ : c.pc = .greeting k) :
      ClientMoves cfg s i c .go (s.setClient i { c with pc := .bridging k .reading false })
  | lost {k : Nat} (at_ : c.pc = .greeting k) :
      ClientMoves cfg s i c .fail (s.setClient i { c with pc := .aborting k })
  | close {k : Nat} {a : Agent} (at_ : c.pc = .aborting k ∨ c.pc = .closing k)
      (found : s.agents[k]? = some a) : ClientMoves cfg s i c .go
        ((s.setAgent k (a.close ⟨.client i, s.owner k⟩)).setClient i { c with pc := .finishing k })
  | read {k : Nat} {other : Bool} {data : List UInt8} (at_ : c.pc = .bridging k .reading other) :
      ClientMoves cfg s i c (.bytes data) (s.setClient i
        { c with pc := .bridging k (.writing data) other, received := c.received ++ data })
  | silent {k : Nat} {other : Bool} (at_ : c.pc = .bridging k .reading other) :
      ClientMoves cfg s i c .fail (s.setClient i { c with pc := .bridging k .ended other })
  | copy {k n : Nat} {other fails : Bool} {data : List UInt8} {a : Agent} {p : Progress}
      (at_ : c.pc = .bridging k (.writing data) other) (found : s.agents[k]? = some a)
      (round : progress a.closed data n fails = some p) : ClientMoves cfg s i c (.wrote n fails)
        ((s.setAgent k { a with written := a.written ++ data.take n }).setClient i
          { c with pc := .bridging k (p.then (fun _ => .ended) .reading .ended) other })
  | otherEnd {k : Nat} {copy : Copy} (at_ : c.pc = .bridging k copy false) :
      ClientMoves cfg s i c .go (s.setClient i { c with pc := .bridging k copy true })
  | past {k : Nat} (at_ : c.pc = .bridging k .ended true) :
      ClientMoves cfg s i c .go (s.setClient i { c with pc := .closing k })
  | finish {k : Nat} {a : Agent} (at_ : c.pc = .finishing k) (found : s.agents[k]? = some a) :
      ClientMoves cfg s i c .go
        ((s.setAgent k { a with done := true }).setClient i { c with pc := .returned })

section Moves

variable {cfg : Config} {s s' : System} {k i : Nat} {a : Agent} {c : Client} {input : Input}

theorem agentMoves_of_step (h : s.stepAgent cfg k a input = some s') :
    AgentMoves cfg s k a input s' := by
  unfold System.stepAgent at h
  split at h
  · rename_i at_
    obtain ⟨p, round, rfl⟩ := map_eq_some_iff.mp h
    exact .challenge at_ round
  · rename_i at_
    cases h
    exact .admitted at_
  · rename_i at_
    cases h
    exact .drop at_
  · rename_i at_
    cases h
    exact .refuse at_
  · rename_i at_
    obtain ⟨p, round, rfl⟩ := map_eq_some_iff.mp h
    exact .reject at_ round
  · rename_i at_
    cases h
    exact .park at_
  · rename_i at_
    obtain ⟨p, round, rfl⟩ := map_eq_some_iff.mp h
    exact .announce at_ round
  · rename_i at_
    split at h
    · rename_i done
      cases h
      exact .wake at_ done
    · cases h
  · rename_i at_
    split at h
    · rename_i late
      cases h
      exact .expire at_ late
    · cases h
  · rename_i at_
    cases h
    exact .remove at_
  · rename_i at_
    cases h
    exact .close at_
  · cases h

theorem clientMoves_of_step (h : s.stepClient cfg i c input = some s') :
    ClientMoves cfg s i c input s' := by
  unfold System.stepClient at h
  split at h
  · rename_i at_
    split at h
    · split at h
      · rename_i took
        cases h
        exact .unavailable at_ took
      · rename_i took
        cases h
        exact .take at_ took
    · cases h
      exact .invalid at_
  · rename_i at_
    cases h
    exact .reject at_
  · rename_i at_
    obtain ⟨a, found, h⟩ := bind_eq_some_iff.mp h
    obtain ⟨p, round, rfl⟩ := map_eq_some_iff.mp h
    exact .ready at_ found round
  · rename_i at_
    cases h
    exact .greet at_
  · rename_i at_
    cases h
    exact .lost at_
  · rename_i at_
    obtain ⟨a, found, rfl⟩ := map_eq_some_iff.mp h
    exact .close (.inl at_) found
  · rename_i at_
    split at h
    · cases h
    · cases h
      exact .read at_
  · rename_i at_
    cases h
    exact .silent at_
  · rename_i at_
    obtain ⟨a, found, h⟩ := bind_eq_some_iff.mp h
    obtain ⟨p, round, rfl⟩ := map_eq_some_iff.mp h
    exact .copy at_ found round
  · rename_i at_
    cases h
    exact .otherEnd at_
  · rename_i at_
    cases h
    exact .past at_
  · rename_i at_
    obtain ⟨a, found, rfl⟩ := map_eq_some_iff.mp h
    exact .close (.inr at_) found
  · rename_i at_
    obtain ⟨a, found, rfl⟩ := map_eq_some_iff.mp h
    exact .finish at_ found
  · cases h

end Moves

section Queues

variable {cfg : Config} {s : System} {device device' : Text} {q : List Nat} {k : Nat}

@[simp] theorem queue_setQueue_self : (s.setQueue device q).queue device = q := by
  rw [System.queue, System.setQueue, GoMap.get_write_self]
  split
  · rename_i empty
    exact empty.symm
  · rfl

theorem queue_setQueue_other (other : device' ≠ device) :
    (s.setQueue device q).queue device' = s.queue device' := by
  rw [System.queue, System.setQueue, GoMap.get_write_of_ne other, System.queue]

theorem queue_prune_self :
    (s.prune cfg device).queue device = (s.queue device).filter fun k => !s.expired cfg k :=
  queue_setQueue_self

theorem queue_prune_other (other : device' ≠ device) :
    (s.prune cfg device).queue device' = s.queue device' :=
  queue_setQueue_other other

theorem agents_prune (k : Nat) : (s.prune cfg device).agents[k]? = s.agents[k]?.map fun a =>
    if k ∈ (s.queue device).filter (s.expired cfg)
    then { a.close ⟨.pruning, s.owner k⟩ with done := true } else a :=
  List.getElem?_mapIdx

end Queues

def sampleDevice : Text := literal "wd_aaaaaaaaaaaaaaaa"

/-- The challenge that 32 zero bytes give -/
def sampleChallenge : Text := replicate 43 65

end Relay
