import WeDecent.CoreRequests
import WeDecent.Library.Cells
import WeDecent.Library.GoMap
import WeDecent.Library.Runs

/-!
# The connection service of the local Core

`coreapi/connection_service.go` and `OpenTerminalStream` of `terminal_stream_service.go`. Every
call and every goroutine is a thread; what it does under the lock `s.mu`, and every call of the
backend or look at a context outside it, is one step. The backend answers as it likes, and the
channel that a handle returns from `Done` may be closed at any time.
-/

namespace ConnectionService

open CoreRequests

abbrev ID := Bytes

inductive ConnectionPath where
  | direct
  | lan
  | routed
  | relay
  | unknown

def validConnectionPath : ConnectionPath → Bool
  | .direct => true
  | .lan => true
  | .routed => true
  | .relay => true
  | .unknown => false

/-- `v1.Connection`; its state is always `connected`. -/
structure Connection where
  id : ID
  deviceID : Bytes
  path : ConnectionPath
  startedAt : Int

/-- A handle of the backend: which interfaces it has, whether `Done` returns a channel and
that channel is closed, and whether `Close` was called. -/
structure Handle where
  terminal : Bool
  multiplex : Bool
  observable : Bool
  done : Bool
  closeCalled : Bool

/-- A terminal that the backend opened on a handle, and whether `CloseTerminalStream` was
called for it. -/
structure Child where
  parent : Nat
  closeCalled : Bool

structure ActiveConnection where
  connection : Connection
  handle : Nat
  closing : Bool
  suppressDone : Bool
  token : Nat

inductive StreamHandle where
  | own (handle : Nat)
  | child (child : Nat)
deriving DecidableEq

structure TerminalStreamEntry where
  handle : StreamHandle
  token : Nat
  closed : Bool

/-- The connection that a token was made for -/
structure Generation where
  id : ID
  handle : Nat

/-- `NewConnectionService` refuses other limits. -/
structure Config where
  max : Nat
  bounds : 1 ≤ max ∧ max ≤ 1024

theorem one_bounds : 1 ≤ 1 ∧ 1 ≤ 1024 := by decide

def maxConnectionIDAttempts : Nat := 8

def retainedTerminalStreamScale : Nat := 2

/-- The fields of the service, with the objects it has been given. Tokens are indices of
`generations`. -/
structure Shared where
  opening : Int
  active : GoMap ID ActiveConnection
  streams : GoMap ID TerminalStreamEntry
  reserved : GoMap ID Unit
  closed : Bool
  generations : List Generation
  handles : List Handle
  children : List Child

namespace Shared

def initial : Shared := ⟨0, .empty, .empty, .empty, false, [], [], []⟩

/-- `Close` is called on a handle. -/
def closeHandle (s : Shared) (h : Nat) : Shared :=
  { s with handles := s.handles.modify h fun x => { x with closeCalled := true } }

/-- `CloseTerminalStream` is called for a child. -/
def closeChild (s : Shared) (c : Nat) : Shared :=
  { s with children := s.children.modify c fun x => { x with closeCalled := true } }

/-- The channel of the handle is closed. -/
def signalled (s : Shared) (h : Nat) : Bool := (s.handles[h]?).any fun x => x.observable && x.done

/-- The handle closes its channel. -/
def signal (s : Shared) (h : Nat) : Shared :=
  { s with handles := s.handles.modify h fun x => { x with done := true } }

def releaseOpening (s : Shared) : Shared :=
  { s with opening := if 0 < s.opening then s.opening - 1 else s.opening }

def releaseOpeningAndID (s : Shared) (id : ID) : Shared :=
  { s.releaseOpening with reserved := s.reserved.erase id }

def free (s : Shared) (id : ID) : Bool :=
  (s.active.get id).isNone && (s.streams.get id).isNone && (s.reserved.get id).isNone

end Shared

/-- Which retained streams go is up to the iteration order of the map, here `picks`. -/
def pruneRetainedStreamsLocked (cfg : Config) :
    List ID → GoMap ID TerminalStreamEntry → Option (GoMap ID TerminalStreamEntry)
  | picks, streams =>
    let limit := Nat.max (cfg.max * retainedTerminalStreamScale) (cfg.max + 1)
    if streams.len < limit then if picks.isEmpty then some streams else none
    else
      match picks with
      | [] => if streams.entries.any fun e => e.2.closed then none else some streams
      | id :: rest =>
        if (streams.get id).any fun e => e.closed then
          pruneRetainedStreamsLocked cfg rest (streams.erase id)
        else none

/-- `OpenedConnection` -/
structure Opened where
  handle : Option Handle
  path : ConnectionPath

inductive Act where
  | go
  /-- A look at the caller's context -/
  | ctx (err : Option ContextError)
  /-- A new random ID, or the error of the random source -/
  | name (id : Option ID)
  /-- The answer of the backend's `Open`, and whether it is an error -/
  | backend (opened : Opened) (failed : Bool)
  /-- The time is read and the path is published, which may fail. -/
  | publish (startedAt : Int) (ok : Bool)
  /-- Whether a call of the backend returned without an error -/
  | result (ok : Bool)
  /-- The streams that `pruneRetainedStreamsLocked` removes -/
  | prune (picks : List ID)
  /-- The next connection of the loop in `Close`, and whether its handle closed -/
  | next (k : Nat) (ok : Bool)

inductive ConnectPc where
  | reserving (deviceID : Bytes)
  | naming (deviceID : Bytes) (attempt : Nat)
  | unreserving (err : Err)
  | opening (deviceID : Bytes) (id : ID)
  | failedOpen (id : ID)
  | failedRunning (id : ID)
  | checking (deviceID : Bytes) (id : ID) (handle : Option Nat) (path : ConnectionPath)
  | checkingClosed (deviceID : Bytes) (id : ID) (handle : Nat) (path : ConnectionPath)
  | publishing (deviceID : Bytes) (id : ID) (handle : Nat) (path : ConnectionPath)
  | activating (connection : Connection) (handle : Nat)
  | closing (id : ID) (handle : Nat) (err : Err)
  | releasing (id : ID) (err : Err)
  | abandoning (handle : Nat)
  | starting (connection : Connection) (handle token : Nat)
  | returned (result : Except Err Connection)

inductive DisconnectPc where
  | looking (id : ID)
  | closing (id : ID) (token handle : Nat)
  | failed (id : ID) (token handle : Nat)
  | sampled (id : ID) (token : Nat) (doneClosed : Bool)
  | clearing (id : ID) (token handle : Nat)
  /-- `close` is the token whose handle failed to close, and what was sampled then. -/
  | returned (close : Option (Nat × Bool)) (err : Option Err)

inductive ClosePc where
  | entering
  | closing (rest : List (ID × Nat)) (failed : Nat)
  | returned (err : Option Err)

inductive OpenPc where
  | looking (connectionID : ID)
  | naming (connectionID : ID) (parent token attempt : Nat)
  | opening (connectionID id : ID) (parent token : Nat)
  | checking (connectionID id : ID) (child token : Nat)
  | registering (connectionID id : ID) (child token : Nat)
  | cleaning (child : Nat) (reserved : Option ID) (err : Err)
  | releasing (id : ID) (err : Err)
  | starting (connectionID id : ID) (child token : Nat)
  | returned (result : Except Err (ID × ID))

inductive Thread where
  | connect (pc : ConnectPc)
  | disconnect (pc : DisconnectPc)
  | close (pc : ClosePc)
  | openTerminal (pc : OpenPc)
  /-- `watchRemoteClose`, until it has looked -/
  | watch (id : ID) (token handle : Nat)
  | watched (token : Nat)
  /-- The timer that runs `expireTerminalStream` -/
  | expire (id : ID) (token : Nat)
  | expired
  /-- `watchLogicalTerminalParent` -/
  | watchChild (id : ID) (token child : Nat)
  | childWatched

/-- What a step leaves: the service, the thread, and the goroutines it has started. -/
structure Outcome where
  shared : Shared
  thread : Thread
  spawned : List Thread

namespace Outcome

def connect (s : Shared) (pc : ConnectPc) : Outcome := ⟨s, .connect pc, []⟩

def disconnect (s : Shared) (pc : DisconnectPc) : Outcome := ⟨s, .disconnect pc, []⟩

def openTerminal (s : Shared) (pc : OpenPc) : Outcome := ⟨s, .openTerminal pc, []⟩

end Outcome

def reserveOpening (cfg : Config) (s : Shared) (deviceID : Bytes) : Outcome :=
  if s.closed then .connect s (.returned (.error (.of .connectionServiceClosed)))
  else if (cfg.max : Int) ≤ s.active.len + s.opening then
    .connect s (.returned (.error (.of .connectionLimit)))
  else .connect { s with opening := s.opening + 1 } (.naming deviceID 0)

/-- One attempt of `reserveConnectionID` -/
def reserveConnectionID (s : Shared) (deviceID : Bytes) (attempt : Nat) : Option ID → Outcome
  | none => .connect s (.unreserving (.of .connectionOperation))
  | some id =>
    if s.closed then .connect s (.unreserving (.of .connectionServiceClosed))
    else if s.free id then
      .connect { s with reserved := s.reserved.set id () } (.opening deviceID id)
    else if attempt + 1 < maxConnectionIDAttempts then .connect s (.naming deviceID (attempt + 1))
    else .connect s (.unreserving (.of .connectionOperation))

/-- `s.backend.Open` has returned. A handle that comes with an error is not looked at again. -/
def opened (s : Shared) (deviceID : Bytes) (id : ID) (failed : Bool) : Opened → Outcome
  | ⟨none, path⟩ =>
    .connect s (if failed then .failedOpen id else .checking deviceID id none path)
  | ⟨some h, path⟩ =>
    .connect { s with handles := s.handles ++ [{ h with closeCalled := false }] }
      (if failed then .failedOpen id else .checking deviceID id (some s.handles.length) path)

/-- The last critical section of `Connect` -/
def activate (cfg : Config) (s : Shared) (connection : Connection) (handle : Nat)
    (picks : List ID) : Option Outcome :=
  let s := { s with opening := s.opening - 1, reserved := s.reserved.erase connection.id }
  if s.closed then if picks.isEmpty then some (.connect s (.abandoning handle)) else none
  else
    let token := s.generations.length
    let s := { s with
      generations := s.generations ++ [⟨connection.id, handle⟩]
      active := s.active.set connection.id ⟨connection, handle, false, false, token⟩ }
    if (s.handles[handle]?).any Handle.terminal then
      (pruneRetainedStreamsLocked cfg picks s.streams).map fun streams =>
        .connect { s with streams := streams.set connection.id ⟨.own handle, token, false⟩ }
          (.starting connection handle token)
    else if picks.isEmpty then some (.connect s (.starting connection handle token)) else none

def connectStep (cfg : Config) (s : Shared) : ConnectPc → Act → Option Outcome
  | .reserving deviceID, .go => some (reserveOpening cfg s deviceID)
  | .naming deviceID attempt, .name id => some (reserveConnectionID s deviceID attempt id)
  | .unreserving err, .go => some (.connect s.releaseOpening (.returned (.error err)))
  | .opening deviceID id, .backend answer failed => some (opened s deviceID id failed answer)
  | .failedOpen id, .ctx (some cause) => some (.connect s (.releasing id cause.err))
  | .failedOpen id, .ctx none =>
    if s.closed then some (.connect s (.releasing id (.of .connectionServiceClosed)))
    else some (.connect s (.failedRunning id))
  -- `openCtx`, which `Close` cancels as well
  | .failedRunning id, .ctx (some cause) => some (.connect s (.releasing id cause.err))
  | .failedRunning id, .ctx none =>
    some (.connect s (.releasing id (.of .connectionOperation)))
  | .checking _ id none _, .go => some (.connect s (.releasing id (.of .connectionOperation)))
  | .checking deviceID id (some h) path, .ctx err =>
    if !validConnectionPath path then some (.connect s (.closing id h (.of .connectionOperation)))
    else
      match err with
      | some cause => some (.connect s (.closing id h cause.err))
      | none => some (.connect s (.checkingClosed deviceID id h path))
  | .checkingClosed deviceID id h path, .go =>
    if s.closed then some (.connect s (.closing id h (.of .connectionServiceClosed)))
    else some (.connect s (.publishing deviceID id h path))
  | .publishing _ id h _, .publish _ false =>
    some (.connect s (.closing id h (.of .connectionOperation)))
  | .publishing deviceID id h path, .publish startedAt true =>
    some (.connect s (.activating ⟨id, deviceID, path, startedAt⟩ h))
  | .activating connection h, .prune picks => activate cfg s connection h picks
  | .closing id h err, .go => some (.connect (s.closeHandle h) (.releasing id err))
  | .releasing id err, .go => some (.connect (s.releaseOpeningAndID id) (.returned (.error err)))
  | .abandoning h, .go =>
    some (.connect (s.closeHandle h) (.returned (.error (.of .connectionServiceClosed))))
  | .starting connection h token, .go =>
    some ⟨s, .connect (.returned (.ok connection)),
      if (s.handles[h]?).any Handle.observable then [.watch connection.id token h] else []⟩
  | _, _ => none

def disconnectStep (s : Shared) : DisconnectPc → Act → Option Outcome
  | .looking id, .go =>
    match s.active.get id with
    | none => some (.disconnect s (.returned none (some (.of .connectionNotFound))))
    | some a =>
      if a.closing then some (.disconnect s (.returned none (some (.of .connectionNotFound))))
      else some (.disconnect { s with active := s.active.set id { a with closing := true } }
        (.closing id a.token a.handle))
  | .closing id token h, .result ok =>
    some (.disconnect (s.closeHandle h) (if ok then .clearing id token h else .failed id token h))
  | .failed id token h, .go => some (.disconnect s (.sampled id token (s.signalled h)))
  | .sampled id token doneClosed, .go =>
    let failure :=
      DisconnectPc.returned (some (token, doneClosed)) (some (.of .connectionOperation))
    match s.active.get id with
    | some a =>
      if a.token = token then
        let a := { a with closing := false, suppressDone := doneClosed }
        some (.disconnect { s with active := s.active.set id a } failure)
      else some (.disconnect s failure)
    | none => some (.disconnect s failure)
  | .clearing id token _, .go =>
    let s := if (s.active.get id).any fun a => decide (a.token = token) then
      { s with active := s.active.erase id } else s
    let s := if (s.streams.get id).any fun e => decide (e.token = token) then
      { s with streams := s.streams.erase id } else s
    some (.disconnect s (.returned none none))
  | _, _ => none

def closeStep (s : Shared) : ClosePc → Act → Option Outcome
  | .entering, .go =>
    if s.closed then some ⟨s, .close (.returned none), []⟩
    else some ⟨{ s with closed := true, active := .empty, streams := .empty },
      .close (.closing (s.active.entries.map fun e => (e.1, e.2.handle)) 0), []⟩
  | .closing rest failed, .next k ok =>
    (rest[k]?).map fun e =>
      let failed := if ok then failed else failed + 1
      ⟨s.closeHandle e.2, .close (.closing (rest.eraseIdx k) failed), []⟩
  | .closing [] failed, .go =>
    some ⟨s, .close (.returned (if failed = 0 then none else some (.of .connectionOperation))), []⟩
  | _, _ => none

def watchRemoteClose (s : Shared) (id : ID) (token : Nat) : Outcome :=
  match s.active.get id with
  | none => ⟨s, .watched token, []⟩
  | some a =>
    if a.token ≠ token then ⟨s, .watched token, []⟩
    else if a.closing then ⟨s, .watched token, []⟩
    else if a.suppressDone then
      ⟨{ s with active := s.active.set id { a with suppressDone := false } }, .watched token, []⟩
    else
      let s := { s with active := s.active.erase id }
      match s.streams.get id with
      | none => ⟨s, .watched token, []⟩
      | some e =>
        if e.token = token then
          ⟨{ s with streams := s.streams.set id { e with closed := true } }, .watched token,
            [.expire id token]⟩
        else ⟨s, .watched token, []⟩

def expireTerminalStream (s : Shared) (id : ID) (token : Nat) : Shared :=
  if (s.streams.get id).any fun e => decide (e.token = token) && e.closed then
    { s with streams := s.streams.erase id }
  else s

def activeMultiplexTerminal (s : Shared) (connectionID : ID) : Except Err (Nat × Nat) :=
  if s.closed then .error (.of .connectionServiceClosed)
  else
    match s.active.get connectionID with
    | none => .error (.of .connectionNotFound)
    | some a =>
      if a.closing then .error (.of .connectionNotFound)
      else if (s.handles[a.handle]?).any fun h => h.multiplex && h.observable then
        .ok (a.handle, a.token)
      else .error (.of .terminalUnavailable)

/-- One attempt of `reserveTerminalStreamID` -/
def reserveTerminalStreamID (s : Shared) (connectionID : ID) (parent token attempt : Nat) :
    Option ID → Outcome
  | none => .openTerminal s (.returned (.error (.of .terminalOperation)))
  | some id =>
    if s.closed then .openTerminal s (.returned (.error (.of .connectionServiceClosed)))
    else if s.free id then
      .openTerminal { s with reserved := s.reserved.set id () }
        (.opening connectionID id parent token)
    else if attempt + 1 < maxConnectionIDAttempts then
      .openTerminal s (.naming connectionID parent token (attempt + 1))
    else .openTerminal s (.returned (.error (.of .terminalOperation)))

/-- The last critical section of `OpenTerminalStream` -/
def register (s : Shared) (connectionID id : ID) (child token : Nat) : Outcome :=
  let s' := { s with reserved := s.reserved.erase id }
  if s.closed then .openTerminal s' (.cleaning child none (.of .connectionServiceClosed))
  else if (s.active.get connectionID).all fun a => a.closing || decide (a.token ≠ token) then
    .openTerminal s' (.cleaning child none (.of .connectionNotFound))
  else if (s.streams.get id).isSome then
    .openTerminal s' (.cleaning child none (.of .terminalOperation))
  else .openTerminal { s' with streams := s.streams.set id ⟨.child child, token, false⟩ }
    (.starting connectionID id child token)

def openStep (s : Shared) : OpenPc → Act → Option Outcome
  | .looking connectionID, .go =>
    match activeMultiplexTerminal s connectionID with
    | .error err => some (.openTerminal s (.returned (.error err)))
    | .ok (parent, token) => some (.openTerminal s (.naming connectionID parent token 0))
  | .naming connectionID parent token attempt, .name id =>
    some (reserveTerminalStreamID s connectionID parent token attempt id)
  | .opening _ id _ _, .ctx (some cause) => some (.openTerminal s (.releasing id cause.err))
  | .opening _ id _ _, .result false =>
    some (.openTerminal s (.releasing id (.of .terminalUnavailable)))
  | .opening connectionID id parent token, .result true =>
    some (.openTerminal { s with children := s.children ++ [⟨parent, false⟩] }
      (.checking connectionID id s.children.length token))
  | .checking _ id child _, .ctx (some cause) =>
    some (.openTerminal s (.cleaning child (some id) cause.err))
  | .checking connectionID id child token, .ctx none =>
    some (.openTerminal s (.registering connectionID id child token))
  | .registering connectionID id child token, .go =>
    some (register s connectionID id child token)
  | .cleaning child (some id) err, .go =>
    some (.openTerminal (s.closeChild child) (.releasing id err))
  | .cleaning child none err, .go =>
    some (.openTerminal (s.closeChild child) (.returned (.error err)))
  | .releasing id err, .go =>
    some (.openTerminal { s with reserved := s.reserved.erase id } (.returned (.error err)))
  | .starting connectionID id child token, .go =>
    some ⟨s, .openTerminal (.returned (.ok (id, connectionID))), [.watchChild id token child]⟩
  | _, _ => none

def removeLogicalTerminal (s : Shared) (id : ID) (token child : Nat) : Shared :=
  if (s.streams.get id).any fun e =>
      decide (e.token = token) && decide (e.handle = .child child) then
    { s with streams := s.streams.erase id }
  else s

def advance (cfg : Config) (s : Shared) : Thread → Act → Option Outcome
  | .connect pc, a => connectStep cfg s pc a
  | .disconnect pc, a => disconnectStep s pc a
  | .close pc, a => closeStep s pc a
  | .openTerminal pc, a => openStep s pc a
  | .watch id token h, .go => if s.signalled h then some (watchRemoteClose s id token) else none
  | .expire id token, .go => some ⟨expireTerminalStream s id token, .expired, []⟩
  | .watchChild id token child, .go =>
    if ((s.children[child]?).map Child.parent).any s.signalled then
      some ⟨removeLogicalTerminal s id token child, .childWatched, []⟩
    else none
  | _, _ => none

structure State where
  shared : Shared
  threads : List Thread

def initial : State := ⟨.initial, []⟩

inductive Action where
  | connect (ctx : Option ContextError) (deviceID : Bytes)
  | disconnect (ctx : Option ContextError) (connectionID : ID)
  | close
  | openTerminal (ctx : Option ContextError) (connectionID : ID) (cols rows : UInt16) (term : Bytes)
  | run (i : Nat) (a : Act)
  /-- A handle closes the channel it returns from `Done`. -/
  | signal (h : Nat)

def maxTerminalTypeBytes : Nat := 128

def terminalTypeByte (c : UInt8) : Bool := operationIDByte c || c == 46 || c == 43

def validTerminalType (term : Bytes) : Bool :=
  term.length ≤ maxTerminalTypeBytes && term.all terminalTypeByte

/-- A call with its checks at the door -/
def connect (ctx : Option ContextError) (deviceID : Bytes) : Thread :=
  match ctx with
  | some cause => .connect (.returned (.error cause.err))
  | none =>
    if !validPublicID deviceID then
      .connect (.returned (.error (.of .invalidConnectionRequest)))
    else .connect (.reserving deviceID)

def disconnect (ctx : Option ContextError) (connectionID : ID) : Thread :=
  match ctx with
  | some cause => .disconnect (.returned none (some cause.err))
  | none =>
    if !validConnectionID connectionID then
      .disconnect (.returned none (some (.of .invalidConnectionRequest)))
    else .disconnect (.looking connectionID)

def openTerminalStream (ctx : Option ContextError) (connectionID : ID) (cols rows : UInt16)
    (term : Bytes) : Thread :=
  match ctx with
  | some cause => .openTerminal (.returned (.error cause.err))
  | none =>
    if !validConnectionID connectionID || cols == 0 || rows == 0 || !validTerminalType term then
      .openTerminal (.returned (.error (.of .invalidTerminalRequest)))
    else .openTerminal (.looking connectionID)

def State.start (s : State) (t : Thread) : State := { s with threads := s.threads ++ [t] }

def step (cfg : Config) (s : State) : Action → Option State
  | .connect ctx deviceID => some (s.start (ConnectionService.connect ctx deviceID))
  | .disconnect ctx connectionID => some (s.start (ConnectionService.disconnect ctx connectionID))
  | .close => some (s.start (.close .entering))
  | .openTerminal ctx connectionID cols rows term =>
    some (s.start (openTerminalStream ctx connectionID cols rows term))
  | .run i a =>
    (s.threads[i]?).bind fun t => (advance cfg s.shared t a).map fun o =>
      ⟨o.shared, s.threads.set i o.thread ++ o.spawned⟩
  | .signal h =>
    if (s.shared.handles[h]?).any fun x => x.observable && !x.done then
      some { s with shared := s.shared.signal h }
    else none

section Sample

def oneConnection : Config := ⟨1, one_bounds⟩

/-- A connection that can have more terminals is opened. -/
def openedRun : List Action :=
  [.connect none [97], .run 0 .go, .run 0 (.name (some [98])),
    .run 0 (.backend ⟨some ⟨true, true, true, false, false⟩, .direct⟩ false), .run 0 (.ctx none),
    .run 0 .go, .run 0 (.publish 0 true), .run 0 (.prune []), .run 0 .go]

end Sample

end ConnectionService
