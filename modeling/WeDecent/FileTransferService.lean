import WeDecent.ConnectionService

/-!
# The file transfer service of the local Core

`coreapi/file_transfer_service.go` over the connection service whose map of active connections
it reads. Every call and every watcher is a thread; each critical section, under the lock of
either service, and each call of the backend is one step. The last chunk of a download is
reported in a step of its own after the operation is removed.
-/

namespace FileTransferService

open CoreRequests
open ConnectionService (ID)

inductive Direction where
  | upload
  | download
deriving DecidableEq

/-- A handle that the backend has returned: the connection handle it was opened on, whether its
channel `Done` is closed, and how often `Commit` and `Cancel` were called. -/
structure Transfer where
  parent : Nat
  done : Bool
  commits : Nat
  cancels : Nat
deriving DecidableEq

/-- `fileTransferEntry`; of `upload` and `download` the one for the direction is set. -/
structure Entry where
  connectionID : ID
  token : Nat
  direction : Direction
  transfer : Nat
deriving DecidableEq

/-- `NewFileTransferService` refuses other limits. -/
structure Config where
  max : Nat
  bounds : 1 ≤ max ∧ max ≤ 256

theorem one_bounds : 1 ≤ 1 ∧ 1 ≤ 256 := by decide

def maxFileTransferChunkBytes : Nat := 32 * 1024

/-- The fields of the service, with the handles it has been given -/
structure Table where
  ops : GoMap ID Entry
  reserved : GoMap ID Unit
  transfers : List Transfer

namespace Table

def empty : Table := ⟨.empty, .empty, []⟩

/-- `removeOperation` -/
def removeOperation (t : Table) (operationID : ID) (token : Nat) : Table :=
  if (t.ops.get operationID).any fun e => decide (e.token = token) then
    { t with ops := t.ops.erase operationID }
  else t

/-- `Commit` is called on a handle. -/
def commit (t : Table) (k : Nat) : Table :=
  { t with transfers := t.transfers.modify k fun x => { x with commits := x.commits + 1 } }

/-- `Cancel` is called on a handle. -/
def cancel (t : Table) (k : Nat) : Table :=
  { t with transfers := t.transfers.modify k fun x => { x with cancels := x.cancels + 1 } }

/-- A handle closes its channel. -/
def finish (t : Table) (k : Nat) : Table :=
  { t with transfers := t.transfers.modify k fun x => { x with done := true } }

def push (t : Table) (parent : Nat) : Table :=
  { t with transfers := t.transfers ++ [⟨parent, false, 0, 0⟩] }

end Table

/-- `"file_"` -/
def fileTransferIDPrefix : Bytes := [102, 105, 108, 101, 95]

def fileTransferIDRawBytes : Nat := 18

/-- The alphabet of `base64.RawURLEncoding` -/
def rawURLByte (c : UInt8) : Bool := operationIDByte c

/-- The decoder skips line breaks, and four digits give three bytes. -/
def validFileTransferID (value : Bytes) : Bool :=
  fileTransferIDPrefix.isPrefixOf value &&
    let digits := (value.drop fileTransferIDPrefix.length).filter fun c => c != 10 && c != 13
    digits.all rawURLByte && digits.length * 3 == fileTransferIDRawBytes * 4

inductive Act where
  | go
  /-- A look at the caller's context -/
  | ctx (err : Option ContextError)
  /-- A new random ID, or the error of the random source -/
  | name (id : Option ID)
  /-- Whether the connection handle has the methods for file transfer -/
  | parent (file : Bool)
  | available (ok : Bool)
  /-- The answer to an open: an error, no handle, or a handle that may have a channel -/
  | backend (answer : Option (Option Bool))
  /-- Whether a call of the backend returned without an error -/
  | result (ok : Bool)
  /-- The answer of `Read` -/
  | chunk (answer : Option (Bytes × Bool))
deriving DecidableEq

inductive OpenPc where
  | looking (connectionID : ID)
  | asking (connectionID : ID) (parent token : Nat)
  | naming (connectionID : ID) (parent token attempt : Nat)
  | opening (connectionID id : ID) (parent token : Nat)
  | failedOpen (id : ID)
  | checking (connectionID id : ID) (transfer parent token : Nat)
  | activating (connectionID id : ID) (transfer parent token : Nat)
  | cancelling (id : ID) (transfer : Nat) (err : Err)
  | releasing (id : ID) (err : Err)
  | starting (connectionID id : ID) (transfer parent token : Nat)
  | returned (result : Except Err ID)

/-- The requests that name an operation -/
inductive Request where
  | write (data : Bytes)
  | commit
  | read (maxBytes : Nat)
  | cancel

/-- `FileDownloadReadResult` -/
structure Chunk where
  data : Bytes
  done : Bool
deriving DecidableEq

inductive RequestPc where
  /-- The context has ended, or the request is not valid. -/
  | refused (err : Err)
  | looking
  | checking (entry : Entry)
  | removing (entry : Entry)
  | calling (entry : Entry)
  | waiting (entry : Entry)
  | failed (entry : Entry)
  | dropping (entry : Entry) (chunk : Chunk)
  | reporting (transfer : Nat) (chunk : Chunk)
  /-- `transfer` is the handle that was called. -/
  | returned (transfer : Option Nat) (err : Option Err)
  | delivered (transfer : Nat) (chunk : Chunk)
deriving DecidableEq

inductive Thread where
  | opens (direction : Direction) (pc : OpenPc)
  | request (r : Request) (connectionID operationID : ID) (pc : RequestPc)
  /-- `watchOperation` -/
  | watch (operationID : ID) (token transfer parent : Nat)
  | watched

def activeFileParent (core : ConnectionService.Shared) (connectionID : ID) (file : Bool) :
    Except Err (Nat × Nat) :=
  if core.closed then .error (.of .connectionServiceClosed)
  else
    match core.active.get connectionID with
    | none => .error (.of .connectionNotFound)
    | some a =>
      if a.closing then .error (.of .connectionNotFound)
      else if file && (core.handles[a.handle]?).any fun h => h.observable then
        .ok (a.handle, a.token)
      else .error (.of .fileTransferUnavailable)

def connectionTokenCurrent (core : ConnectionService.Shared) (connectionID : ID) (token : Nat) :
    Bool :=
  (core.active.get connectionID).any fun a => !a.closing && decide (a.token = token)

/-- One attempt of `reserveOperationID` -/
def reserveOperationID (cfg : Config) (t : Table) (connectionID : ID)
    (parent token attempt : Nat) : Option ID → Table × OpenPc
  | none => (t, .returned (.error (.of .fileTransferOperation)))
  | some id =>
    if cfg.max ≤ t.ops.len + t.reserved.len then
      (t, .returned (.error (.of .fileTransferLimit)))
    else if (t.ops.get id).isNone && (t.reserved.get id).isNone then
      ({ t with reserved := t.reserved.set id () }, .opening connectionID id parent token)
    else if attempt + 1 < ConnectionService.maxConnectionIDAttempts then
      (t, .naming connectionID parent token (attempt + 1))
    else (t, .returned (.error (.of .fileTransferOperation)))

def activateOperation (t : Table) (direction : Direction) (connectionID id : ID)
    (transfer parent token : Nat) : Table × OpenPc :=
  if (t.reserved.get id).isNone then (t, .cancelling id transfer (.of .fileTransferOperation))
  else
    let entry : Entry := ⟨connectionID, token, direction, transfer⟩
    ({ t with reserved := t.reserved.erase id, ops := t.ops.set id entry },
      .starting connectionID id transfer parent token)

def openStep (cfg : Config) (core : ConnectionService.Shared) (t : Table) (direction : Direction) :
    OpenPc → Act → Option (Table × OpenPc)
  | .looking connectionID, .parent file =>
    match activeFileParent core connectionID file with
    | .error err => some (t, .returned (.error err))
    | .ok (parent, token) => some (t, .asking connectionID parent token)
  | .asking connectionID parent token, .available ok =>
    if ok then some (t, .naming connectionID parent token 0)
    else some (t, .returned (.error (.of .fileTransferUnavailable)))
  | .naming connectionID parent token attempt, .name id =>
    some (reserveOperationID cfg t connectionID parent token attempt id)
  | .opening _ id _ _, .backend none => some (t, .failedOpen id)
  | .opening _ id _ _, .backend (some none) =>
    some (t, .releasing id (.of .fileTransferOperation))
  | .opening _ id parent _, .backend (some (some false)) =>
    some (t.push parent, .cancelling id t.transfers.length (.of .fileTransferOperation))
  | .opening connectionID id parent token, .backend (some (some true)) =>
    some (t.push parent, .checking connectionID id t.transfers.length parent token)
  | .failedOpen id, .ctx (some cause) => some (t, .releasing id cause.err)
  | .failedOpen id, .ctx none => some (t, .releasing id (.of .fileTransferOperation))
  | .checking connectionID id transfer parent token, .go =>
    if connectionTokenCurrent core connectionID token then
      some (t, .activating connectionID id transfer parent token)
    else some (t, .cancelling id transfer (.of .connectionNotFound))
  | .activating connectionID id transfer parent token, .go =>
    some (activateOperation t direction connectionID id transfer parent token)
  | .cancelling id transfer err, .go => some (t.cancel transfer, .releasing id err)
  | .releasing id err, .go =>
    some ({ t with reserved := t.reserved.erase id }, .returned (.error err))
  | _, _ => none

/-- The direction that the request needs -/
def Request.direction : Request → Option Direction
  | .write _ => some .upload
  | .commit => some .upload
  | .read _ => some .download
  | .cancel => none

/-- The request uses `takeOperation` or `takeOperationAnyDirection`. -/
def Request.takes : Request → Bool
  | .write _ => false
  | .commit => true
  | .read _ => false
  | .cancel => true

/-- The first critical section of `operation` and of `takeOperationAnyDirection` -/
def Table.operation (t : Table) (r : Request) (connectionID operationID : ID) : Option Entry :=
  (t.ops.get operationID).filter fun e =>
    decide (e.connectionID = connectionID) && r.direction.all fun d => decide (e.direction = d)

/-- The method of the handle is called. -/
def Table.call (t : Table) (r : Request) (k : Nat) : Table :=
  match r with
  | .write _ => t
  | .commit => t.commit k
  | .read _ => t
  | .cancel => t.cancel k

/-- `Read` of the handle has returned without an error. -/
def readChunk (maxBytes : Nat) (e : Entry) (data : Bytes) (done : Bool) : RequestPc :=
  if maxBytes < data.length || maxFileTransferChunkBytes < data.length then
    .returned (some e.transfer) (some (.of .fileTransferOperation))
  else if done then .dropping e ⟨data, done⟩
  else .delivered e.transfer ⟨data, done⟩

def requestStep (core : ConnectionService.Shared) (t : Table) (r : Request)
    (connectionID operationID : ID) : RequestPc → Act → Option (Table × RequestPc)
  | .looking, .go =>
    match t.operation r connectionID operationID with
    | none => some (t, .returned none (some (.of .fileTransferNotFound)))
    | some e => some (t, .checking e)
  | .checking e, .go =>
    if connectionTokenCurrent core connectionID e.token then
      some (t, if r.takes then .removing e else .calling e)
    else some (t, .returned none (some (.of .fileTransferNotFound)))
  | .removing e, .go => some (t.removeOperation operationID e.token, .calling e)
  | .calling e, .go => some (t.call r e.transfer, .waiting e)
  | .waiting e, .result ok =>
    match r with
    | .read _ => none
    | _ => some (t, if ok then .returned (some e.transfer) none else .failed e)
  | .waiting e, .chunk answer =>
    match r, answer with
    | .read _, none => some (t, .failed e)
    | .read maxBytes, some (data, done) => some (t, readChunk maxBytes e data done)
    | _, _ => none
  | .failed e, .ctx (some cause) => some (t, .returned (some e.transfer) (some cause.err))
  | .failed e, .ctx none =>
    some (t, .returned (some e.transfer) (some (.of .fileTransferOperation)))
  | .dropping e chunk, .go =>
    some (t.removeOperation operationID e.token, .reporting e.transfer chunk)
  | .reporting transfer chunk, .go => some (t, .delivered transfer chunk)
  | _, _ => none

/-- What a step leaves: the table, the thread, and the watcher it has started. -/
structure Outcome where
  table : Table
  thread : Thread
  spawned : List Thread

/-- `watchOperation` waits for either channel. -/
def ended (core : ConnectionService.Shared) (t : Table) (transfer parent : Nat) : Bool :=
  (t.transfers[transfer]?).any (fun x => x.done) || core.signalled parent

def advance (cfg : Config) (core : ConnectionService.Shared) (t : Table) :
    Thread → Act → Option Outcome
  | .opens direction (.starting _ id transfer parent token), .go =>
    some ⟨t, .opens direction (.returned (.ok id)), [.watch id token transfer parent]⟩
  | .opens direction pc, a =>
    (openStep cfg core t direction pc a).map fun r => ⟨r.1, .opens direction r.2, []⟩
  | .request r connectionID operationID pc, a =>
    (requestStep core t r connectionID operationID pc a).map fun o =>
      ⟨o.1, .request r connectionID operationID o.2, []⟩
  | .watch operationID token transfer parent, .go =>
    if ended core t transfer parent then some ⟨t.removeOperation operationID token, .watched, []⟩
    else none
  | _, _ => none

structure State where
  core : ConnectionService.State
  table : Table
  threads : List Thread

def initial : State := ⟨ConnectionService.initial, .empty, []⟩

inductive Action where
  | core (a : ConnectionService.Action)
  /-- `valid` is the check of the metadata. -/
  | openFile (direction : Direction) (ctx : Option ContextError) (connectionID : ID) (valid : Bool)
  | writeFileUpload (ctx : Option ContextError) (connectionID operationID : ID) (data : Bytes)
  | commitFileUpload (ctx : Option ContextError) (connectionID operationID : ID)
  | readFileDownload (ctx : Option ContextError) (connectionID operationID : ID) (maxBytes : Int)
  | cancelFileTransfer (ctx : Option ContextError) (connectionID operationID : ID)
  | run (i : Nat) (a : Act)
  /-- A handle closes the channel it returns from `Done`. -/
  | finish (k : Nat)

/-- An open with its checks at the door -/
def openFile (direction : Direction) (ctx : Option ContextError) (connectionID : ID)
    (valid : Bool) : Thread :=
  match ctx with
  | some cause => .opens direction (.returned (.error cause.err))
  | none =>
    if validConnectionID connectionID && valid then .opens direction (.looking connectionID)
    else .opens direction (.returned (.error (.of .invalidFileTransferRequest)))

/-- A request with its checks at the door -/
def enter (ctx : Option ContextError) (r : Request) (connectionID operationID : ID)
    (valid : Bool) : Thread :=
  .request r connectionID operationID <|
    match ctx with
    | some cause => .refused cause.err
    | none =>
      if valid && validConnectionID connectionID && validFileTransferID operationID then .looking
      else .refused (.of .invalidFileTransferRequest)

def writeFileUpload (ctx : Option ContextError) (connectionID operationID : ID) (data : Bytes) :
    Thread :=
  enter ctx (.write data) connectionID operationID
    (1 ≤ data.length && data.length ≤ maxFileTransferChunkBytes)

def commitFileUpload (ctx : Option ContextError) (connectionID operationID : ID) : Thread :=
  enter ctx .commit connectionID operationID true

def readFileDownload (ctx : Option ContextError) (connectionID operationID : ID)
    (maxBytes : Int) : Thread :=
  let maxBytes := if maxBytes = 0 then (maxFileTransferChunkBytes : Int) else maxBytes
  enter ctx (.read maxBytes.toNat) connectionID operationID
    (1 ≤ maxBytes && maxBytes ≤ maxFileTransferChunkBytes)

def cancelFileTransfer (ctx : Option ContextError) (connectionID operationID : ID) : Thread :=
  enter ctx .cancel connectionID operationID true

def State.start (s : State) (t : Thread) : State := { s with threads := s.threads ++ [t] }

def step (connections : ConnectionService.Config) (cfg : Config) (s : State) : Action → Option State
  | .core a => (ConnectionService.step connections s.core a).map fun core => { s with core := core }
  | .openFile direction ctx connectionID valid =>
    some (s.start (FileTransferService.openFile direction ctx connectionID valid))
  | .writeFileUpload ctx connectionID operationID data =>
    some (s.start (FileTransferService.writeFileUpload ctx connectionID operationID data))
  | .commitFileUpload ctx connectionID operationID =>
    some (s.start (FileTransferService.commitFileUpload ctx connectionID operationID))
  | .readFileDownload ctx connectionID operationID maxBytes =>
    some (s.start (FileTransferService.readFileDownload ctx connectionID operationID maxBytes))
  | .cancelFileTransfer ctx connectionID operationID =>
    some (s.start (FileTransferService.cancelFileTransfer ctx connectionID operationID))
  | .run i a =>
    (s.threads[i]?).bind fun t => (advance cfg s.core.shared s.table t a).map fun o =>
      { s with table := o.table, threads := s.threads.set i o.thread ++ o.spawned }
  | .finish k =>
    if k < s.table.transfers.length then some { s with table := s.table.finish k } else none

section Sample

def oneTransfer : Config := ⟨1, one_bounds⟩

/-- `"file_"` and 24 letters A -/
def sampleOperation : ID := fileTransferIDPrefix ++ List.replicate 24 65

/-- A connection is opened and a transfer on it. -/
def openRun (direction : Direction) : List Action :=
  ConnectionService.openedRun.map .core ++
    [.openFile direction none [98] true, .run 0 (.parent true), .run 0 (.available true),
      .run 0 (.name (some sampleOperation)), .run 0 (.backend (some (some true))), .run 0 .go,
      .run 0 .go, .run 0 .go]

end Sample

end FileTransferService
