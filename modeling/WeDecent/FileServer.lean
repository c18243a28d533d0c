import WeDecent.Library.Runs
import WeDecent.ServerLedger
import WeDecent.StreamRegistry

/-!
# The server side of one typed file stream

`typedFileServer` (`session/typed_file_server.go`) with the dispatcher in front of it
(`session/typed_stream_dispatch.go`), for one StreamID of a given kind, once its child
is active and its StreamAccepted written. Two goroutines work on a child: the session
loop that calls `Handle`, and `forwardDownload` when the child is a download. What a
goroutine does under one lock, and each frame it writes, is one step. Frame writes
succeed, as in the terminal server.

`FileDownload.Read` (`session/file_transfer_store.go`) is modelled over what the
operating system's file gives; the staging file of an upload answers through the
arguments of the actions, and `committed` records a `Commit` that succeeded.
-/

namespace FileServer

open StreamProtocol StreamRegistry ServerLedger

def typedFileReceiveWindow : Nat := 262144

/-- The frames that `Handle` answers for a child it looks up with `openChild`. -/
inductive Request where
  | data (payload : Bytes)
  | update (bytes : Nat)
  | close
  | error

inductive HandleError where
  | typedStreamProtocol
  | typedStreamCredit

/-- What a caller of `closeChild` inside `Handle` does next: report an error,
acknowledge, write nothing, or return an error itself. -/
inductive After where
  | report (code : ErrorCode)
  | ack
  | silent
  | raise (err : HandleError)

inductive Handle where
  | idle
  | openChild (req : Request)
  | serve (req : Request)
  | dataWrite (payload : Bytes)
  | dataGrant (n : Nat)
  | dataRestore (n : Nat)
  | updateSignal
  | closeChild (after : After)
  | closeDone (after : After)
  | endWrite (after : After)
  | returned (err : HandleError)

/-- `eof` is `io.EOF`, `other` every other error of a read. -/
inductive ReadError where
  | eof
  | other
  deriving DecidableEq

inductive Forward where
  | unstarted
  | top
  | park
  | read (limit : Nat)
  | check (data : Bytes) (err : Option ReadError)
  | debit (data : Bytes) (err : Option ReadError)
  | write (data : Bytes) (remaining : Nat) (err : Option ReadError)
  | written (remaining : Nat) (err : Option ReadError)
  | complete
  | closeChild (report : Bool)
  | closeDone (report : Bool)
  | fail
  | returned

/-- `FileDownload` -/
structure Download where
  remaining : Nat
  closed : Bool

structure Child where
  sendCredit : Credit
  recvCredit : Credit
  remaining : Nat
  creditCh : Bool
  done : Bool
  committed : Bool
  download : Download

structure Server where
  record : Option StreamState
  live : Bool
  child : Child
  handle : Handle
  forward : Forward

/-- The child that `openUpload` and `openDownload` activate; `size` is the size of the
file to download, whose client has granted `window` bytes. -/
def Server.active (kind : FileKind) (size : Nat) (window : Credit) : Server where
  record := some .opened
  live := true
  child := match kind with
    | .upload => ⟨Credit.zero, ⟨typedFileReceiveWindow, by decide⟩, 0, false, false, false,
        ⟨0, true⟩⟩
    | .download => ⟨window, Credit.zero, size, false, false, false, ⟨size, false⟩⟩
  handle := .idle
  forward := match kind with
    | .upload => .unstarted
    | .download => .top

inductive Act where
  | receive (m : Message)
  | handle (ok : Bool)
  | forward
  | read (data : Bytes) (err : Option ReadError)
  | wake (closed : Bool)

/-- `routeTypedApplicationFrame` up to `openChild`: the registry has the StreamID and the
payload passes its parser and validator. A StreamOpen for an ID that was reserved
before is refused whatever it carries. -/
def route (s : Server) (m : Message) : Handle :=
  if s.record = some .opening ∨ s.record = some .opened then
    match m with
    | .streamData payload =>
      if validateStreamData payload then .openChild (.data payload)
      else .returned .typedStreamProtocol
    | .streamWindowUpdate (some n) =>
      if validateStreamWindowUpdate n then .openChild (.update n)
      else .returned .typedStreamProtocol
    | .streamClose (some reason) =>
      if validateStreamClose reason then .openChild .close
      else .returned .typedStreamProtocol
    | .streamError (some code) =>
      if validateStreamError code then .openChild .error
      else .returned .typedStreamProtocol
    | _ => .returned .typedStreamProtocol
  else .returned .typedStreamProtocol

/-- `openChild` finds the child. -/
def Server.isOpen (s : Server) : Bool := s.live && decide (s.record = some .opened)

section Registry

variable {s : Server} {r : Registry} {streamID : Nat} {kind : FileKind}
  (tracks : r.Tracks streamID kind.kind s.record)

include tracks

theorem isOpen_eq_registry : s.isOpen = (s.live && r.isOpen streamID kind.kind) := by
  rw [Server.isOpen, tracks.isOpen_eq]

/-- The registry has no file in use under the ID. -/
theorem route_unregistered (m : Message) (unused : r.kind streamID ≠ some kind.kind) :
    route s m = .returned .typedStreamProtocol := by
  unfold route
  rw [if_neg (mt tracks.kind_iff.mpr unused)]

end Registry

/-- `closeChild` up to the deletion from `streams`; `closeDone` is the rest. -/
def Server.remove (s : Server) (after : After) : Server :=
  if s.live then { s with live := false, handle := .closeDone after }
  else { s with handle := .endWrite after }

/-- The registry forgets the stream, `done` is closed and with it the file. -/
def Server.close (s : Server) : Server :=
  { s with
    record := some .closed
    child.done := true
    child.download.closed := true }

/-- The first step on the child after `openChild`; `ok` is the result of `Commit`. -/
def serve (kind : FileKind) (s : Server) (ok : Bool) : Request → Server
  | .data payload =>
    match kind with
    | .download => { s with handle := .returned .typedStreamProtocol }
    | .upload =>
      match s.child.recvCredit.consume payload.length with
      | none => { s with handle := .returned .typedStreamProtocol }
      | some c => { s with child.recvCredit := c, handle := .dataWrite payload }
  | .update n =>
    match kind with
    | .upload => { s with handle := .returned .typedStreamProtocol }
    | .download =>
      match s.child.sendCredit.add n with
      | none => { s with handle := .returned .typedStreamProtocol }
      | some c => { s with child.sendCredit := c, handle := .updateSignal }
  | .close =>
    match kind with
    | .upload =>
      if ok then { s with child.committed := true, handle := .closeChild .ack }
      else { s with handle := .closeChild (.report .uploadCommitFailed) }
    | .download =>
      -- a complete download has been closed by the server already
      { s with handle := .closeChild (if s.child.remaining = 0 then .silent else .ack) }
  | .error => { s with handle := .closeChild .ack }

def After.frame : After → List Message
  | .report code => [.streamError (some code)]
  | .ack => [.streamClose (some .peerClose)]
  | .silent => []
  | .raise _ => []

/-- An upload has no goroutine besides `Handle`, so its child is removed in the step in
which the write or the refund fails. -/
def handleStep (kind : FileKind) (s : Server) (ok : Bool) : Option (Server × List Message) :=
  match s.handle with
  | .idle => none
  | .returned _ => none
  | .openChild req =>
    if s.isOpen then some ({ s with handle := .serve req }, [])
    else some ({ s with handle := .returned .typedStreamProtocol }, [])
  | .serve req => some (serve kind s ok req, [])
  | .dataWrite payload =>
    if ok then some ({ s with handle := .dataGrant payload.length }, [])
    else some (s.remove (.report .uploadWriteFailed), [])
  | .dataGrant n =>
    some ({ s with handle := .dataRestore n }, [.streamWindowUpdate (some n)])
  | .dataRestore n =>
    match s.child.recvCredit.add n with
    | none => some (s.remove (.raise .typedStreamCredit), [])
    | some c => some ({ s with child.recvCredit := c, handle := .idle }, [])
  | .updateSignal => some ({ s with child.creditCh := true, handle := .idle }, [])
  | .closeChild after => some (s.remove after, [])
  | .closeDone after => some ({ s.close with handle := .endWrite after }, [])
  | .endWrite (.raise err) => some ({ s with handle := .returned err }, [])
  | .endWrite after => some ({ s with handle := .idle }, after.frame)

/-- `FileDownload.Read` into a buffer of `limit` bytes, when the file's own read gives
`data` and `err`. -/
def Download.readFile (d : Download) (limit : Nat) (data : Bytes) (err : Option ReadError) :
    Option (Download × Bytes × Option ReadError) :=
  if d.closed then some (d, [], some .other)
  else if d.remaining = 0 then some (d, [], some .eof)
  else if min limit d.remaining < data.length then none
  else
    let remaining := d.remaining - data.length
    let err :=
      if err = some .eof ∧ 0 < remaining then some .other
      else if data ≠ [] ∧ remaining = 0 ∧ err = some .eof then none
      else err
    some ({ d with remaining := remaining }, data, err)

/-- Where `forwardDownload` goes on after a read that ended with `err`. -/
def afterRead : Option ReadError → Forward
  | none => .top
  | some .eof => .complete
  | some .other => .closeChild true

def forwardStep (s : Server) : Option (Server × List Message) :=
  match s.forward with
  | .top =>
    if s.child.remaining = 0 then some ({ s with forward := .complete }, [])
    else if s.child.sendCredit.remaining = 0 then some ({ s with forward := .park }, [])
    else
      let limit := min (min s.child.sendCredit.remaining s.child.remaining) maxTypedStreamChunk
      some ({ s with forward := .read limit }, [])
  | .check data err =>
    if s.child.done then some ({ s with forward := .returned }, [])
    else if data = [] then some ({ s with forward := afterRead err }, [])
    else some ({ s with forward := .debit data err }, [])
  | .debit data err =>
    let remaining :=
      if data.length ≤ s.child.remaining then s.child.remaining - data.length
      else s.child.remaining
    match s.child.sendCredit.consume data.length with
    | none => some ({ s with
        child.remaining := remaining
        forward := .closeChild false }, [])
    | some c => some ({ s with
        child.sendCredit := c
        child.remaining := remaining
        forward := .write data remaining err }, [])
  | .write data remaining err =>
    some ({ s with forward := .written remaining err }, [.streamData data])
  | .written remaining err =>
    if s.child.done then some ({ s with forward := .returned }, [])
    else if remaining = 0 ∧ err = none then some ({ s with forward := .complete }, [])
    else some ({ s with forward := afterRead err }, [])
  | .complete =>
    some ({ s with forward := .returned }, [.streamClose (some .downloadComplete)])
  | .closeChild report =>
    if s.live then some ({ s with live := false, forward := .closeDone report }, [])
    else some ({ s with forward := if report then .fail else .returned }, [])
  | .closeDone report =>
    some ({ s.close with forward := if report then .fail else .returned }, [])
  | .fail =>
    some ({ s with forward := .returned }, [.streamError (some .downloadReadFailed)])
  | _ => none

def readStep (s : Server) (data : Bytes) (err : Option ReadError) :
    Option (Server × List Message) :=
  match s.forward with
  | .read limit =>
    (s.child.download.readFile limit data err).map fun (download, data, err) =>
      ({ s with child.download := download, forward := .check data err }, [])
  | _ => none

def wakeStep (s : Server) (closed : Bool) : Option (Server × List Message) :=
  match s.forward with
  | .park =>
    if closed then
      if s.child.done then some ({ s with forward := .returned }, []) else none
    else if s.child.creditCh then
      some ({ s with child.creditCh := false, forward := .top }, [])
    else none
  | _ => none

/-- One step with the frames it writes. -/
def step (kind : FileKind) (s : Server) : Act → Option (Server × List Message)
  | .receive m =>
    match s.handle with
    | .idle => some ({ s with handle := route s m }, [])
    | _ => none
  | .handle ok => handleStep kind s ok
  | .forward => forwardStep s
  | .read data err => readStep s data err
  | .wake closed => wakeStep s closed

/-- The frame a step takes from the wire. -/
def Act.input : Act → Option Message
  | .receive m => some m
  | _ => none

/-- The steps of `Handle` on a frame that was routed to it. -/
inductive Served (kind : FileKind) (s : Server) : Bool → Server → List Message → Prop
  | found (ok : Bool) (req : Request) (pc : s.handle = .openChild req) (open_ : s.isOpen = true) :
      Served kind s ok { s with handle := .serve req } []
  | missing (ok : Bool) (req : Request) (pc : s.handle = .openChild req)
      (closed : s.isOpen = false) :
      Served kind s ok { s with handle := .returned .typedStreamProtocol } []
  | data (ok : Bool) (payload : Bytes) (c : Credit) (pc : s.handle = .serve (.data payload))
      (upload : kind = .upload) (h : s.child.recvCredit.consume payload.length = some c) :
      Served kind s ok { s with child.recvCredit := c, handle := .dataWrite payload } []
  | dataRefused (ok : Bool) (payload : Bytes) (pc : s.handle = .serve (.data payload))
      (refused : kind = .upload → s.child.recvCredit.consume payload.length = none) :
      Served kind s ok { s with handle := .returned .typedStreamProtocol } []
  | update (ok : Bool) (n : Nat) (c : Credit) (pc : s.handle = .serve (.update n))
      (download : kind = .download) (h : s.child.sendCredit.add n = some c) :
      Served kind s ok { s with child.sendCredit := c, handle := .updateSignal } []
  | updateRefused (ok : Bool) (n : Nat) (pc : s.handle = .serve (.update n))
      (refused : kind = .download → s.child.sendCredit.add n = none) :
      Served kind s ok { s with handle := .returned .typedStreamProtocol } []
  | commit (pc : s.handle = .serve .close) (upload : kind = .upload) :
      Served kind s true { s with child.committed := true, handle := .closeChild .ack } []
  | commitFailed (pc : s.handle = .serve .close) (upload : kind = .upload) :
      Served kind s false { s with handle := .closeChild (.report .uploadCommitFailed) } []
  | peerClose (ok : Bool) (pc : s.handle = .serve .close) (download : kind = .download) :
      Served kind s ok
        { s with handle := .closeChild (if s.child.remaining = 0 then .silent else .ack) } []
  | peerError (ok : Bool) (pc : s.handle = .serve .error) :
      Served kind s ok { s with handle := .closeChild .ack } []
  | wrote (payload : Bytes) (pc : s.handle = .dataWrite payload) :
      Served kind s true { s with handle := .dataGrant payload.length } []
  | writeFailed (payload : Bytes) (pc : s.handle = .dataWrite payload) :
      Served kind s false (s.remove (.report .uploadWriteFailed)) []
  | grant (ok : Bool) (n : Nat) (pc : s.handle = .dataGrant n) :
      Served kind s ok { s with handle := .dataRestore n } [.streamWindowUpdate (some n)]
  | overflow (ok : Bool) (n : Nat) (pc : s.handle = .dataRestore n)
      (full : s.child.recvCredit.add n = none) :
      Served kind s ok (s.remove (.raise .typedStreamCredit)) []
  | restore (ok : Bool) (n : Nat) (c : Credit) (pc : s.handle = .dataRestore n)
      (h : s.child.recvCredit.add n = some c) :
      Served kind s ok { s with child.recvCredit := c, handle := .idle } []
  | signal (ok : Bool) (pc : s.handle = .updateSignal) :
      Served kind s ok { s with child.creditCh := true, handle := .idle } []
  | remove (ok : Bool) (after : After) (pc : s.handle = .closeChild after) :
      Served kind s ok (s.remove after) []
  | close (ok : Bool) (after : After) (pc : s.handle = .closeDone after) :
      Served kind s ok { s.close with handle := .endWrite after } []
  | raise (ok : Bool) (err) (pc : s.handle = .endWrite (.raise err)) :
      Served kind s ok { s with handle := .returned err } []
  | finish (ok : Bool) (after : After) (pc : s.handle = .endWrite after)
      (calm : ∀ err, after ≠ .raise err) :
      Served kind s ok { s with handle := .idle } after.frame

variable {kind : FileKind} {s : Server}

theorem serve_served {req : Request} (ok : Bool) (pc : s.handle = .serve req) :
    Served kind s ok (serve kind s ok req) [] := by
  cases req with
  | data payload =>
    cases kind with
    | download => exact .dataRefused ok payload pc nofun
    | upload =>
      simp only [serve]
      split
      · rename_i refused
        exact .dataRefused ok payload pc fun _ => refused
      · rename_i c hc
        exact .data ok payload c pc rfl hc
  | update n =>
    cases kind with
    | upload => exact .updateRefused ok n pc nofun
    | download =>
      simp only [serve]
      split
      · rename_i refused
        exact .updateRefused ok n pc fun _ => refused
      · rename_i c hc
        exact .update ok n c pc rfl hc
  | close =>
    cases kind with
    | upload =>
      cases ok with
      | true => exact .commit pc rfl
      | false => exact .commitFailed pc rfl
    | download => exact .peerClose ok pc rfl
  | error => exact .peerError ok pc

variable {s' : Server} {output : List Message}

theorem handleStep_served {ok : Bool} (h : handleStep kind s ok = some (s', output)) :
    Served kind s ok s' output := by
  unfold handleStep at h
  split at h
  · cases h
  · cases h
  · rename_i req pc
    split at h
    · rename_i open_
      cases h
      exact .found ok req pc open_
    · rename_i closed
      cases h
      exact .missing ok req pc (by simpa using closed)
  · rename_i req pc
    cases h
    exact serve_served ok pc
  · rename_i payload pc
    split at h
    · rename_i wrote
      subst wrote
      cases h
      exact .wrote payload pc
    · rename_i failed
      obtain rfl : ok = false := by simpa using failed
      cases h
      exact .writeFailed payload pc
  · rename_i n pc
    cases h
    exact .grant ok n pc
  · rename_i n pc
    split at h
    · rename_i full
      cases h
      exact .overflow ok n pc full
    · rename_i c hc
      cases h
      exact .restore ok n c pc hc
  · rename_i pc
    cases h
    exact .signal ok pc
  · rename_i after pc
    cases h
    exact .remove ok after pc
  · rename_i after pc
    cases h
    exact .close ok after pc
  · rename_i err pc
    cases h
    exact .raise ok err pc
  · rename_i after calm pc
    cases h
    exact .finish ok after pc calm

/-- The steps of `forwardDownload`. -/
inductive Forwarded (s : Server) : Act → Server → List Message → Prop
  | finished (pc : s.forward = .top) (empty : s.child.remaining = 0) :
      Forwarded s .forward { s with forward := .complete } []
  | starved (pc : s.forward = .top) (more : s.child.remaining ≠ 0)
      (spent : s.child.sendCredit.remaining = 0) :
      Forwarded s .forward { s with forward := .park } []
  | limited (pc : s.forward = .top) (more : s.child.remaining ≠ 0)
      (granted : s.child.sendCredit.remaining ≠ 0) :
      Forwarded s .forward { s with
        forward := .read (min (min s.child.sendCredit.remaining s.child.remaining)
          maxTypedStreamChunk) } []
  | read (limit : Nat) (given : Bytes) (err) (download : Download)
      (data : Bytes) (err') (pc : s.forward = .read limit)
      (h : s.child.download.readFile limit given err = some (download, data, err')) :
      Forwarded s (.read given err)
        { s with child.download := download, forward := .check data err' } []
  | stopped (a : Act) (pc : (∃ data err, s.forward = .check data err) ∨
      (∃ remaining err, s.forward = .written remaining err) ∨ s.forward = .park)
      (closed : s.child.done = true) :
      Forwarded s a { s with forward := .returned } []
  | nothing (err) (pc : s.forward = .check [] err) (open_ : s.child.done = false) :
      Forwarded s .forward { s with forward := afterRead err } []
  | got (data : Bytes) (err) (pc : s.forward = .check data err)
      (open_ : s.child.done = false) (nonempty : data ≠ []) :
      Forwarded s .forward { s with forward := .debit data err } []
  | overdrawn (data : Bytes) (err) (pc : s.forward = .debit data err)
      (h : s.child.sendCredit.consume data.length = none) :
      Forwarded s .forward { s with
        child.remaining := if data.length ≤ s.child.remaining
          then s.child.remaining - data.length else s.child.remaining
        forward := .closeChild false } []
  | debit (data : Bytes) (err) (c : Credit) (pc : s.forward = .debit data err)
      (h : s.child.sendCredit.consume data.length = some c) :
      Forwarded s .forward { s with
        child.sendCredit := c
        child.remaining := if data.length ≤ s.child.remaining
          then s.child.remaining - data.length else s.child.remaining
        forward := .write data (if data.length ≤ s.child.remaining
          then s.child.remaining - data.length else s.child.remaining) err } []
  | write (data : Bytes) (remaining : Nat) (err) (pc : s.forward = .write data remaining err) :
      Forwarded s .forward { s with forward := .written remaining err } [.streamData data]
  | last (pc : s.forward = .written 0 none) (open_ : s.child.done = false) :
      Forwarded s .forward { s with forward := .complete } []
  | next (remaining : Nat) (err) (pc : s.forward = .written remaining err)
      (open_ : s.child.done = false) (more : ¬(remaining = 0 ∧ err = none)) :
      Forwarded s .forward { s with forward := afterRead err } []
  | complete (pc : s.forward = .complete) : Forwarded s .forward { s with forward := .returned }
        [.streamClose (some .downloadComplete)]
  | remove (report : Bool) (pc : s.forward = .closeChild report) (live : s.live = true) :
      Forwarded s .forward { s with live := false, forward := .closeDone report } []
  | removed (report : Bool) (pc : s.forward = .closeChild report) (gone : s.live = false) :
      Forwarded s .forward { s with forward := if report then .fail else .returned } []
  | close (report : Bool) (pc : s.forward = .closeDone report) :
      Forwarded s .forward { s.close with forward := if report then .fail else .returned } []
  | fail (pc : s.forward = .fail) : Forwarded s .forward { s with forward := .returned }
        [.streamError (some .downloadReadFailed)]
  | woken (pc : s.forward = .park) (signalled : s.child.creditCh = true) :
      Forwarded s (.wake false) { s with child.creditCh := false, forward := .top } []

theorem forwardStep_forwarded (h : forwardStep s = some (s', output)) :
    Forwarded s .forward s' output := by
  unfold forwardStep at h
  split at h
  · rename_i pc
    split at h
    · rename_i empty
      cases h
      exact .finished pc empty
    · rename_i more
      split at h
      · rename_i spent
        cases h
        exact .starved pc more spent
      · rename_i granted
        cases h
        exact .limited pc more granted
  · rename_i data err pc
    split at h
    · rename_i closed
      cases h
      exact .stopped _ (.inl ⟨data, err, pc⟩) closed
    · rename_i hopen
      have open_ : s.child.done = false := by simpa using hopen
      split at h
      · rename_i empty
        subst empty
        cases h
        exact .nothing err pc open_
      · rename_i nonempty
        cases h
        exact .got data err pc open_ nonempty
  · rename_i data err pc
    dsimp only at h
    split at h
    · rename_i hc
      cases h
      exact .overdrawn data err pc hc
    · rename_i c hc
      cases h
      exact .debit data err c pc hc
  · rename_i data remaining err pc
    cases h
    exact .write data remaining err pc
  · rename_i remaining err pc
    split at h
    · rename_i closed
      cases h
      exact .stopped _ (.inr (.inl ⟨remaining, err, pc⟩)) closed
    · rename_i hopen
      have open_ : s.child.done = false := by simpa using hopen
      split at h
      · rename_i last
        obtain ⟨rfl, rfl⟩ := last
        cases h
        exact .last pc open_
      · rename_i more
        cases h
        exact .next remaining err pc open_ more
  · rename_i pc
    cases h
    exact .complete pc
  · rename_i report pc
    split at h
    · rename_i live
      cases h
      exact .remove report pc live
    · rename_i gone
      cases h
      exact .removed report pc (by simpa using gone)
  · rename_i report pc
    cases h
    exact .close report pc
  · rename_i pc
    cases h
    exact .fail pc
  · cases h

theorem readStep_forwarded {data : Bytes} {err : Option ReadError}
    (h : readStep s data err = some (s', output)) :
    Forwarded s (.read data err) s' output := by
  unfold readStep at h
  split at h
  · rename_i limit pc
    obtain ⟨⟨download, got, err'⟩, hread, heq⟩ := Option.map_eq_some_iff.mp h
    cases heq
    exact .read limit data err download got err' pc hread
  · cases h

theorem wakeStep_forwarded {closed : Bool} (h : wakeStep s closed = some (s', output)) :
    Forwarded s (.wake closed) s' output := by
  unfold wakeStep at h
  split at h
  · rename_i pc
    split at h
    · split at h
      · rename_i hdone
        cases h
        exact .stopped _ (.inr (.inr pc)) hdone
      · cases h
    · rename_i unclosed
      obtain rfl : closed = false := by simpa using unclosed
      split at h
      · rename_i signalled
        cases h
        exact .woken pc signalled
      · cases h
  · cases h

/-- A step reads a frame, is one of `Handle`, or is one of `forwardDownload`. -/
inductive Stepped (kind : FileKind) (s : Server) : Act → Server → List Message → Prop
  | receive (m : Message) (idle : s.handle = .idle) :
      Stepped kind s (.receive m) { s with handle := route s m } []
  | handle (ok : Bool) (s' : Server) (output)
      (served : Served kind s ok s' output) : Stepped kind s (.handle ok) s' output
  | forward (a : Act) (s' : Server) (output) (silent : a.input = none)
      (forwarded : Forwarded s a s' output) : Stepped kind s a s' output

theorem step_stepped {a : Act} (h : step kind s a = some (s', output)) :
    Stepped kind s a s' output := by
  cases a with
  | receive m =>
    simp only [step] at h
    split at h
    · rename_i idle
      cases h
      exact .receive m idle
    · cases h
  | handle ok => exact .handle ok s' output (handleStep_served h)
  | forward => exact .forward _ s' output rfl (forwardStep_forwarded h)
  | read => exact .forward _ s' output rfl (readStep_forwarded h)
  | wake => exact .forward _ s' output rfl (wakeStep_forwarded h)

section Remove

variable (s : Server) (after : After)

theorem remove_live : (s.remove after).live = false := by
  unfold Server.remove
  split
  · rfl
  · rename_i gone
    simpa using gone

theorem remove_child : (s.remove after).child = s.child := by
  unfold Server.remove
  split <;> rfl

theorem remove_forward : (s.remove after).forward = s.forward := by
  unfold Server.remove
  split <;> rfl

theorem remove_handle :
    (s.remove after).handle = .closeDone after ∨ (s.remove after).handle = .endWrite after := by
  unfold Server.remove
  split
  · exact .inl rfl
  · exact .inr rfl

end Remove

/-- `forwardDownload` leaves `Handle` alone, and the table unless it closes the child. -/
structure ForwardFrame (s s' : Server) : Prop where
  handle : s'.handle = s.handle
  closes : s'.isOpen = true → s.isOpen = true
  live : s'.live = true → s.live = true
  shut : ∀ report, s'.forward = .closeDone report → s'.live = false

theorem afterRead_shut (err : Option ReadError) (report : Bool) :
    afterRead err ≠ .closeDone report := by
  unfold afterRead
  split <;> exact nofun

theorem Forwarded.frame {a : Act} (forwarded : Forwarded s a s' output) : ForwardFrame s s' := by
  cases forwarded with
  | nothing err | next _ err =>
    exact ⟨rfl, id, id, fun report h => absurd h (afterRead_shut err report)⟩
  | remove => exact ⟨rfl, nofun, nofun, fun _ _ => rfl⟩
  | removed report =>
    refine ⟨rfl, id, id, ?_⟩
    cases report <;> exact nofun
  | close report =>
    refine ⟨rfl, ?_, id, ?_⟩
    · simp [Server.isOpen, Server.close]
    · cases report <;> exact nofun
  | _ => exact ⟨rfl, id, id, nofun⟩

/-- `Handle` leaves `forwardDownload` and its file alone, takes nothing from `sendCredit`,
and does not bring a child back. -/
structure ServeFrame (s s' : Server) : Prop where
  forward : s'.forward = s.forward
  remaining : s'.child.remaining = s.child.remaining
  file : s'.child.download.remaining = s.child.download.remaining
  granted : s.child.sendCredit.remaining ≤ s'.child.sendCredit.remaining
  live : s'.live = true → s.live = true

theorem Served.frame {ok : Bool} (served : Served kind s ok s' output) : ServeFrame s s' := by
  have removes (after : After) : ServeFrame s (s.remove after) := by
    refine ⟨remove_forward s after, ?_, ?_, ?_, ?_⟩
    · rw [remove_child]
    · rw [remove_child]
    · exact Nat.le_of_eq (by rw [remove_child])
    · rw [remove_live]
      exact nofun
  cases served with
  | update ok n c _ _ h =>
    obtain ⟨-, hc⟩ := Credit.add_eq_some.mp h
    exact ⟨rfl, rfl, rfl, hc ▸ Nat.le_add_right _ _, id⟩
  | writeFailed => exact removes _
  | overflow => exact removes _
  | remove => exact removes _
  | _ => exact ⟨rfl, rfl, rfl, Nat.le_refl _, id⟩

/-- `forwardDownload` takes steps between its start and its return. -/
theorem Forwarded.started {a : Act} (forwarded : Forwarded s a s' output) :
    s.forward ≠ .unstarted := by
  intro unstarted
  cases forwarded <;> simp_all

theorem Forwarded.unreturned {a : Act} (forwarded : Forwarded s a s' output) :
    s.forward ≠ .returned := by
  intro returned
  cases forwarded <;> simp_all

/-- A commit is not taken back. -/
theorem committed_stays {a : Act} (h : step kind s a = some (s', output))
    (committed : s.child.committed = true) :
    s'.child.committed = true := by
  cases step_stepped h with
  | receive => exact committed
  | handle _ s' output served =>
    cases served with
    | commit => rfl
    | writeFailed => rwa [remove_child]
    | overflow => rwa [remove_child]
    | remove => rwa [remove_child]
    | _ => exact committed
  | forward a s' output _ forwarded =>
    cases forwarded with
    | _ => exact committed

def Handle.place : Handle → Place
  | .openChild (.data payload) => .inArrival payload.length
  | .openChild (.update n) => .inReturn n
  | .serve (.data payload) => .inArrival payload.length
  | .serve (.update n) => .inReturn n
  | .dataWrite payload => .inHand payload.length
  | .dataGrant n => .inHand n
  | .dataRestore n => .inDebt n
  | _ => .none

def Forward.staged : Forward → Nat
  | .write data _ _ => data.length
  | _ => 0

def Server.ledger (s : Server) : Ledger where
  place := s.handle.place
  staged := s.forward.staged
  sendCredit := s.child.sendCredit.remaining
  recvCredit := s.child.recvCredit.remaining

def Handle.failed : Handle → Bool
  | .returned _ => true
  | _ => false

/-- The stream is open and the session goes on. -/
def Server.alive (s : Server) : Bool := s.isOpen && !s.handle.failed

abbrev Entry (s : Server) (input output : List Message) (s' : Server) : Prop :=
  ServerLedger.Entry False (s'.alive = false) s.ledger input output s'.ledger

/-- A stream that is closed stays closed, and an error of `Handle` is final. -/
def Later (s s' : Server) : Prop := s'.alive = true → s.alive = true

/-- What every step is known to do. -/
structure Moves (s : Server) (input output : List Message) (s' : Server) : Prop where
  entry : Entry s input output s'
  later : Later s s'

section Moves

variable {s s' : Server} {input output : List Message}

theorem failed_not_alive {err : HandleError} (h : s.handle = .returned err) : s.alive = false := by
  simp [Server.alive, h, Handle.failed]

theorem gone_not_alive (h : s.live = false) : s.alive = false := by
  simp [Server.alive, Server.isOpen, h]

theorem alive_of (hopen : s.isOpen = true) (running : s.handle.failed = false) :
    s.alive = true := by
  simp [Server.alive, hopen, running]

theorem later_dead (dead : s'.alive = false) : Later s s' := by
  intro alive
  rw [dead] at alive
  cases alive

theorem later_same (same : s'.isOpen = s.isOpen) (running : s.handle.failed = false) :
    Later s s' := by
  intro alive
  simp only [Server.alive, Bool.and_eq_true] at alive
  exact alive_of (same ▸ alive.1) running

/-- The session ends with an error of `Handle`. -/
theorem moves_failed (err : HandleError) : Moves s input [] { s with handle := .returned err } :=
  have dead : ({ s with handle := .returned err } : Server).alive = false := failed_not_alive rfl
  ⟨.drop rfl rfl dead, later_dead dead⟩

theorem moves_remove (after : After) : Moves s input [] (s.remove after) := by
  unfold Server.remove
  split
  · have dead : ({ s with live := false, handle := .closeDone after } : Server).alive = false :=
      gone_not_alive rfl
    exact ⟨.drop rfl rfl dead, later_dead dead⟩
  · rename_i gone
    have dead : ({ s with handle := .endWrite after } : Server).alive = false :=
      gone_not_alive (by simpa using gone)
    exact ⟨.drop rfl rfl dead, later_dead dead⟩

/-- `Handle` goes on and the bytes stay where they are. -/
theorem moves_quiet (same : s'.ledger = s.ledger) (later : Later s s')
    (ins : load input = 0 ∧ credit input = 0) (outs : load output = 0 ∧ credit output = 0) :
    Moves s input output s' :=
  ⟨.quiet same ins outs, later⟩

theorem ledger_same {place : Place} (h : s.handle.place = place) :
    { s.ledger with place := place } = s.ledger := by
  rw [← h]
  rfl

theorem route_moves {m : Message} (idle : s.handle = .idle) :
    Moves s [m] [] { s with handle := route s m } := by
  have none : s.handle.place = .none := congrArg Handle.place idle
  have running : s.handle.failed = false := congrArg Handle.failed idle
  unfold route
  split
  · split
    · split
      · rename_i valid
        exact ⟨.takeData _ (of_decide_eq_true valid) none rfl ⟨rfl, rfl⟩ rfl,
          later_same rfl running⟩
      · exact moves_failed _
    · split
      · rename_i valid
        exact ⟨.takeUpdate _ (of_decide_eq_true valid).1 none rfl ⟨rfl, rfl⟩ rfl,
          later_same rfl running⟩
      · exact moves_failed _
    · split
      · exact moves_quiet (ledger_same none) (later_same rfl running) ⟨rfl, rfl⟩ carries_nothing
      · exact moves_failed _
    · split
      · exact moves_quiet (ledger_same none) (later_same rfl running) ⟨rfl, rfl⟩ carries_nothing
      · exact moves_failed _
    · exact moves_failed _
  · exact moves_failed _

theorem closed_not_alive (h : s.record = some .closed) : s.alive = false := by
  simp [Server.alive, Server.isOpen, h]

theorem Served.moves {kind : FileKind} {ok : Bool} (served : Served kind s ok s' output) :
    Moves s [] output s' := by
  cases served with
  | found ok req pc =>
    refine moves_quiet ?_ (later_same rfl (congrArg Handle.failed pc)) carries_nothing
      carries_nothing
    cases req <;> simp only [Server.ledger, pc, Handle.place]
  | data ok payload c pc _ h =>
    obtain ⟨pos, hc⟩ := Credit.consume_eq_some.mp h
    have left : c.remaining = s.child.recvCredit.remaining - payload.length := by omega
    refine ⟨.consume payload.length pos ?_ ?_ ?_ rfl rfl,
      later_same rfl (congrArg Handle.failed pc)⟩
    · simp only [Server.ledger]
      omega
    · simp [Server.ledger, pc, Handle.place]
    · simp [Server.ledger, Handle.place, left]
  | update ok n c pc _ h =>
    obtain ⟨pos, hc⟩ := Credit.add_eq_some.mp h
    refine ⟨.refund n ?_ ?_ rfl rfl, later_same rfl (congrArg Handle.failed pc)⟩
    · simp [Server.ledger, pc, Handle.place]
    · simp [Server.ledger, Handle.place, hc]
  | commit pc | commitFailed pc | peerClose ok pc | peerError ok pc | wrote payload pc
  | signal ok pc =>
    exact moves_quiet (ledger_same (congrArg Handle.place pc))
      (later_same rfl (congrArg Handle.failed pc)) carries_nothing carries_nothing
  | writeFailed => exact moves_remove _
  | grant ok n pc =>
    exact ⟨.grant n (by simp only [Server.ledger, pc, Handle.place]) rfl rfl ⟨rfl, rfl⟩,
      later_same rfl (congrArg Handle.failed pc)⟩
  | overflow => exact moves_remove _
  | restore ok n c pc h =>
    obtain ⟨pos, hc⟩ := Credit.add_eq_some.mp h
    refine ⟨.restore n ?_ ?_ rfl rfl, later_same rfl (congrArg Handle.failed pc)⟩
    · simp [Server.ledger, pc, Handle.place]
    · simp [Server.ledger, Handle.place, hc]
  | remove => exact moves_remove _
  | close ok after pc =>
    exact moves_quiet (ledger_same (congrArg Handle.place pc))
      (later_dead (closed_not_alive rfl)) carries_nothing carries_nothing
  | finish ok after pc =>
    refine moves_quiet (ledger_same (congrArg Handle.place pc))
      (later_same rfl (congrArg Handle.failed pc)) carries_nothing ?_
    cases after <;> exact ⟨rfl, rfl⟩
  | _ => exact moves_failed _

/-- `forwardDownload` steps leave `Handle` and the table alone, unless they close the child. -/
theorem later_forward (handle : s'.handle = s.handle)
    (closes : s'.isOpen = true → s.isOpen = true) : Later s s' := by
  intro alive
  simp only [Server.alive, Bool.and_eq_true, Bool.not_eq_true'] at alive ⊢
  exact ⟨closes alive.1, handle ▸ alive.2⟩

theorem moves_forward (handle : s'.handle = s.handle) (child : s'.child.sendCredit =
    s.child.sendCredit ∧ s'.child.recvCredit = s.child.recvCredit)
    (closes : s'.isOpen = true → s.isOpen = true)
    (staged : s.forward.staged = 0 ∧ s'.forward.staged = 0)
    (outs : load output = 0 ∧ credit output = 0) : Moves s [] output s' := by
  refine moves_quiet ?_ (later_forward handle closes) carries_nothing outs
  simp [Server.ledger, handle, child.1, child.2, staged.1, staged.2]

theorem afterRead_staged (err : Option ReadError) : (afterRead err).staged = 0 := by
  unfold afterRead
  split <;> rfl

/-- Where `forwardDownload` goes on after `closeChild`. -/
theorem reported_staged (report : Bool) :
    (if report then Forward.fail else .returned).staged = 0 := by
  cases report <;> rfl

theorem Forwarded.moves {a : Act} (forwarded : Forwarded s a s' output) : Moves s [] output s' := by
  have aside (pc : s.forward.staged = 0) (next : Forward) (staged : next.staged = 0) :
      Moves s [] [] { s with forward := next } :=
    moves_forward rfl ⟨rfl, rfl⟩ id ⟨pc, staged⟩ carries_nothing
  cases forwarded with
  | finished pc | starved pc | limited pc | got data err pc | last pc =>
    exact aside (congrArg Forward.staged pc) _ rfl
  | stopped a pc =>
    refine aside ?_ _ rfl
    rcases pc with ⟨data, err, pc⟩ | ⟨remaining, err, pc⟩ | pc
    · exact congrArg Forward.staged pc
    · exact congrArg Forward.staged pc
    · exact congrArg Forward.staged pc
  | nothing err pc | next remaining err pc =>
    exact aside (congrArg Forward.staged pc) _ (afterRead_staged err)
  | debit data err c pc h =>
    obtain ⟨-, hc⟩ := Credit.consume_eq_some.mp h
    refine ⟨.stage data.length ?_ (congrArg Forward.staged pc) ?_ rfl rfl, later_forward rfl id⟩
    · simp only [Server.ledger]
      omega
    · have left : c.remaining = s.child.sendCredit.remaining - data.length := by omega
      simp [Server.ledger, Forward.staged, left]
  | write data remaining err pc =>
    refine ⟨.send data.length (congrArg Forward.staged pc) ?_ rfl ⟨rfl, rfl⟩, later_forward rfl id⟩
    simp [Server.ledger, Forward.staged]
  | complete pc | fail pc =>
    exact moves_forward rfl ⟨rfl, rfl⟩ id ⟨congrArg Forward.staged pc, rfl⟩ ⟨rfl, rfl⟩
  | remove report pc =>
    exact moves_forward rfl ⟨rfl, rfl⟩ nofun ⟨congrArg Forward.staged pc, rfl⟩ carries_nothing
  | removed report pc => exact aside (congrArg Forward.staged pc) _ (reported_staged report)
  | close report pc =>
    refine moves_forward rfl ⟨rfl, rfl⟩ ?_ ⟨congrArg Forward.staged pc, reported_staged report⟩
      carries_nothing
    simp [Server.isOpen, Server.close]
  | _ =>
    rename_i pc _
    exact moves_forward rfl ⟨rfl, rfl⟩ id ⟨congrArg Forward.staged pc, rfl⟩ carries_nothing

theorem Stepped.moves {kind : FileKind} {a : Act} (stepped : Stepped kind s a s' output) :
    Moves s a.input.toList output s' := by
  cases stepped with
  | receive m idle => exact route_moves idle
  | handle _ s' output served => exact served.moves
  | forward a s' output silent forwarded =>
    rw [silent]
    exact forwarded.moves

end Moves

end FileServer
