import WeDecent.MuxChild

/-!
# The client side of one typed file stream

`ManagedFileUpload` and `ManagedFileDownload` on a `ManagedMultiplexSession`
(`session/managed_file_transfer.go`), for one StreamID of a given kind once its
StreamOpen is sent. The monitor goroutine handles the peer's frames; any number of
callers may be inside `Read`, `Write`, `Commit` and `Cancel`, and the parent may end
at any moment. What a goroutine does under `child.mu` is one step, and so is each
frame it writes; `wireMu` is held from one step to another.

A handler of the monitor is one step where it takes one lock at a time and touches
nothing that a caller could tell apart. `handleFileClose` of a download is three: it
reads `closing`, then waits for `wireMu`, then writes its acknowledgement.
-/

namespace FileClient

open Bool List Option StreamProtocol MuxChild

inductive CallError where
  | closedPipe
  | sizeRange
  | context
  | write
  | stream (code : ErrorCode)

/-- The three results of `ManagedFileDownload.Read`. -/
structure ReadResult where
  out : Bytes
  done : Bool
  err : Option CallError

/-- The `Read` that holds `readMu`: `wire` waits for `wireMu` with bytes from the
queue, `update` holds it, `written` has released it, and `conclude` is about to ask
for `result`. -/
inductive Reader where
  | free
  | take (maxBytes : Nat)
  | park (maxBytes : Nat)
  | wire (out : Bytes) (closed : Bool)
  | update (out : Bytes) (closed : Bool)
  | written (out : Bytes) (closed : Bool)
  | conclude (out : Bytes)

inductive Call where
  | write (remaining : Bytes)
  | writePark (remaining : Bytes)
  | writeFrame (chunk rest : Bytes)
  | commit
  | commitFrame
  | commitWait
  | commitResult
  | cancel
  | cancelFrame
  | cancelWait
  | returned

inductive Monitor where
  | idle
  | close (reason : CloseReason) (closing : Bool)
  | ack
  | ended

/-- How far `finish` has come: it closes `done`, then the children, then the connection. -/
inductive Parent where
  | up
  | ending
  | childless
  | closed
  deriving DecidableEq

/-- `listed`: `files` has the stream. `live`: the table of children has it. -/
structure Client where
  parent : Parent
  monitor : Monitor
  listed : Bool
  live : Bool
  child : Child
  wireMu : Bool
  terminalErr : Option ErrorCode
  reader : Reader
  queued : List Nat
  calls : List Call

/-- The client once `openFileStream` has sent its StreamOpen. -/
def Client.new : Client where
  parent := .up
  monitor := .idle
  listed := true
  live := true
  child := Child.new
  wireMu := false
  terminalErr := none
  reader := .free
  queued := []
  calls := []

inductive Act where
  | beginRead (maxBytes : Nat)
  | lockRead (i : Nat)
  | read (e : Event)
  | beginWrite (data : Bytes)
  | beginCommit
  | beginCancel
  | call (i : Nat) (e : Event)
  | deliver (m : Message)
  | monitor (e : Event)
  | readFailed
  | finish
  | finishChildren
  | finishConn

/-- What a step puts on the wire or hands to a caller of `Read` or `Commit`. -/
inductive Output where
  | nothing
  | frame (m : Message)
  | read (r : ReadResult)
  | commit (err : Option CallError)

def Output.frames : Output → List Message
  | .frame m => [m]
  | _ => []

def Client.finish (c : Client) : Client :=
  if c.parent = .up then { c with parent := .ending } else c

/-- `removeFile` -/
def Client.remove (c : Client) : Client :=
  if c.live then { c with listed := false, live := false, child := c.child.close }
  else { c with listed := false }

/-- `setError` -/
def Client.setError (c : Client) (code : ErrorCode) : Client :=
  { c with terminalErr := some (c.terminalErr.getD code) }

/-- `fileChildResult` -/
def Client.childResult (c : Client) : CallError :=
  match c.terminalErr with
  | some code => .stream code
  | none => .closedPipe

def beginRead (c : Client) (maxBytes : Nat) : Client × Output :=
  let size := if maxBytes = 0 then managedTerminalChunkLimit else maxBytes
  if maxTypedStreamChunk < size then (c, .read ⟨[], false, some .sizeRange⟩)
  else ({ c with queued := c.queued ++ [size] }, .nothing)

/-- One of the waiting calls gets `readMu`. -/
def lockRead (c : Client) (i : Nat) : Option (Client × Output) :=
  match c.reader, c.queued[i]? with
  | .free, some maxBytes =>
    some ({ c with reader := .take maxBytes, queued := c.queued.eraseIdx i }, .nothing)
  | _, _ => none

def readStep (c : Client) (e : Event) : Option (Client × Output) :=
  match c.reader, e with
  | .take maxBytes, .run =>
    match c.child.takeOutput maxBytes with
    | some (out, closed, child) =>
      let next : Reader := if out = [] then .written out closed else .wire out closed
      some ({ c with child := child, reader := next }, .nothing)
    | none =>
      if c.child.done then some ({ c with reader := .conclude [] }, .nothing)
      else some ({ c with reader := .park maxBytes }, .nothing)
  | .park _, .ctxDone =>
    some ({ c with reader := .free }, .read ⟨[], false, some .context⟩)
  | .park _, .sessionDone =>
    if c.parent = .up then none
    else some ({ c with reader := .free }, .read ⟨[], true, some .closedPipe⟩)
  | .park maxBytes, .childDone =>
    if c.child.done then some ({ c with reader := .take maxBytes }, .nothing) else none
  | .park maxBytes, .notified =>
    if c.child.outputNotify then
      some ({ c with child.outputNotify := false, reader := .take maxBytes }, .nothing)
    else none
  | .wire out closed, .run =>
    if c.wireMu then none
    else if c.child.done then some ({ c with reader := .written out closed }, .nothing)
    else some ({ c with
      wireMu := true
      child.recvCredit := c.child.recvCredit + out.length
      reader := .update out closed }, .nothing)
  | .update out closed, .wrote =>
    if c.parent = .closed then none
    else some ({ c with wireMu := false, reader := .written out closed },
      .frame (.streamWindowUpdate (some out.length)))
  | .update out _, .writeFailed =>
    some ({ c.finish with wireMu := false, reader := .free }, .read ⟨out, true, some .write⟩)
  | .written out closed, .run =>
    if closed then some ({ c with reader := .conclude out }, .nothing)
    else some ({ c with reader := .free }, .read ⟨out, false, none⟩)
  | .conclude out, .run =>
    some ({ c with reader := .free }, .read ⟨out, true, c.terminalErr.map .stream⟩)
  | _, _ => none

def Client.setCall (c : Client) (i : Nat) (call : Call) : Client :=
  { c with calls := c.calls.set i call }

/-- The rest of `Write` once a chunk is on the wire. -/
def afterWrite (rest : Bytes) : Call := if rest = [] then .returned else .write rest

def callStep (c : Client) (i : Nat) (call : Call) (e : Event) : Option (Client × Output) :=
  match call, e with
  | .write remaining, .run =>
    if c.child.done then some (c.setCall i .returned, .nothing)
    else
      let n := (c.child.takeCredit remaining.length).1
      if n = 0 then some (c.setCall i (.writePark remaining), .nothing)
      else some ({ c with child := (c.child.takeCredit remaining.length).2 }.setCall i
        (.writeFrame (remaining.take n) (remaining.drop n)), .nothing)
  | .writePark _, .ctxDone => some (c.setCall i .returned, .nothing)
  | .writePark _, .sessionDone =>
    if c.parent = .up then none else some (c.setCall i .returned, .nothing)
  | .writePark _, .childDone =>
    if c.child.done then some (c.setCall i .returned, .nothing) else none
  | .writePark remaining, .notified =>
    if c.child.creditNotify then
      some ({ c with child.creditNotify := false }.setCall i (.write remaining), .nothing)
    else none
  | .writeFrame chunk rest, .wrote =>
    if c.parent = .closed then none
    else some (c.setCall i (afterWrite rest), .frame (.streamData chunk))
  | .writeFrame _ _, .writeFailed => some (c.finish.setCall i .returned, .nothing)
  | .commit, .run =>
    if c.child.done then some (c.setCall i .returned, .commit (some c.childResult))
    else
      let next : Call := if c.child.closing then .commitWait else .commitFrame
      some ({ c with child.closing := true }.setCall i next, .nothing)
  | .commitFrame, .wrote =>
    if c.parent = .closed then none
    else some (c.setCall i .commitWait, .frame (.streamClose (some .uploadComplete)))
  | .commitFrame, .writeFailed => some (c.finish.setCall i .returned, .commit (some .write))
  | .commitWait, .ctxDone => some (c.finish.setCall i .returned, .commit (some .context))
  | .commitWait, .sessionDone =>
    if c.parent = .up then none else some (c.setCall i .returned, .commit (some .closedPipe))
  | .commitWait, .childDone =>
    if c.child.done then some (c.setCall i .commitResult, .nothing) else none
  | .commitResult, .run =>
    some (c.setCall i .returned, .commit (c.terminalErr.map .stream))
  | .cancel, .run =>
    if c.wireMu then none
    else if c.child.done then some (c.setCall i .returned, .nothing)
    else some ({ c with wireMu := true, child.closing := true }.setCall i .cancelFrame, .nothing)
  | .cancelFrame, .wrote =>
    if c.parent = .closed then none
    else some ({ c with wireMu := false }.setCall i .cancelWait,
      .frame (.streamError (some .clientCancelled)))
  | .cancelFrame, .writeFailed =>
    some ({ c.finish with wireMu := false }.setCall i .returned, .nothing)
  | .cancelWait, .ctxDone => some (c.finish.setCall i .returned, .nothing)
  | .cancelWait, .sessionDone =>
    if c.parent = .up then none else some (c.setCall i .returned, .nothing)
  | .cancelWait, .childDone =>
    if c.child.done then some (c.setCall i .returned, .nothing) else none
  | _, _ => none

/-- The first step of the monitor's handlers; `none` is the `false` on which it calls
`finish`. A stream that is no longer listed is in no table at all. -/
def handleFrame (kind : FileKind) (c : Client) (m : Message) : Option Client :=
  match m with
  | .streamAccepted (some window) =>
    if validateStreamAccepted window && c.live then
      (c.child.accept window).map fun child => { c with child := child }
    else none
  | .streamData payload =>
    if c.listed && decide (kind = .download) && validateStreamData payload then
      (c.child.receiveData payload).map fun child => { c with child := child }
    else none
  | .streamWindowUpdate (some bytes) =>
    if c.listed && decide (kind = .download) then none
    else if validateStreamWindowUpdate bytes && c.live then
      (c.child.receiveUpdate bytes).map fun child => { c with child := child }
    else none
  | .streamClose (some reason) =>
    if c.listed && validateStreamClose reason && c.child.acceptedOK then
      match kind with
      | .upload =>
        if c.child.closing && decide (reason = .peerClose) then some c.remove else none
      | .download => some { c with monitor := .close reason c.child.closing }
    else none
  | .streamError (some code) =>
    if c.listed && validateStreamError code then some (c.setError code).remove else none
  | _ => none

def deliver (kind : FileKind) (c : Client) (m : Message) : Client :=
  match handleFrame kind c m with
  | some c' => c'
  | none => { c.finish with monitor := .ended }

/-- `handleFileClose` of a download after it has read `closing`. -/
def monitorStep (c : Client) (e : Event) : Option (Client × Output) :=
  match c.monitor, e with
  | .close reason closing, .run =>
    if c.wireMu then none
    else if closing then
      -- a cancellation has crossed the completion: keep the child for its `peer_close`
      if reason = .downloadComplete then some ({ c with monitor := .idle }, .nothing)
      else if reason = .peerClose then some ({ c.remove with monitor := .idle }, .nothing)
      else some ({ c.finish with monitor := .ended }, .nothing)
    else if reason = .downloadComplete then
      some ({ c with wireMu := true, monitor := .ack }, .nothing)
    else some ({ c.finish with monitor := .ended }, .nothing)
  | .ack, .wrote =>
    if c.parent = .closed then none
    else some ({ c.remove with wireMu := false, monitor := .idle },
      .frame (.streamClose (some .peerClose)))
  | .ack, .writeFailed =>
    some ({ c.finish with wireMu := false, monitor := .ended }, .nothing)
  | _, _ => none

/-- `openFileStream` returns a stream to call on once the peer has accepted it. -/
def Client.opened (kind wanted : FileKind) (c : Client) : Bool :=
  decide (kind = wanted) && c.child.acceptedOK

def step (kind : FileKind) (c : Client) : Act → Option (Client × Output)
  | .beginRead maxBytes =>
    if c.opened kind .download then some (beginRead c maxBytes) else none
  | .lockRead i => lockRead c i
  | .read e => readStep c e
  | .beginWrite data =>
    if c.opened kind .upload && !data.isEmpty then
      some ({ c with calls := c.calls ++ [.write data] }, .nothing)
    else none
  | .beginCommit =>
    if c.opened kind .upload then some ({ c with calls := c.calls ++ [.commit] }, .nothing)
    else none
  | .beginCancel =>
    if c.child.acceptedOK then some ({ c with calls := c.calls ++ [.cancel] }, .nothing)
    else none
  | .call i e =>
    match c.calls[i]? with
    | some call => callStep c i call e
    | none => none
  | .deliver m =>
    match c.monitor with
    | .idle => if c.parent = .closed then none else some (deliver kind c m, .nothing)
    | _ => none
  | .monitor e => monitorStep c e
  | .readFailed =>
    match c.monitor with
    | .idle => some ({ c.finish with monitor := .ended }, .nothing)
    | _ => none
  | .finish => some (c.finish, .nothing)
  | .finishChildren =>
    if c.parent = .ending then
      some ({ c with
        live := false
        child.done := c.child.done || c.live
        parent := .childless }, .nothing)
    else none
  | .finishConn =>
    if c.parent = .childless then some ({ c with parent := .closed }, .nothing) else none

/-- The frame a step takes from the wire. -/
def Act.input : Act → Option Message
  | .deliver m => some m
  | _ => none

@[simp] theorem finish_child (c : Client) : c.finish.child = c.child := by
  unfold Client.finish
  split <;> rfl

/-- `finish` marks the parent and touches nothing else. -/
theorem finish_eq (c : Client) : c.finish = { c with parent := c.finish.parent } := by
  unfold Client.finish
  split <;> rfl

section Remove

variable (c : Client)

@[simp] theorem remove_listed : c.remove.listed = false := by
  unfold Client.remove
  split <;> rfl

/-- `removeFile` takes the stream from both tables and closes a child it finds. -/
theorem remove_eq : c.remove = { c with
    listed := false
    live := false
    child := if c.live then c.child.close else c.child } := by
  unfold Client.remove
  split
  · rfl
  · rename_i gone
    rw [not_eq_true] at gone
    rw [← gone]

@[simp] theorem remove_reader : c.remove.reader = c.reader := by
  unfold Client.remove
  split <;> rfl

@[simp] theorem remove_queue : c.remove.child.outputQueue = c.child.outputQueue := by
  unfold Client.remove
  split <;> rfl

@[simp] theorem remove_terminalErr : c.remove.terminalErr = c.terminalErr := by
  unfold Client.remove
  split <;> rfl

end Remove

/-- A `Read` is refused for its size, or waits for `readMu`. -/
theorem beginRead_cases (c : Client) (maxBytes : Nat) :
    beginRead c maxBytes = (c, .read ⟨[], false, some .sizeRange⟩) ∨
      ∃ size, 0 < size ∧ size ≤ maxTypedStreamChunk ∧
        beginRead c maxBytes = ({ c with queued := c.queued ++ [size] }, .nothing) := by
  by_cases large : maxTypedStreamChunk <
      (if maxBytes = 0 then managedTerminalChunkLimit else maxBytes)
  · exact .inl (if_pos large)
  · refine .inr ⟨_, ?_, Nat.le_of_not_lt large, if_neg large⟩
    split
    · decide
    · omega

/-- A step of `Write`, `Commit` or `Cancel` leaves to the monitor and the reader what
is theirs. -/
structure CallFrame (c c' : Client) : Prop where
  reader : c'.reader = c.reader
  queued : c'.queued = c.queued
  monitor : c'.monitor = c.monitor
  listed : c'.listed = c.listed
  live : c'.live = c.live
  terminalErr : c'.terminalErr = c.terminalErr
  queue : c'.child.outputQueue = c.child.outputQueue
  bytes : c'.child.outputBytes = c.child.outputBytes
  recvCredit : c'.child.recvCredit = c.child.recvCredit
  acceptedOK : c'.child.acceptedOK = c.child.acceptedOK
  done : c'.child.done = c.child.done

/-- The steps of `Write`, `Commit` and `Cancel`. -/
inductive Called (c : Client) (i : Nat) : Call → Event → Client → Output → Prop
  | leave (call : Call) (e : Event) (out : Output) (unlocked : call ≠ .cancelFrame)
      (unwritten : e ≠ .wrote)
      (failed : out = .nothing ∨ ∃ err, out = .commit (some err)) :
      Called c i call e (c.setCall i .returned) out
  | abandon (call : Call) (e : Event) (out : Output) (unlocked : call ≠ .cancelFrame)
      (cut : e = .ctxDone ∨ e = .writeFailed)
      (failed : out = .nothing ∨ ∃ err, out = .commit (some err)) :
      Called c i call e (c.finish.setCall i .returned) out
  | park (remaining : Bytes) :
      Called c i (.write remaining) .run (c.setCall i (.writePark remaining)) .nothing
  | debit (remaining : Bytes) (some_ : (c.child.takeCredit remaining.length).1 ≠ 0) :
      Called c i (.write remaining) .run
        ({ c with child := (c.child.takeCredit remaining.length).2 }.setCall i
          (.writeFrame (remaining.take (c.child.takeCredit remaining.length).1)
            (remaining.drop (c.child.takeCredit remaining.length).1))) .nothing
  | retry (remaining : Bytes) : Called c i (.writePark remaining) .notified
        ({ c with child.creditNotify := false }.setCall i (.write remaining)) .nothing
  | data (chunk rest : Bytes) :
      Called c i (.writeFrame chunk rest) .wrote (c.setCall i (afterWrite rest))
        (.frame (.streamData chunk))
  | commit (open_ : c.child.done = false) : Called c i .commit .run
        ({ c with child.closing := true }.setCall i
          (if c.child.closing then .commitWait else .commitFrame)) .nothing
  | complete : Called c i .commitFrame .wrote (c.setCall i .commitWait)
        (.frame (.streamClose (some .uploadComplete)))
  | wake (closed : c.child.done = true) :
      Called c i .commitWait .childDone (c.setCall i .commitResult) .nothing
  | conclude :
      Called c i .commitResult .run (c.setCall i .returned) (.commit (c.terminalErr.map .stream))
  | cancel (free : c.wireMu = false) (open_ : c.child.done = false) : Called c i .cancel .run
        ({ c with wireMu := true, child.closing := true }.setCall i .cancelFrame) .nothing
  | cancelled : Called c i .cancelFrame .wrote ({ c with wireMu := false }.setCall i .cancelWait)
        (.frame (.streamError (some .clientCancelled)))
  | release : Called c i .cancelFrame .writeFailed
        ({ c.finish with wireMu := false }.setCall i .returned) .nothing

variable {c c' : Client} {o : Output}

theorem callStep_called {i : Nat} {call : Call} {e : Event}
    (h : callStep c i call e = some (c', o)) : Called c i call e c' o := by
  unfold callStep at h
  split at h
  · rename_i remaining
    split at h
    · cases h
      exact .leave _ _ _ (by rintro ⟨⟩) (by rintro ⟨⟩) (.inl rfl)
    dsimp only at h
    split at h
    · cases h
      exact .park remaining
    · rename_i some_
      cases h
      exact .debit remaining some_
  · cases h
    exact .leave _ _ _ (by rintro ⟨⟩) (by rintro ⟨⟩) (.inl rfl)
  · split at h
    · cases h
    · cases h
      exact .leave _ _ _ (by rintro ⟨⟩) (by rintro ⟨⟩) (.inl rfl)
  · split at h
    · cases h
      exact .leave _ _ _ (by rintro ⟨⟩) (by rintro ⟨⟩) (.inl rfl)
    · cases h
  · rename_i remaining
    split at h
    · cases h
      exact .retry remaining
    · cases h
  · rename_i chunk rest
    split at h
    · cases h
    · cases h
      exact .data chunk rest
  · cases h
    exact .abandon _ _ _ (by rintro ⟨⟩) (.inr rfl) (.inl rfl)
  · split at h
    · cases h
      exact .leave _ _ _ (by rintro ⟨⟩) (by rintro ⟨⟩) (.inr ⟨_, rfl⟩)
    · rename_i open_
      cases h
      exact .commit (by simpa using open_)
  · split at h
    · cases h
    · cases h
      exact .complete
  · cases h
    exact .abandon _ _ _ (by rintro ⟨⟩) (.inr rfl) (.inr ⟨_, rfl⟩)
  · cases h
    exact .abandon _ _ _ (by rintro ⟨⟩) (.inl rfl) (.inr ⟨_, rfl⟩)
  · split at h
    · cases h
    · cases h
      exact .leave _ _ _ (by rintro ⟨⟩) (by rintro ⟨⟩) (.inr ⟨_, rfl⟩)
  · split at h
    · rename_i closed
      cases h
      exact .wake closed
    · cases h
  · cases h
    exact .conclude
  · split at h
    · cases h
    rename_i held
    split at h
    · cases h
      exact .leave _ _ _ (by rintro ⟨⟩) (by rintro ⟨⟩) (.inl rfl)
    · rename_i open_
      cases h
      exact .cancel (by simpa using held) (by simpa using open_)
  · split at h
    · cases h
    · cases h
      exact .cancelled
  · cases h
    exact .release
  · cases h
    exact .abandon _ _ _ (by rintro ⟨⟩) (.inl rfl) (.inl rfl)
  · split at h
    · cases h
    · cases h
      exact .leave _ _ _ (by rintro ⟨⟩) (by rintro ⟨⟩) (.inl rfl)
  · split at h
    · cases h
      exact .leave _ _ _ (by rintro ⟨⟩) (by rintro ⟨⟩) (.inl rfl)
    · cases h
  · cases h

theorem Called.frame {i : Nat} {call : Call} {e : Event} (called : Called c i call e c' o) :
    CallFrame c c' := by
  cases called with
  | abandon | release =>
    rw [finish_eq]
    exact ⟨rfl, rfl, rfl, rfl, rfl, rfl, rfl, rfl, rfl, rfl, rfl⟩
  | _ => exact ⟨rfl, rfl, rfl, rfl, rfl, rfl, rfl, rfl, rfl, rfl, rfl⟩

/-- The steps of the `Read` that holds `readMu`. -/
inductive Reads (c : Client) : Event → Client → Output → Prop
  | take (maxBytes : Nat) (out : Bytes) (closed : Bool) (child : Child)
      (pc : c.reader = .take maxBytes)
      (taken : c.child.takeOutput maxBytes = some (out, closed, child)) :
      Reads c .run { c with
        child := child
        reader := if out = [] then .written out closed else .wire out closed } .nothing
  | drained (maxBytes : Nat) (pc : c.reader = .take maxBytes)
      (empty : c.child.takeOutput maxBytes = none) (closed : c.child.done = true) :
      Reads c .run { c with reader := .conclude [] } .nothing
  | wait (maxBytes : Nat) (pc : c.reader = .take maxBytes)
      (empty : c.child.takeOutput maxBytes = none) (open_ : c.child.done = false) :
      Reads c .run { c with reader := .park maxBytes } .nothing
  | expired (maxBytes : Nat) (pc : c.reader = .park maxBytes) :
      Reads c .ctxDone { c with reader := .free } (.read ⟨[], false, some .context⟩)
  | lost (maxBytes : Nat) (pc : c.reader = .park maxBytes) (down : c.parent ≠ .up) :
      Reads c .sessionDone { c with reader := .free } (.read ⟨[], true, some .closedPipe⟩)
  | woken (maxBytes : Nat) (pc : c.reader = .park maxBytes) (closed : c.child.done = true) :
      Reads c .childDone { c with reader := .take maxBytes } .nothing
  | notified (maxBytes : Nat) (pc : c.reader = .park maxBytes) :
      Reads c .notified { c with child.outputNotify := false, reader := .take maxBytes } .nothing
  | late (out : Bytes) (closed : Bool) (pc : c.reader = .wire out closed)
      (free : c.wireMu = false) (hdone : c.child.done = true) :
      Reads c .run { c with reader := .written out closed } .nothing
  | lock (out : Bytes) (closed : Bool) (pc : c.reader = .wire out closed)
      (free : c.wireMu = false) (open_ : c.child.done = false) :
      Reads c .run { c with
        wireMu := true
        child.recvCredit := c.child.recvCredit + out.length
        reader := .update out closed } .nothing
  | grant (out : Bytes) (closed : Bool) (pc : c.reader = .update out closed) :
      Reads c .wrote { c with wireMu := false, reader := .written out closed }
        (.frame (.streamWindowUpdate (some out.length)))
  | abandon (out : Bytes) (closed : Bool) (pc : c.reader = .update out closed) :
      Reads c .writeFailed { c.finish with wireMu := false, reader := .free }
        (.read ⟨out, true, some .write⟩)
  | last (out : Bytes) (pc : c.reader = .written out true) :
      Reads c .run { c with reader := .conclude out } .nothing
  | return_ (out : Bytes) (pc : c.reader = .written out false) :
      Reads c .run { c with reader := .free } (.read ⟨out, false, none⟩)
  | conclude (out : Bytes) (pc : c.reader = .conclude out) :
      Reads c .run { c with reader := .free } (.read ⟨out, true, c.terminalErr.map .stream⟩)

theorem readStep_reads {e : Event} (h : readStep c e = some (c', o)) : Reads c e c' o := by
  unfold readStep at h
  split at h
  · rename_i maxBytes pc
    split at h
    · rename_i out closed child taken
      cases h
      exact .take maxBytes out closed child pc taken
    · rename_i empty
      split at h
      · rename_i closed
        cases h
        exact .drained maxBytes pc empty closed
      · rename_i open_
        cases h
        exact .wait maxBytes pc empty (by simpa using open_)
  · rename_i maxBytes pc
    cases h
    exact .expired maxBytes pc
  · rename_i maxBytes pc
    split at h
    · cases h
    · rename_i down
      cases h
      exact .lost maxBytes pc down
  · rename_i maxBytes pc
    split at h
    · rename_i closed
      cases h
      exact .woken maxBytes pc closed
    · cases h
  · rename_i maxBytes pc
    split at h
    · cases h
      exact .notified maxBytes pc
    · cases h
  · rename_i out closed pc
    split at h
    · cases h
    rename_i held
    have free : c.wireMu = false := by simpa using held
    split at h
    · rename_i hdone
      cases h
      exact .late out closed pc free hdone
    · rename_i open_
      cases h
      exact .lock out closed pc free (by simpa using open_)
  · rename_i out closed pc
    split at h
    · cases h
    · cases h
      exact .grant out closed pc
  · rename_i out closed pc
    cases h
    exact .abandon out closed pc
  · rename_i out closed pc
    split at h
    · rename_i hclosed
      subst hclosed
      cases h
      exact .last out pc
    · rename_i hclosed
      obtain rfl : closed = false := by simpa using hclosed
      cases h
      exact .return_ out pc
  · rename_i out pc
    cases h
    exact .conclude out pc
  · cases h

/-- A step of `Read` leaves to the other calls and the monitor what is theirs. -/
structure ReadFrame (c c' : Client) : Prop where
  calls : c'.calls = c.calls
  monitor : c'.monitor = c.monitor
  listed : c'.listed = c.listed
  acceptedOK : c'.child.acceptedOK = c.child.acceptedOK
  closing : c'.child.closing = c.child.closing

theorem Reads.frame {e : Event} (reads : Reads c e c' o) : ReadFrame c c' := by
  cases reads with
  | take _ _ _ _ _ taken =>
    obtain ⟨-, -, -, -, -, hacceptedOK, hclosing, -⟩ := Child.takeOutput_spec taken
    exact ⟨rfl, rfl, rfl, hacceptedOK, hclosing⟩
  | abandon =>
    rw [finish_eq]
    exact ⟨rfl, rfl, rfl, rfl, rfl⟩
  | _ => exact ⟨rfl, rfl, rfl, rfl, rfl⟩

/-- The frames that the monitor's handlers accept, with what they make of the client. -/
inductive Handled (kind : FileKind) (c : Client) : Message → Client → Prop
  | accepted (window : Nat) (child : Child) (live : c.live = true)
      (h : c.child.accept window = some child) :
      Handled kind c (.streamAccepted (some window)) { c with child := child }
  | data (payload : Bytes) (child : Child) (listed : c.listed = true)
      (download : kind = .download) (valid : validateStreamData payload = true)
      (h : c.child.receiveData payload = some child) :
      Handled kind c (.streamData payload) { c with child := child }
  | update (bytes : Nat) (child : Child) (live : c.live = true)
      (upload : kind = .upload ∨ c.listed = false)
      (h : c.child.receiveUpdate bytes = some child) :
      Handled kind c (.streamWindowUpdate (some bytes)) { c with child := child }
  | uploadClose (listed : c.listed = true) (upload : kind = .upload)
      (accepted : c.child.acceptedOK = true) (closing : c.child.closing = true) :
      Handled kind c (.streamClose (some .peerClose)) c.remove
  | downloadClose (reason) (listed : c.listed = true)
      (download : kind = .download) (accepted : c.child.acceptedOK = true) :
      Handled kind c (.streamClose (some reason))
        { c with monitor := .close reason c.child.closing }
  | error (code) (listed : c.listed = true) :
      Handled kind c (.streamError (some code)) (c.setError code).remove

theorem handleFrame_handled {kind : FileKind} {m : Message} (h : handleFrame kind c m = some c') :
    Handled kind c m c' := by
  unfold handleFrame at h
  split at h
  · split at h
    · rename_i window valid
      obtain ⟨child, hchild, rfl⟩ := map_eq_some_iff.mp h
      exact .accepted window child (and_eq_true_iff.mp valid).2 hchild
    · cases h
  · split at h
    · rename_i payload valid
      simp only [and_eq_true, decide_eq_true_eq] at valid
      obtain ⟨child, hchild, rfl⟩ := map_eq_some_iff.mp h
      exact .data payload child valid.1.1 valid.1.2 valid.2 hchild
    · cases h
  · split at h
    · cases h
    rename_i bytes other
    split at h
    · rename_i valid
      obtain ⟨child, hchild, rfl⟩ := map_eq_some_iff.mp h
      refine .update bytes child (and_eq_true_iff.mp valid).2 ?_ hchild
      cases kind with
      | upload => exact .inl rfl
      | download => exact .inr (by simpa using other)
    · cases h
  · split at h
    · rename_i reason valid
      simp only [and_eq_true] at valid
      cases kind with
      | upload =>
        dsimp only at h
        split at h
        · rename_i closing
          simp only [and_eq_true, decide_eq_true_eq] at closing
          obtain rfl := closing.2
          cases h
          exact .uploadClose valid.1.1 rfl valid.2 closing.1
        · cases h
      | download =>
        cases h
        exact .downloadClose reason valid.1.1 rfl valid.2
    · cases h
  · split at h
    · rename_i code valid
      cases h
      exact .error code (and_eq_true_iff.mp valid).1
    · cases h
  · cases h

/-- The steps of `handleFileClose` of a download after it has read `closing`. -/
inductive Monitored (c : Client) : Event → Client → Output → Prop
  | keep (pc : c.monitor = .close .downloadComplete true) (free : c.wireMu = false) :
      Monitored c .run { c with monitor := .idle } .nothing
  | acked (pc : c.monitor = .close .peerClose true) (free : c.wireMu = false) :
      Monitored c .run { c.remove with monitor := .idle } .nothing
  | refuse (reason) (closing : Bool) (pc : c.monitor = .close reason closing)
      (unexpected : reason ≠ .downloadComplete ∧ (closing = true → reason ≠ .peerClose)) :
      Monitored c .run { c.finish with monitor := .ended } .nothing
  | lock (pc : c.monitor = .close .downloadComplete false) (free : c.wireMu = false) :
      Monitored c .run { c with wireMu := true, monitor := .ack } .nothing
  | ack (pc : c.monitor = .ack) :
      Monitored c .wrote { c.remove with wireMu := false, monitor := .idle }
        (.frame (.streamClose (some .peerClose)))
  | ackFailed (pc : c.monitor = .ack) :
      Monitored c .writeFailed { c.finish with wireMu := false, monitor := .ended } .nothing

theorem monitorStep_monitored {e : Event} (h : monitorStep c e = some (c', o)) :
    Monitored c e c' o := by
  unfold monitorStep at h
  split at h
  · rename_i reason closing pc
    split at h
    · cases h
    rename_i held
    have free : c.wireMu = false := by simpa using held
    split at h
    · rename_i hclosing
      subst hclosing
      split at h
      · rename_i hreason
        subst hreason
        cases h
        exact .keep pc free
      · rename_i incomplete
        split at h
        · rename_i hreason
          subst hreason
          cases h
          exact .acked pc free
        · rename_i other
          cases h
          exact .refuse reason true pc ⟨incomplete, fun _ => other⟩
    · rename_i hclosing
      obtain rfl : closing = false := by simpa using hclosing
      split at h
      · rename_i hreason
        subst hreason
        cases h
        exact .lock pc free
      · rename_i incomplete
        cases h
        exact .refuse reason false pc ⟨incomplete, by rintro ⟨⟩⟩
  · rename_i pc
    split at h
    · cases h
    · cases h
      exact .ack pc
  · rename_i pc
    cases h
    exact .ackFailed pc
  · cases h

theorem Monitored.busy {e : Event} (monitored : Monitored c e c' o) :
    c.monitor ≠ .idle ∧ c.monitor ≠ .ended := by
  cases monitored with
  | ack pc => rw [pc]; exact ⟨by rintro ⟨⟩, by rintro ⟨⟩⟩
  | ackFailed pc => rw [pc]; exact ⟨by rintro ⟨⟩, by rintro ⟨⟩⟩
  | _ =>
    rename_i pc _
    rw [pc]; exact ⟨by rintro ⟨⟩, by rintro ⟨⟩⟩

/-- The calls that begin. -/
inductive Begins (kind : FileKind) : Act → Call → Prop
  | write {data : Bytes} (some_ : data ≠ []) (upload : kind = .upload) :
      Begins kind (.beginWrite data) (.write data)
  | commit (upload : kind = .upload) : Begins kind .beginCommit .commit
  | cancel : Begins kind .beginCancel .cancel

/-- A step of the client with what it writes or returns. -/
inductive Stepped (kind : FileKind) (c : Client) : Act → Client → Output → Prop
  | oversize {maxBytes : Nat} :
      Stepped kind c (.beginRead maxBytes) c (.read ⟨[], false, some .sizeRange⟩)
  | queues {maxBytes size : Nat} (download : kind = .download) :
      Stepped kind c (.beginRead maxBytes) { c with queued := c.queued ++ [size] } .nothing
  | locks {i maxBytes : Nat} (free : c.reader = .free) (at_i : c.queued[i]? = some maxBytes) :
      Stepped kind c (.lockRead i)
        { c with reader := .take maxBytes, queued := c.queued.eraseIdx i } .nothing
  | reads {e : Event} {c' : Client} {o : Output} (reads : Reads c e c' o) :
      Stepped kind c (.read e) c' o
  | begins {a : Act} {call : Call} (begins : Begins kind a call)
      (accepted : c.child.acceptedOK = true) :
      Stepped kind c a { c with calls := c.calls ++ [call] } .nothing
  | calls {i : Nat} {call : Call} {e : Event} {c' : Client} {o : Output}
      (at_i : c.calls[i]? = some call) (called : Called c i call e c' o) :
      Stepped kind c (.call i e) c' o
  | handles {m : Message} {c' : Client} (idle : c.monitor = .idle)
      (found : handleFrame kind c m = some c') : Stepped kind c (.deliver m) c' .nothing
  | refuses {m : Message} (idle : c.monitor = .idle) (refused : handleFrame kind c m = none) :
      Stepped kind c (.deliver m) { c.finish with monitor := .ended } .nothing
  | monitors {e : Event} {c' : Client} {o : Output} (monitored : Monitored c e c' o) :
      Stepped kind c (.monitor e) c' o
  | breaks : Stepped kind c .readFailed { c.finish with monitor := .ended } .nothing
  | finishes : Stepped kind c .finish c.finish .nothing
  | childless (ending : c.parent = .ending) : Stepped kind c .finishChildren
      { c with live := false, child.done := c.child.done || c.live, parent := .childless } .nothing
  | closes (childless : c.parent = .childless) :
      Stepped kind c .finishConn { c with parent := .closed } .nothing

theorem step_stepped {kind : FileKind} {a : Act} (h : step kind c a = some (c', o)) :
    Stepped kind c a c' o := by
  cases a with
  | beginRead maxBytes =>
    simp only [step] at h
    split at h
    · rename_i opened
      rcases beginRead_cases c maxBytes with refused | ⟨size, -, -, queued⟩
      · rw [refused] at h
        cases h
        exact .oversize
      · rw [queued] at h
        cases h
        exact .queues (of_decide_eq_true (and_eq_true_iff.mp opened).1)
    · cases h
  | lockRead i =>
    simp only [step, lockRead] at h
    split at h
    · rename_i maxBytes free at_i
      cases h
      exact .locks free at_i
    · cases h
  | read => exact .reads (readStep_reads h)
  | beginWrite =>
    obtain ⟨opened, h⟩ := ite_none_right_eq_some.mp h
    simp only [Client.opened, and_eq_true, decide_eq_true_eq, not_eq_true',
      isEmpty_eq_false_iff] at opened
    cases h
    exact .begins (.write opened.2 opened.1.1) opened.1.2
  | beginCommit =>
    obtain ⟨opened, h⟩ := ite_none_right_eq_some.mp h
    simp only [Client.opened, and_eq_true, decide_eq_true_eq] at opened
    cases h
    exact .begins (.commit opened.1) opened.2
  | beginCancel =>
    obtain ⟨accepted, h⟩ := ite_none_right_eq_some.mp h
    cases h
    exact .begins .cancel accepted
  | call i e =>
    simp only [step] at h
    split at h
    · rename_i call at_i
      exact .calls at_i (callStep_called h)
    · cases h
  | deliver m =>
    simp only [step, deliver] at h
    split at h
    · rename_i idle
      split at h
      · cases h
      split at h
      · rename_i found
        cases h
        exact .handles idle found
      · rename_i refused
        cases h
        exact .refuses idle refused
    · cases h
  | monitor => exact .monitors (monitorStep_monitored h)
  | readFailed =>
    simp only [step] at h
    split at h
    · cases h
      exact .breaks
    · cases h
  | finish =>
    cases h
    exact .finishes
  | finishChildren =>
    obtain ⟨ending, h⟩ := ite_none_right_eq_some.mp h
    cases h
    exact .childless ending
  | finishConn =>
    obtain ⟨childless, h⟩ := ite_none_right_eq_some.mp h
    cases h
    exact .closes childless

/-- Bytes read from the queue whose WindowUpdate is not written yet. -/
def Reader.updating : Reader → Nat
  | .wire out _ => out.length
  | .update out _ => out.length
  | _ => 0

/-- Bytes read from the queue that `recvCredit` still misses. -/
def Reader.unreturned : Reader → Nat
  | .wire out _ => out.length
  | _ => 0

theorem Reader.unreturned_le (r : Reader) : r.unreturned ≤ r.updating := by
  cases r with
  | wire => exact Nat.le_refl _
  | _ => exact Nat.zero_le _

def Client.held (c : Client) : Nat := c.child.outputBytes + c.reader.updating

/-- Until the child is closed, `recvCredit` misses what is queued or just read. -/
def Client.Windowed (c : Client) : Prop :=
  c.child.done = false →
    c.child.recvCredit + c.child.outputBytes + c.reader.unreturned = managedMuxReceiveWindow

/-- What a step that reads `input` and writes `output` does to the bytes received. -/
inductive Holds (c : Client) (input output : List Message) (c' : Client) : Prop
  | stay (same : c'.held = c.held) (ins : load input = 0) (outs : credit output = 0)
  | arrive (n : Nat) (moved : c'.held = c.held + n) (ins : load input = n)
      (outs : credit output = 0)
  | grant (n : Nat) (moved : c.held = c'.held + n) (ins : load input = 0) (outs : credit output = n)
  | lose (fewer : c'.held ≤ c.held) (outs : credit output = 0)

/-- The frames a client of this kind writes. -/
def utters (kind : FileKind) : Message → Bool
  | .streamData payload => decide (kind = .upload) && validateStreamData payload
  | .streamWindowUpdate (some bytes) =>
    decide (kind = .download) && validateStreamWindowUpdate bytes
  | .streamClose (some reason) => decide (reason = .uploadComplete ∨ reason = .peerClose)
  | .streamError (some code) => decide (code = .clientCancelled)
  | _ => false

def Call.Sound (kind : FileKind) : Call → Prop
  | .write remaining => kind = .upload ∧ remaining ≠ []
  | .writePark remaining => kind = .upload ∧ remaining ≠ []
  | .writeFrame chunk _ => kind = .upload ∧ validateStreamData chunk = true
  | .commit => kind = .upload
  | .commitFrame => kind = .upload
  | .commitWait => kind = .upload
  | .commitResult => kind = .upload
  | _ => True

def Reader.Sound (kind : FileKind) : Reader → Prop
  | .free => True
  | .wire out _ => kind = .download ∧ validateStreamWindowUpdate out.length = true
  | .update out _ => kind = .download ∧ validateStreamWindowUpdate out.length = true
  | _ => kind = .download

/-- Calls are on a stream of their kind, and what they are about to write is valid. -/
structure Sound (kind : FileKind) (c : Client) : Prop where
  calls : ∀ call ∈ c.calls, call.Sound kind
  reader : c.reader.Sound kind
  queued : c.queued ≠ [] → kind = .download

theorem sound_new (kind : FileKind) : Sound kind Client.new :=
  ⟨forall_mem_nil _, trivial, fun h => absurd rfl h⟩

/-- What every step is known to do. -/
structure Moves (kind : FileKind) (c : Client) (input output : List Message) (c' : Client) :
    Prop where
  holds : Holds c input output c'
  windowed : c.Windowed → c'.Windowed
  sound : Sound kind c → Sound kind c' ∧ ∀ m ∈ output, utters kind m = true

section Moves

variable {kind : FileKind} {c c' : Client}

/-- A step aside of the received bytes. -/
theorem moves_aside {input output : List Message} (ins : load input = 0)
    (outs : credit output = 0 ∧ ∀ m ∈ output, utters kind m = true)
    (reader : c'.reader = c.reader) (queued : c'.queued = c.queued)
    (calls : c'.calls = c.calls)
    (bytes : c'.child.outputBytes = c.child.outputBytes)
    (credit_ : c'.child.recvCredit = c.child.recvCredit)
    (hdone : c'.child.done = false → c.child.done = false) : Moves kind c input output c' := by
  refine ⟨.stay ?_ ins outs.1, ?_, ?_⟩
  · simp [Client.held, reader, bytes]
  · intro windowed open_
    rw [credit_, bytes, reader]
    exact windowed (hdone open_)
  · intro sound
    refine ⟨⟨?_, ?_, ?_⟩, outs.2⟩
    · rw [calls]
      exact sound.calls
    · rw [reader]
      exact sound.reader
    · rw [queued]
      exact sound.queued

theorem utters_nothing : credit [] = 0 ∧ ∀ m ∈ [], utters kind m = true := ⟨rfl, nofun⟩

/-- The reader goes on with what it has. -/
theorem moves_reader (r : Reader) (updating : r.updating = c.reader.updating)
    (unreturned : r.unreturned = c.reader.unreturned)
    (sound : c.reader.Sound kind → r.Sound kind) :
    Moves kind c [] [] { c with reader := r } := by
  refine ⟨.stay ?_ rfl rfl, ?_, ?_⟩
  · simp [Client.held, updating]
  · intro windowed open_
    rw [unreturned]
    exact windowed open_
  · exact fun h => ⟨⟨h.calls, sound h.reader, h.queued⟩, forall_mem_nil _⟩

theorem take_moves {maxBytes : Nat} {out : Bytes} {closed : Bool} {child : Child}
    (hpc : c.reader = .take maxBytes)
    (taken : c.child.takeOutput maxBytes = some (out, closed, child)) :
    Moves kind c [] [] { c with
      child := child
      reader := if out = [] then .written out closed else .wire out closed } := by
  obtain ⟨-, bytes, -, -, recv, -, -, hdone⟩ := Child.takeOutput_spec taken
  have limited := c.child.limited
  unfold managedTerminalOutputLimit at limited
  by_cases empty : out = []
  · rw [if_pos empty]
    rw [empty, length_nil] at bytes
    refine ⟨.stay ?_ rfl rfl, ?_, ?_⟩
    · simp only [Client.held, hpc, Reader.updating]
      omega
    · intro windowed open_
      have := windowed (hdone ▸ open_)
      rw [hpc] at this
      simp only [Reader.unreturned, recv] at this ⊢
      omega
    · intro sound
      have download : kind = .download := by
        have := sound.reader
        rw [hpc] at this
        exact this
      exact ⟨⟨sound.calls, download, sound.queued⟩, forall_mem_nil _⟩
  · rw [if_neg empty]
    have pos : 0 < out.length := length_pos_iff.mpr empty
    refine ⟨.stay ?_ rfl rfl, ?_, ?_⟩
    · simp only [Client.held, hpc, Reader.updating]
      omega
    · intro windowed open_
      have := windowed (hdone ▸ open_)
      rw [hpc] at this
      simp only [Reader.unreturned, recv] at this ⊢
      omega
    · intro sound
      have download : kind = .download := by
        have := sound.reader
        rw [hpc] at this
        exact this
      refine ⟨⟨sound.calls, ⟨download, decide_eq_true ⟨pos, ?_⟩⟩, sound.queued⟩, nofun⟩
      unfold maxTypedStreamWindow
      omega

variable {o : Output}

theorem Reads.moves {e : Event} (reads : Reads c e c' o) : Moves kind c [] o.frames c' := by
  cases reads with
  | take maxBytes out closed _ pc taken => exact take_moves pc taken
  | drained maxBytes pc | wait maxBytes pc | woken maxBytes pc | last out pc =>
    exact moves_reader _ (by rw [pc]; rfl) (by rw [pc]; rfl) (by rw [pc]; exact id)
  | lost maxBytes pc =>
    exact moves_reader _ (by rw [pc]; rfl) (by rw [pc]; rfl) fun _ => trivial
  | notified maxBytes pc =>
    refine ⟨.stay ?_ rfl rfl, ?_, ?_⟩
    · simp [Client.held, pc, Reader.updating]
    · intro windowed open_
      have := windowed open_
      rwa [pc] at this
    · intro sound
      have download := sound.reader
      rw [pc] at download
      exact ⟨⟨sound.calls, download, sound.queued⟩, forall_mem_nil _⟩
  | late out closed pc free hdone =>
    refine ⟨.lose ?_ rfl, ?_, ?_⟩
    · simp only [Client.held, pc, Reader.updating]
      omega
    · intro _ open_
      rw [hdone] at open_
      cases open_
    · intro sound
      have download := sound.reader
      rw [pc] at download
      exact ⟨⟨sound.calls, download.1, sound.queued⟩, forall_mem_nil _⟩
  | lock out closed pc free open_ =>
    refine ⟨.stay ?_ rfl rfl, ?_, ?_⟩
    · simp [Client.held, pc, Reader.updating]
    · intro windowed open_
      have := windowed open_
      rw [pc] at this
      simp only [Reader.unreturned] at this ⊢
      omega
    · intro sound
      have valid := sound.reader
      rw [pc] at valid
      exact ⟨⟨sound.calls, valid, sound.queued⟩, forall_mem_nil _⟩
  | grant out closed pc =>
    refine ⟨.grant out.length ?_ rfl rfl, ?_, ?_⟩
    · simp only [Client.held, pc, Reader.updating]
      omega
    · intro windowed open_
      have := windowed open_
      rwa [pc] at this
    · intro sound
      have valid := sound.reader
      rw [pc] at valid
      refine ⟨⟨sound.calls, valid.1, sound.queued⟩, ?_⟩
      intro m hm
      rw [mem_singleton.mp hm]
      simp only [utters, valid.1, decide_true, Bool.true_and]
      exact valid.2
  | abandon out closed pc =>
    rw [finish_eq]
    refine ⟨.lose ?_ rfl, ?_, fun sound => ⟨⟨sound.calls, trivial, sound.queued⟩, nofun⟩⟩
    · simp only [Client.held, pc, Reader.updating]
      omega
    · intro windowed open_
      have := windowed open_
      rwa [pc] at this
  | _ =>
    rename_i pc
    exact moves_reader _ (by rw [pc]; rfl) (by rw [pc]; rfl) fun _ => trivial

theorem finish_calls (c : Client) : c.finish.calls = c.calls := by
  rw [finish_eq]

theorem afterWrite_sound (rest : Bytes) (upload : kind = .upload) :
    (afterWrite rest).Sound kind := by
  unfold afterWrite
  split
  · trivial
  · rename_i more
    exact ⟨upload, more⟩

/-- A call of this client goes on to `next` and may write a frame of its kind. -/
theorem Called.moves {i : Nat} {call : Call} {e : Event} (called : Called c i call e c' o)
    (member : call ∈ c.calls) : Moves kind c [] o.frames c' := by
  have frame := called.frame
  have moves (next : Call) (uncredited : credit o.frames = 0)
      (calls : c'.calls = c.calls.set i next)
      (sound : call.Sound kind → next.Sound kind ∧ ∀ m ∈ o.frames, utters kind m = true) :
      Moves kind c [] o.frames c' := by
    refine ⟨.stay ?_ rfl uncredited, ?_, ?_⟩
    · simp [Client.held, frame.reader, frame.bytes]
    · intro windowed open_
      rw [frame.recvCredit, frame.bytes, frame.reader]
      exact windowed (frame.done ▸ open_)
    · intro hs
      obtain ⟨valid, uttered⟩ := sound (hs.calls call member)
      refine ⟨⟨?_, ?_, ?_⟩, uttered⟩
      · rw [calls]
        exact Weights.forall_set hs.calls i valid
      · rw [frame.reader]
        exact hs.reader
      · rw [frame.queued]
        exact hs.queued
  cases called with
  | leave call e out unlocked _ failed =>
    refine moves .returned ?_ rfl fun _ => ⟨trivial, ?_⟩
    · rcases failed with rfl | ⟨err, rfl⟩ <;> rfl
    · rcases failed with rfl | ⟨err, rfl⟩ <;> exact forall_mem_nil _
  | abandon call e out unlocked _ failed =>
    refine moves .returned ?_ ?_ fun _ => ⟨trivial, ?_⟩
    · rcases failed with rfl | ⟨err, rfl⟩ <;> rfl
    · simp [Client.setCall, finish_calls]
    · rcases failed with rfl | ⟨err, rfl⟩ <;> exact forall_mem_nil _
  | park remaining => exact moves (.writePark remaining) rfl rfl fun valid => ⟨valid, nofun⟩
  | debit remaining some_ =>
    refine moves _ rfl rfl fun valid => ⟨⟨valid.1, ?_⟩, forall_mem_nil _⟩
    obtain ⟨-, fits, small⟩ := Child.takeCredit_spec c.child remaining.length
    refine decide_eq_true ?_
    rw [length_take, Nat.min_eq_left fits]
    exact ⟨Nat.pos_of_ne_zero some_, small⟩
  | retry remaining => exact moves (.write remaining) rfl rfl fun valid => ⟨valid, nofun⟩
  | data _ rest =>
    refine moves _ rfl rfl fun valid => ⟨afterWrite_sound rest valid.1, ?_⟩
    intro m hm
    rw [mem_singleton.mp hm]
    simp only [utters, valid.1, decide_true, Bool.true_and]
    exact valid.2
  | commit =>
    refine moves _ rfl rfl fun upload => ⟨?_, forall_mem_nil _⟩
    split <;> exact upload
  | complete =>
    refine moves .commitWait rfl rfl fun upload => ⟨upload, ?_⟩
    intro m hm
    rw [mem_singleton.mp hm]
    rfl
  | wake => exact moves .commitResult rfl rfl fun upload => ⟨upload, forall_mem_nil _⟩
  | conclude => exact moves .returned rfl rfl fun _ => ⟨trivial, forall_mem_nil _⟩
  | cancel => exact moves .cancelFrame rfl rfl fun _ => ⟨trivial, forall_mem_nil _⟩
  | cancelled =>
    refine moves .cancelWait rfl rfl fun _ => ⟨trivial, ?_⟩
    intro m hm
    rw [mem_singleton.mp hm]
    rfl
  | release =>
    refine moves .returned rfl ?_ fun _ => ⟨trivial, forall_mem_nil _⟩
    simp [Client.setCall, finish_calls]

theorem removed_moves {input output : List Message} (ins : load input = 0)
    (outs : credit output = 0 ∧ ∀ m ∈ output, utters kind m = true)
    (reader : c'.reader = c.reader) (queued : c'.queued = c.queued) (calls : c'.calls = c.calls)
    (child : c'.child = if c.live then c.child.close else c.child) :
    Moves kind c input output c' := by
  refine moves_aside ins outs reader queued calls ?_ ?_ ?_
  · rw [child]
    split <;> rfl
  · rw [child]
    split <;> rfl
  rw [child]
  intro open_
  split at open_
  · cases open_
  · exact open_

theorem Handled.moves {m : Message} (handled : Handled kind c m c') : Moves kind c [m] [] c' := by
  cases handled with
  | accepted _ child live h =>
    obtain ⟨-, -, -, -, bytes, recv, -, -, hdone⟩ := Child.accept_eq_some h
    exact moves_aside rfl utters_nothing rfl rfl rfl bytes recv fun h => hdone ▸ h
  | data payload child _ _ _ h =>
    obtain ⟨-, recv, -, bytes, -, -, -, hdone⟩ := Child.receiveData_eq_some h
    refine ⟨.arrive payload.length ?_ rfl rfl, ?_, fun sound => ⟨⟨sound.calls, sound.reader,
      sound.queued⟩, forall_mem_nil _⟩⟩
    · simp only [Client.held, bytes]
      omega
    · intro windowed open_
      have := windowed (hdone ▸ open_)
      dsimp only
      omega
  | update bytes child live _ h =>
    obtain ⟨-, -, -, bytes, recv, -, -, hdone⟩ := Child.receiveUpdate_eq_some h
    exact moves_aside rfl utters_nothing rfl rfl rfl bytes recv fun h => hdone ▸ h
  | downloadClose =>
    exact moves_aside rfl utters_nothing rfl rfl rfl rfl rfl id
  | _ =>
    rw [remove_eq]
    exact removed_moves rfl utters_nothing rfl rfl rfl rfl

/-- The monitor gives up, whatever it has just read. -/
theorem finish_moves (monitor : Monitor) (wireMu : Bool) (input : List Message) :
    Moves kind c input [] { c.finish with monitor := monitor, wireMu := wireMu } := by
  rw [finish_eq]
  exact ⟨.lose (Nat.le_refl _) rfl, id, fun sound => ⟨⟨sound.calls, sound.reader, sound.queued⟩,
    (forall_mem_nil _)⟩⟩

theorem Monitored.moves {e : Event} (monitored : Monitored c e c' o) :
    Moves kind c [] o.frames c' := by
  cases monitored with
  | acked =>
    rw [remove_eq]
    exact removed_moves rfl utters_nothing rfl rfl rfl rfl
  | refuse => exact finish_moves .ended c.finish.wireMu []
  | ack =>
    rw [remove_eq]
    refine removed_moves rfl ⟨rfl, ?_⟩ rfl rfl rfl rfl
    intro m hm
    rw [mem_singleton.mp hm]
    rfl
  | ackFailed => exact finish_moves .ended false []
  | _ => exact moves_aside rfl utters_nothing rfl rfl rfl rfl rfl id

/-- A call that begins joins the pool. -/
theorem begin_moves (call : Call) (valid : call.Sound kind) :
    Moves kind c [] [] { c with calls := c.calls ++ [call] } := by
  refine ⟨.stay rfl rfl rfl, id, fun sound => ⟨⟨?_, sound.reader, sound.queued⟩, nofun⟩⟩
  intro other hmem
  rcases mem_append.mp hmem with hold | hnew
  · exact sound.calls other hold
  · rw [mem_singleton.mp hnew]
    exact valid

theorem step_moves {a : Act} (h : step kind c a = some (c', o)) :
    Moves kind c a.input.toList o.frames c' := by
  cases step_stepped h with
  | queues download =>
    exact ⟨.stay rfl rfl rfl, id, fun sound => ⟨⟨sound.calls, sound.reader, fun _ => download⟩,
      forall_mem_nil _⟩⟩
  | locks free at_i =>
    have waiting : c.queued ≠ [] := by
      intro empty
      rw [empty] at at_i
      cases at_i
    refine ⟨.stay ?_ rfl rfl, ?_, ?_⟩
    · simp [Client.held, free, Reader.updating]
    · intro windowed open_
      have := windowed open_
      rwa [free] at this
    · exact fun sound => ⟨⟨sound.calls, sound.queued waiting, fun _ => sound.queued waiting⟩,
        (forall_mem_nil _)⟩
  | reads reads => exact reads.moves
  | begins begins =>
    cases begins with
    | write some_ upload => exact begin_moves _ ⟨upload, some_⟩
    | commit upload => exact begin_moves _ upload
    | cancel => exact begin_moves _ trivial
  | calls at_i called => exact called.moves (mem_of_getElem? at_i)
  | handles _ found => exact (handleFrame_handled found).moves
  | refuses => exact finish_moves .ended c.finish.wireMu _
  | monitors monitored => exact monitored.moves
  | breaks => exact finish_moves .ended c.finish.wireMu []
  | finishes => exact finish_moves c.finish.monitor c.finish.wireMu []
  | childless =>
    exact moves_aside rfl utters_nothing rfl rfl rfl rfl rfl fun h => (or_eq_false_iff.mp h).1
  | _ => exact moves_aside rfl utters_nothing rfl rfl rfl rfl rfl id

/-- Frames are written by the steps of `Read`, of the other calls and of the monitor that
wait for the connection, one frame each. -/
theorem step_writes {a : Act} (h : step kind c a = some (c', o)) :
    o.frames = [] ∨ (∃ m, o = .frame m) ∧
      (a = .read .wrote ∨ (∃ i, a = .call i .wrote) ∨ a = .monitor .wrote) := by
  cases step_stepped h with
  | reads reads =>
    cases reads with
    | grant => exact .inr ⟨⟨_, rfl⟩, .inl rfl⟩
    | _ => exact .inl rfl
  | @calls i _ _ _ _ _ called =>
    cases called with
    | leave call e out unlocked _ failed | abandon call e out unlocked _ failed =>
      rcases failed with rfl | ⟨err, rfl⟩ <;> exact .inl rfl
    | data | complete | cancelled => exact .inr ⟨⟨_, rfl⟩, .inr (.inl ⟨i, rfl⟩)⟩
    | _ => exact .inl rfl
  | monitors monitored =>
    cases monitored with
    | ack => exact .inr ⟨⟨_, rfl⟩, .inr (.inr rfl)⟩
    | _ => exact .inl rfl
  | _ => exact .inl rfl

end Moves

end FileClient
