import WeDecent.Library.Runs
import WeDecent.ServerLedger
import WeDecent.StreamRegistry

/-!
# The server side of one typed terminal stream

`typedTerminalServer` (`session/typed_stream_server.go`) with the dispatcher in
front of it (`session/typed_stream_dispatch.go`, `session/typed_stream_wiring.go`),
for one StreamID. Three goroutines work on a child: the session loop that calls
`Handle`, `forwardOutput` and `waitProcess`. Each has a program counter; what
a goroutine does under one lock, and each frame it writes, is one step, so
every schedule of the steps is an interleaving of the goroutines.

The process behind the PTY answers through the arguments of the actions. Frame
writes succeed: a failed write ends the connection and nothing of this stream
is on the wire after it. An error that `Handle` returns ends the session, whose
teardown (`CloseAll`) writes nothing for the stream.
-/

namespace TerminalServer

open List Option StreamProtocol StreamRegistry ServerLedger

def typedTerminalReceiveWindow : Nat := 262144
def forwardBufferSize : Nat := 32768

/-- The frames that `Handle` answers for a child it looks up with `openChild`. -/
inductive Request where
  | data (payload : Bytes)
  | update (bytes : Nat)
  | resize (size : Resize)

/-- What a caller of `closeStream` inside `Handle` does next: report an error
(ignoring what `closeStream` returned), acknowledge the peer's close, or nothing. -/
inductive After where
  | report (code : ErrorCode)
  | ack
  | silent

inductive HandleError where
  | typedStreamProtocol
  | typedStreamCredit

inductive Handle where
  | idle
  | openReserve (o : StreamOpen)
  | openStart (o : StreamOpen)
  | openAccept
  | openChild (req : Request)
  | serve (req : Request)
  | dataWrite (payload : Bytes)
  | dataGrant (n : Nat)
  | dataRestore (n : Nat)
  | updateSignal
  | closeStream (after : After) (unwritten : Option Bytes)
  | closeDone (after : After)
  | endWrite (after : After)
  | returned (err : HandleError)

inductive Forward where
  | unstarted
  | read
  | send (data : Bytes) (eof : Bool)
  | park (data : Bytes) (eof : Bool)
  | write (chunk rest : Bytes) (eof : Bool)
  | returned

inductive Wait where
  | unstarted
  | wait
  | exited
  | closeStream (reason : CloseReason)
  | closeDone (reason : CloseReason)
  | endWrite (reason : CloseReason)
  | returned

structure Child where
  sendCredit : Credit
  recvCredit : Credit
  creditCh : Bool
  done : Bool

/-- `record` is the registry's entry for the StreamID, `live` says whether
`streams` has a child for it. -/
structure Server where
  record : Option StreamState
  live : Bool
  child : Child
  handle : Handle
  forward : Forward
  wait : Wait

def Server.new : Server where
  record := none
  live := false
  child := ⟨Credit.zero, Credit.zero, false, false⟩
  handle := .idle
  forward := .unstarted
  wait := .unstarted

/-- Where `waitProcess` may leave its select. -/
inductive Cause where
  | readDone
  | timer
  | done

inductive Act where
  | receive (m : Message)
  | handle (ok : Bool)
  | read (data : Bytes) (err : Bool)
  | forward
  | wake (closed : Bool)
  | exit
  | select (cause : Cause)
  | wait

/-- A StreamOpen that `routeTypedApplicationFrame` hands to the file engine. -/
def opensFile : Message → Bool
  | .streamOpen (some o) => decide (o.kind = .fileUpload ∨ o.kind = .fileDownload)
  | _ => false

/-- `routeTypedApplicationFrame` up to the first lock `Handle` takes: the
registry has the StreamID and the payload passes its parser and validator. -/
def route (s : Server) (m : Message) : Handle :=
  match m with
  | .streamOpen (some o) =>
    if validateStreamOpen o then .openReserve o else .returned .typedStreamProtocol
  | m =>
    if s.record = some .opening ∨ s.record = some .opened then
      match m with
      | .streamData payload =>
        if validateStreamData payload then .openChild (.data payload)
        else .returned .typedStreamProtocol
      | .streamWindowUpdate (some n) =>
        if validateStreamWindowUpdate n then .openChild (.update n)
        else .returned .typedStreamProtocol
      | .streamResize (some size) =>
        if validateStreamResize size then .openChild (.resize size)
        else .returned .typedStreamProtocol
      | .streamClose (some reason) =>
        if validateStreamClose reason then .closeStream .ack none
        else .returned .typedStreamProtocol
      | .streamError (some code) =>
        if validateStreamError code then .closeStream .silent none
        else .returned .typedStreamProtocol
      | _ => .returned .typedStreamProtocol
    else .returned .typedStreamProtocol

/-- The first step on the child after `openChild`. -/
def serve (s : Server) (ok : Bool) : Request → Server
  | .data payload =>
    match s.child.recvCredit.consume payload.length with
    | none => { s with handle := .returned .typedStreamProtocol }
    | some c => { s with child.recvCredit := c, handle := .dataWrite payload }
  | .update n =>
    match s.child.sendCredit.add n with
    | none => { s with handle := .returned .typedStreamProtocol }
    | some c => { s with child.sendCredit := c, handle := .updateSignal }
  | .resize _ =>
    if ok then { s with handle := .idle }
    else { s with handle := .closeStream (.report .ptyResizeFailed) none }

def After.frame : After → List Message
  | .report code => [.streamError (some code)]
  | .ack => [.streamClose (some .peerClose)]
  | .silent => []

/-- The locked part of `closeStream` finds the stream open. -/
def Server.isOpen (s : Server) : Bool := s.live && decide (s.record = some .opened)

section Registry

variable {s : Server} {r : Registry} {streamID : Nat}
  (tracks : r.Tracks streamID .terminal s.record)

include tracks

theorem isOpen_eq_registry : s.isOpen = (s.live && r.isOpen streamID .terminal) := by
  rw [Server.isOpen, tracks.isOpen_eq]

/-- The registry has no terminal in use under the ID. -/
theorem route_unregistered {m : Message} (unused : r.kind streamID ≠ some .terminal)
    (later : ∀ o, m ≠ .streamOpen (some o)) : route s m = .returned .typedStreamProtocol := by
  unfold route
  split
  · exact absurd rfl (later _)
  · rw [if_neg (mt tracks.kind_iff.mpr unused)]

end Registry

def handleStep (s : Server) (ok : Bool) : Option (Server × List Message) :=
  match s.handle with
  | .idle => none
  | .returned _ => none
  | .openReserve o =>
    -- `ok` stands for the connection's stream limits
    if s.record = none ∧ ok then
      some ({ s with record := some .opening, handle := .openStart o }, [])
    else some ({ s with handle := .returned .typedStreamProtocol }, [])
  | .openStart o =>
    if ok then
      match Credit.new o.initialWindow, Credit.new typedTerminalReceiveWindow with
      | some sendCredit, some recvCredit =>
        some ({ s with
          record := some .opened
          live := true
          child := ⟨sendCredit, recvCredit, false, false⟩
          handle := .openAccept }, [])
      | _, _ =>
        some ({ s with record := some .closed, handle := .returned .typedStreamProtocol }, [])
    else some ({ s with
      record := some .closed
      handle := .endWrite (.report .ptyStartFailed) }, [])
  | .openAccept =>
    some ({ s with handle := .idle, forward := .read, wait := .wait },
      [.streamAccepted (some typedTerminalReceiveWindow)])
  | .openChild req =>
    if s.isOpen then some ({ s with handle := .serve req }, [])
    else some ({ s with handle := .returned .typedStreamProtocol }, [])
  | .serve req => some (serve s ok req, [])
  | .dataWrite payload =>
    if ok then some ({ s with handle := .dataGrant payload.length }, [])
    else some ({ s with
      handle := .closeStream (.report .ptyWriteFailed) (some payload) }, [])
  | .dataGrant n =>
    some ({ s with handle := .dataRestore n }, [.streamWindowUpdate (some n)])
  | .dataRestore n =>
    match s.child.recvCredit.add n with
    | none => some ({ s with handle := .returned .typedStreamCredit }, [])
    | some c => some ({ s with child.recvCredit := c, handle := .idle }, [])
  | .updateSignal => some ({ s with child.creditCh := true, handle := .idle }, [])
  | .closeStream after _ =>
    if s.isOpen then
      some ({ s with record := some .closed, live := false, handle := .closeDone after }, [])
    else match after with
      | .report code => some ({ s with handle := .endWrite (.report code) }, [])
      | _ => some ({ s with handle := .returned .typedStreamProtocol }, [])
  | .closeDone after => some ({ s with child.done := true, handle := .endWrite after }, [])
  | .endWrite after => some ({ s with handle := .idle }, after.frame)

/-- The chunk `sendData` takes: all of `data`, one frame, or what credit is left. -/
def chunkSize (data : Bytes) (available : Nat) : Nat :=
  min (min data.length maxTypedStreamChunk) available

def forwardStep (s : Server) : Option (Server × List Message) :=
  match s.forward with
  | .send data eof =>
    if 0 < s.child.sendCredit.remaining then
      let n := chunkSize data s.child.sendCredit.remaining
      match s.child.sendCredit.consume n with
      | none => some ({ s with forward := .returned }, [])
      | some c => some ({ s with
          child.sendCredit := c
          forward := .write (data.take n) (data.drop n) eof }, [])
    else some ({ s with forward := .park data eof }, [])
  | .write chunk rest eof =>
    some ({ s with
      forward := if rest = [] then (if eof then .returned else .read) else .send rest eof },
      [.streamData chunk])
  | _ => none

def wakeStep (s : Server) (closed : Bool) : Option (Server × List Message) :=
  match s.forward with
  | .park data eof =>
    if closed then
      if s.child.done then some ({ s with forward := .returned }, []) else none
    else if s.child.creditCh then
      some ({ s with child.creditCh := false, forward := .send data eof }, [])
    else none
  | _ => none

def selectStep (s : Server) (cause : Cause) : Option (Server × List Message) :=
  match s.wait with
  | .exited =>
    match cause with
    | .readDone =>
      match s.forward with
      | .returned => some ({ s with wait := .closeStream .processExit }, [])
      | _ => none
    | .timer => some ({ s with wait := .closeStream .ptyDrainTimeout }, [])
    | .done => if s.child.done then some ({ s with wait := .returned }, []) else none
  | _ => none

def waitStep (s : Server) : Option (Server × List Message) :=
  match s.wait with
  | .closeStream reason =>
    if s.isOpen then
      some ({ s with record := some .closed, live := false, wait := .closeDone reason }, [])
    else some ({ s with wait := .returned }, [])
  | .closeDone reason => some ({ s with child.done := true, wait := .endWrite reason }, [])
  | .endWrite reason => some ({ s with wait := .returned }, [.streamClose (some reason)])
  | _ => none

/-- One step with the frames it writes. -/
def step (s : Server) : Act → Option (Server × List Message)
  | .receive m =>
    match s.handle with
    | .idle => if opensFile m then none else some ({ s with handle := route s m }, [])
    | _ => none
  | .handle ok => handleStep s ok
  | .read data err =>
    match s.forward with
    | .read =>
      if forwardBufferSize < data.length then none
      else some ({ s with
        forward := if data = [] then (if err then .returned else .read) else .send data err }, [])
    | _ => none
  | .forward => forwardStep s
  | .wake closed => wakeStep s closed
  | .exit =>
    match s.wait with
    | .wait => some ({ s with wait := .exited }, [])
    | _ => none
  | .select cause => selectStep s cause
  | .wait => waitStep s

def Handle.place : Handle → Place
  | .openChild (.data payload) => .inArrival payload.length
  | .openChild (.update n) => .inReturn n
  | .serve (.data payload) => .inArrival payload.length
  | .serve (.update n) => .inReturn n
  | .dataWrite payload => .inHand payload.length
  | .dataGrant n => .inHand n
  | .dataRestore n => .inDebt n
  | .closeStream _ (some payload) => .inHand payload.length
  | _ => .none

def Forward.staged : Forward → Nat
  | .write chunk _ _ => chunk.length
  | _ => 0

def Server.ledger (s : Server) : Ledger where
  place := s.handle.place
  staged := s.forward.staged
  sendCredit := s.child.sendCredit.remaining
  recvCredit := s.child.recvCredit.remaining

def Handle.opens : Handle → Bool
  | .openStart _ => true
  | .openAccept => true
  | _ => false

def Handle.failed : Handle → Bool
  | .returned _ => true
  | _ => false

/-- The stream is open and the session goes on. -/
def Server.alive (s : Server) : Bool := s.isOpen && !s.handle.failed

/-- A step's entry in the ledger; nothing is said about the steps that open the stream. -/
abbrev Entry (s : Server) (input output : List Message) (s' : Server) : Prop :=
  ServerLedger.Entry (s.handle.opens = true) (s'.alive = false) s.ledger input output s'.ledger

variable {s : Server}

theorem failed_not_alive {e : HandleError} (h : s.handle = .returned e) : s.alive = false := by
  simp [Server.alive, h, Handle.failed]

theorem closed_not_alive (h : s.isOpen = false) : s.alive = false := by
  simp [Server.alive, h]

/-- A move of `Handle` alone shows in the ledger as a change of its place. -/
theorem ledger_handle (s : Server) (pc : Handle) :
    ({ s with handle := pc } : Server).ledger = { s.ledger with place := pc.place } := rfl

theorem ledger_same {place : Place} (h : s.handle.place = place) :
    { s.ledger with place := place } = s.ledger := by
  rw [← h]
  rfl

def After.ends : After → Bool
  | .silent => false
  | _ => true

/-- `Handle` is about to write a frame that ends the stream it has closed. -/
def Handle.endDue : Handle → Bool
  | .closeDone after => after.ends
  | .endWrite after => after.ends
  | _ => false

def Wait.endDue : Wait → Bool
  | .closeDone _ => true
  | .endWrite _ => true
  | _ => false

/-- `Handle` is on its way from `openChild` to a WindowUpdate. -/
def Handle.granting : Handle → Bool
  | .serve (.data _) => true
  | .dataWrite _ => true
  | .dataGrant _ => true
  | _ => false

/-- `forwardOutput` holds a chunk that it has taken credit for. -/
def Forward.writing : Forward → Bool
  | .write _ _ _ => true
  | _ => false

/-- The frame a step takes from the wire. -/
def Act.input : Act → Option Message
  | .receive m => some m
  | _ => none

/-- Why `Handle` ends the session. -/
inductive Rejects (s : Server) : Prop where
  | reserve {o : StreamOpen} (at_ : s.handle = .openReserve o)
  | missing {req : Request} (closed : s.isOpen = false) (at_ : s.handle = .openChild req)
  | data {payload : Bytes} (refused : s.child.recvCredit.consume payload.length = none)
      (at_ : s.handle = .serve (.data payload))
  | update {n : Nat} (refused : s.child.sendCredit.add n = none)
      (at_ : s.handle = .serve (.update n))
  | overflow {n : Nat} (full : s.child.recvCredit.add n = none) (at_ : s.handle = .dataRestore n)
  | shut {after : After} {unwritten : Option Bytes} (closed : s.isOpen = false)
      (quiet : ∀ code, after ≠ .report code) (at_ : s.handle = .closeStream after unwritten)

/-- A step of `Handle` with the frames it writes. -/
inductive Handled (s : Server) : Server → List Message → Prop where
  | rejects {e : HandleError} (why : Rejects s) : Handled s { s with handle := .returned e } []
  | reserves {o : StreamOpen} (fresh : s.record = none) (at_ : s.handle = .openReserve o) :
    Handled s { s with record := some .opening, handle := .openStart o } []
  | starts {o : StreamOpen} {child : Child} (at_ : s.handle = .openStart o) : Handled s { s with
      record := some .opened, live := true, child := child, handle := .openAccept } []
  | refuses {o : StreamOpen} {pc : Handle} (opens : pc.opens = false)
      (grants : pc.granting = false) (at_ : s.handle = .openStart o) :
    Handled s { s with record := some .closed, handle := pc } []
  | accepts (at_ : s.handle = .openAccept) :
    Handled s { s with handle := .idle, forward := .read, wait := .wait }
      [.streamAccepted (some typedTerminalReceiveWindow)]
  | finds {req : Request} (opened : s.isOpen = true) (at_ : s.handle = .openChild req) :
    Handled s { s with handle := .serve req } []
  | consumes {payload : Bytes} {c : Credit}
      (taken : s.child.recvCredit.consume payload.length = some c)
      (at_ : s.handle = .serve (.data payload)) :
    Handled s { s with child.recvCredit := c, handle := .dataWrite payload } []
  | refunds {n : Nat} {c : Credit} (added : s.child.sendCredit.add n = some c)
      (at_ : s.handle = .serve (.update n)) :
    Handled s { s with child.sendCredit := c, handle := .updateSignal } []
  | resized {size : Resize} (at_ : s.handle = .serve (.resize size)) :
    Handled s { s with handle := .idle } []
  | resizeFailed {size : Resize} (at_ : s.handle = .serve (.resize size)) :
    Handled s { s with handle := .closeStream (.report .ptyResizeFailed) none } []
  | wrote {payload : Bytes} (at_ : s.handle = .dataWrite payload) :
    Handled s { s with handle := .dataGrant payload.length } []
  | writeFailed {payload : Bytes} (at_ : s.handle = .dataWrite payload) :
    Handled s { s with handle := .closeStream (.report .ptyWriteFailed) (some payload) } []
  | grants {n : Nat} (at_ : s.handle = .dataGrant n) :
    Handled s { s with handle := .dataRestore n } [.streamWindowUpdate (some n)]
  | restores {n : Nat} {c : Credit} (added : s.child.recvCredit.add n = some c)
      (at_ : s.handle = .dataRestore n) :
    Handled s { s with child.recvCredit := c, handle := .idle } []
  | signals (at_ : s.handle = .updateSignal) :
    Handled s { s with child.creditCh := true, handle := .idle } []
  | shuts {after : After} {unwritten : Option Bytes} (opened : s.isOpen = true)
      (at_ : s.handle = .closeStream after unwritten) :
    Handled s { s with record := some .closed, live := false, handle := .closeDone after } []
  | reports {code : ErrorCode} {unwritten : Option Bytes} (closed : s.isOpen = false)
      (at_ : s.handle = .closeStream (.report code) unwritten) :
    Handled s { s with handle := .endWrite (.report code) } []
  | marks {after : After} (at_ : s.handle = .closeDone after) :
    Handled s { s with child.done := true, handle := .endWrite after } []
  | ends {after : After} (at_ : s.handle = .endWrite after) :
    Handled s { s with handle := .idle } after.frame

/-- A step of the server with the frames it writes. -/
inductive Stepped (s : Server) : Act → Server → List Message → Prop where
  | receives {m : Message} (idle : s.handle = .idle) :
    Stepped s (.receive m) { s with handle := route s m } []
  | handles {ok : Bool} {s' : Server} {out : List Message} (running : s.handle.failed = false)
      (handled : Handled s s' out) : Stepped s (.handle ok) s' out
  | forwards {a : Act} {pc pc' : Forward} {creditCh : Bool} (input : a.input = none)
      (at_ : s.forward = pc) (started : pc ≠ .unstarted) (staged : pc.staged = 0)
      (idle : pc'.writing = false) :
    Stepped s a { s with child.creditCh := creditCh, forward := pc' } []
  | stages {data : Bytes} {eof : Bool} {c : Credit} (at_ : s.forward = .send data eof)
      (taken : s.child.sendCredit.consume (chunkSize data s.child.sendCredit.remaining) = some c) :
    Stepped s .forward { s with
      child.sendCredit := c
      forward := .write (data.take (chunkSize data s.child.sendCredit.remaining))
        (data.drop (chunkSize data s.child.sendCredit.remaining)) eof } []
  | writes {chunk rest : Bytes} {eof : Bool} {pc : Forward}
      (at_ : s.forward = .write chunk rest eof) (idle : pc.writing = false) :
    Stepped s .forward { s with forward := pc } [.streamData chunk]
  | waits {a : Act} {pc pc' : Wait} (input : a.input = none) (at_ : s.wait = pc)
      (started : pc ≠ .unstarted) (due : pc'.endDue = false) :
    Stepped s a { s with wait := pc' } []
  | shuts {reason : CloseReason} (at_ : s.wait = .closeStream reason) (opened : s.isOpen = true) :
    Stepped s .wait { s with record := some .closed, live := false, wait := .closeDone reason } []
  | marks {reason : CloseReason} (at_ : s.wait = .closeDone reason) :
    Stepped s .wait { s with child.done := true, wait := .endWrite reason } []
  | ends {reason : CloseReason} (at_ : s.wait = .endWrite reason) :
    Stepped s .wait { s with wait := .returned } [.streamClose (some reason)]

theorem serve_handled {ok : Bool} {req : Request} (hpc : s.handle = .serve req) :
    Handled s (serve s ok req) [] := by
  cases req with
  | data =>
    simp only [serve]
    split
    · exact .rejects (.data ‹_› hpc)
    · exact .consumes ‹_› hpc
  | update n =>
    simp only [serve]
    split
    · exact .rejects (.update ‹_› hpc)
    · exact .refunds ‹_› hpc
  | resize =>
    simp only [serve]
    split
    · exact .resized hpc
    · exact .resizeFailed hpc

variable {s' : Server} {out : List Message}

theorem handleStep_handled {ok : Bool} (h : handleStep s ok = some (s', out)) :
    Handled s s' out := by
  unfold handleStep at h
  split at h
  · cases h
  · cases h
  · rename_i o hpc
    split at h
    · rename_i fresh
      cases h
      exact .reserves fresh.1 hpc
    · cases h
      exact .rejects (.reserve hpc)
  · rename_i o hpc
    split at h
    · split at h
      · cases h
        exact .starts hpc
      · cases h
        exact .refuses rfl rfl hpc
    · cases h
      exact .refuses rfl rfl hpc
  · rename_i hpc
    cases h
    exact .accepts hpc
  · rename_i req hpc
    split at h
    · rename_i opened
      cases h
      exact .finds opened hpc
    · rename_i closed
      cases h
      exact .rejects (.missing (Bool.not_eq_true _ ▸ closed) hpc)
  · rename_i req hpc
    cases h
    exact serve_handled hpc
  · rename_i hpc
    split at h
    · cases h
      exact .wrote hpc
    · cases h
      exact .writeFailed hpc
  · rename_i n hpc
    cases h
    exact .grants hpc
  · rename_i n hpc
    split at h
    · rename_i full
      cases h
      exact .rejects (.overflow full hpc)
    · rename_i added
      cases h
      exact .restores added hpc
  · rename_i hpc
    cases h
    exact .signals hpc
  · rename_i after _ hpc
    split at h
    · rename_i opened
      cases h
      exact .shuts opened hpc
    · rename_i closed
      rw [Bool.not_eq_true] at closed
      split at h
      · cases h
        exact .reports closed hpc
      · rename_i quiet
        cases h
        exact .rejects (.shut closed quiet hpc)
  · rename_i after hpc
    cases h
    exact .marks hpc
  · rename_i after hpc
    cases h
    exact .ends hpc

theorem forwardStep_stepped (h : forwardStep s = some (s', out)) : Stepped s .forward s' out := by
  unfold forwardStep at h
  split at h
  · rename_i eof hpc
    split at h
    · dsimp only at h
      split at h
      · cases h
        exact .forwards rfl hpc (by rintro ⟨⟩) rfl rfl
      · rename_i taken
        cases h
        exact .stages hpc taken
    · cases h
      exact .forwards rfl hpc (by rintro ⟨⟩) rfl rfl
  · rename_i eof hpc
    cases h
    refine .writes hpc ?_
    split
    · split <;> rfl
    · rfl
  · cases h

theorem wakeStep_stepped {closed : Bool} (h : wakeStep s closed = some (s', out)) :
    Stepped s (.wake closed) s' out := by
  unfold wakeStep at h
  split at h
  · rename_i hpc
    split at h
    · split at h
      · cases h
        exact .forwards rfl hpc (by rintro ⟨⟩) rfl rfl
      · cases h
    · split at h
      · cases h
        exact .forwards rfl hpc (by rintro ⟨⟩) rfl rfl
      · cases h
  · cases h

theorem selectStep_stepped {cause : Cause} (h : selectStep s cause = some (s', out)) :
    Stepped s (.select cause) s' out := by
  unfold selectStep at h
  split at h
  · rename_i hpc
    split at h
    · split at h
      · cases h
        exact .waits rfl hpc (by rintro ⟨⟩) rfl
      · cases h
    · cases h
      exact .waits rfl hpc (by rintro ⟨⟩) rfl
    · split at h
      · cases h
        exact .waits rfl hpc (by rintro ⟨⟩) rfl
      · cases h
  · cases h

theorem waitStep_stepped (h : waitStep s = some (s', out)) : Stepped s .wait s' out := by
  unfold waitStep at h
  split at h
  · rename_i reason hpc
    split at h
    · rename_i opened
      cases h
      exact .shuts hpc opened
    · cases h
      exact .waits rfl hpc (by rintro ⟨⟩) rfl
  · rename_i reason hpc
    cases h
    exact .marks hpc
  · rename_i reason hpc
    cases h
    exact .ends hpc
  · cases h

theorem step_stepped {a : Act} (h : step s a = some (s', out)) : Stepped s a s' out := by
  cases a with
  | receive m =>
    simp only [step] at h
    split at h
    · rename_i idle
      split at h
      · cases h
      · cases h
        exact .receives idle
    · cases h
  | handle =>
    refine .handles ?_ (handleStep_handled h)
    cases hpc : s.handle with
    | returned => simp [step, handleStep, hpc] at h
    | _ => rfl
  | read =>
    simp only [step] at h
    split at h
    · rename_i hpc
      split at h
      · cases h
      cases h
      refine .forwards rfl hpc (by rintro ⟨⟩) rfl ?_
      split
      · split <;> rfl
      · rfl
    · cases h
  | forward => exact forwardStep_stepped h
  | wake => exact wakeStep_stepped h
  | exit =>
    simp only [step] at h
    split at h
    · rename_i hpc
      cases h
      exact .waits rfl hpc (by rintro ⟨⟩) rfl
    · cases h
  | select => exact selectStep_stepped h
  | wait => exact waitStep_stepped h

theorem route_entry {m : Message} (idle : s.handle = .idle) :
    Entry s [m] [] { s with handle := route s m } := by
  have none : s.handle.place = .none := congrArg Handle.place idle
  have rejected : ∀ e, Entry s [m] [] { s with handle := .returned e } :=
    fun e => .drop rfl rfl (failed_not_alive rfl)
  have plain : ∀ pc : Handle, pc.place = .none → m.load = 0 → m.credit = 0 →
      Entry s [m] [] { s with handle := pc } := by
    intro pc hplace hload hcredit
    refine .quiet ?_ ⟨by simp [hload], by simp [hcredit]⟩ carries_nothing
    rw [ledger_handle, hplace, ledger_same none]
  unfold route
  split
  · split
    · exact plain _ rfl rfl rfl
    · exact rejected _
  · split
    · split
      · split
        · rename_i valid
          exact .takeData _ (of_decide_eq_true valid) none rfl ⟨rfl, rfl⟩ rfl
        · exact rejected _
      · split
        · rename_i valid
          exact .takeUpdate _ (of_decide_eq_true valid).1 none rfl ⟨rfl, rfl⟩ rfl
        · exact rejected _
      · split
        · exact plain _ rfl rfl rfl
        · exact rejected _
      · split
        · exact plain _ rfl rfl rfl
        · exact rejected _
      · split
        · exact plain _ rfl rfl rfl
        · exact rejected _
      · exact rejected _
    · exact rejected _

theorem Handled.entry (h : Handled s s' out) : Entry s [] out s' := by
  cases h with
  | rejects => exact .drop rfl rfl (failed_not_alive rfl)
  | starts at_ | refuses _ _ at_ | accepts at_ => exact .exempt (congrArg Handle.opens at_)
  | @finds req _ at_ =>
    refine .quiet ?_ carries_nothing carries_nothing
    cases req <;> simp only [Server.ledger, at_, Handle.place]
  | @consumes payload c taken at_ =>
    obtain ⟨pos, taken⟩ := Credit.consume_eq_some.mp taken
    have left : c.remaining = s.child.recvCredit.remaining - payload.length := by omega
    refine .consume payload.length pos ?_ (congrArg Handle.place at_) ?_ rfl rfl
    · simp only [Server.ledger]
      omega
    · simp [Server.ledger, Handle.place, left]
  | refunds added at_ =>
    obtain ⟨pos, added⟩ := Credit.add_eq_some.mp added
    refine .refund _ (congrArg Handle.place at_) ?_ rfl rfl
    simp [Server.ledger, Handle.place, added]
  | grants at_ => exact .grant _ (congrArg Handle.place at_) rfl rfl ⟨rfl, rfl⟩
  | restores added at_ =>
    obtain ⟨pos, added⟩ := Credit.add_eq_some.mp added
    refine .restore _ (congrArg Handle.place at_) ?_ rfl rfl
    simp [Server.ledger, Handle.place, added]
  | shuts => exact .drop rfl rfl (closed_not_alive (by simp [Server.isOpen]))
  | reports closed => exact .drop rfl rfl (closed_not_alive closed)
  | @ends after at_ =>
    refine .quiet (ledger_same (congrArg Handle.place at_)) carries_nothing ?_
    cases after <;> exact ⟨rfl, rfl⟩
  | _ =>
    rename_i at_
    exact .quiet (ledger_same (congrArg Handle.place at_)) carries_nothing carries_nothing

theorem chunkSize_le (data : Bytes) (available : Nat) :
    chunkSize data available ≤ available ∧ chunkSize data available ≤ data.length :=
  ⟨Nat.min_le_right _ _, Nat.le_trans (Nat.min_le_left _ _) (Nat.min_le_left _ _)⟩

theorem staged_of_idle {pc : Forward} (idle : pc.writing = false) : pc.staged = 0 := by
  cases pc with
  | write => cases idle
  | _ => rfl

/-- Every step of the server moves its bytes in one of the ways of `Entry`. -/
theorem step_entry {a : Act} (h : step s a = some (s', out)) : Entry s a.input.toList out s' := by
  cases step_stepped h with
  | receives idle => exact route_entry idle
  | handles _ handled => exact handled.entry
  | forwards input at_ _ staged idle =>
    rw [input]
    refine .quiet ?_ carries_nothing carries_nothing
    simp [Server.ledger, at_, staged, staged_of_idle idle]
  | @stages data _ c at_ taken =>
    obtain ⟨-, taken⟩ := Credit.consume_eq_some.mp taken
    have fits := chunkSize_le data s.child.sendCredit.remaining
    have left : c.remaining =
        s.child.sendCredit.remaining - chunkSize data s.child.sendCredit.remaining := by
      omega
    refine .stage _ fits.1 (congrArg Forward.staged at_) ?_ rfl rfl
    simp [Server.ledger, Forward.staged, left, Nat.min_eq_left fits.2]
  | writes at_ idle =>
    refine .send _ (congrArg Forward.staged at_) ?_ rfl ⟨rfl, rfl⟩
    simp [Server.ledger, staged_of_idle idle]
  | waits input =>
    rw [input]
    exact .quiet rfl carries_nothing carries_nothing
  | ends => exact .quiet rfl carries_nothing ⟨rfl, rfl⟩
  | _ => exact .quiet rfl carries_nothing carries_nothing

/-- The open of the stream is over, whatever came of it. -/
def Server.begun (s : Server) : Prop := s.record ≠ none ∧ s.handle.opens = false

/-- The stream does not open again, and an error of `Handle` is final. -/
structure Later (s s' : Server) : Prop where
  begun : s'.begun
  alive : s'.alive = true → s.alive = true

section Later

variable {s s' : Server} {out : List Message}

theorem later_closed (record : s'.record = some .closed) (opens : s'.handle.opens = false) :
    Later s s' := by
  refine ⟨⟨?_, opens⟩, ?_⟩
  · rw [record]
    rintro ⟨⟩
  · simp [Server.alive, Server.isOpen, record]

variable (begun : s.begun)

include begun

theorem later_handle (record : s'.record = s.record) (live : s'.live = s.live)
    (opens : s'.handle.opens = false) (running : s.handle.failed = false) : Later s s' := by
  refine ⟨⟨?_, opens⟩, ?_⟩
  · rw [record]
    exact begun.1
  · simp only [Server.alive, Server.isOpen, record, live, running, Bool.and_eq_true]
    intro h
    exact ⟨h.1, rfl⟩

theorem later_same (record : s'.record = s.record) (live : s'.live = s.live)
    (handle : s'.handle = s.handle) : Later s s' := by
  refine ⟨?_, ?_⟩
  · unfold Server.begun
    rw [record, handle]
    exact begun
  · simp only [Server.alive, Server.isOpen, record, live, handle]
    exact id

theorem later_route (idle : s.handle = .idle) (m : Message) :
    Later s { s with handle := route s m } := by
  refine later_handle begun rfl rfl ?_ (congrArg Handle.failed idle)
  unfold route
  repeat' split
  all_goals rfl

theorem later_handled (running : s.handle.failed = false) (h : Handled s s' out) : Later s s' := by
  cases h with
  | reserves fresh => exact absurd fresh begun.1
  | shuts => exact later_closed rfl rfl
  | starts at_ | refuses _ _ at_ | accepts at_ =>
    have opens := begun.2
    rw [at_] at opens
    cases opens
  | _ => exact later_handle begun rfl rfl rfl running

/-- No step opens a stream again that was opened or refused. -/
theorem step_later {a : Act} (h : step s a = some (s', out)) : Later s s' := by
  cases step_stepped h with
  | @receives m idle => exact later_route begun idle m
  | handles running handled => exact later_handled begun running handled
  | shuts => exact later_closed rfl begun.2
  | _ => exact later_same begun rfl rfl rfl

end Later

/-- The server with the frames it has written. -/
structure Logged where
  server : Server
  sent : List Message

def Logged.step (l : Logged) (a : Act) : Option Logged :=
  (TerminalServer.step l.server a).map fun (s', out) => ⟨s', l.sent ++ out⟩

def Logged.new : Logged := ⟨Server.new, []⟩

/-- The frame that ends the stream is written while no other goroutine is about
to write, `sendData` takes no credit after it, and a failed PTY operation finds
the stream still open. -/
def calm (l : Logged) : Act → Bool
  | .forward =>
    match l.server.forward with
    | .send _ _ => !ended l.sent || decide (l.server.child.sendCredit.remaining = 0)
    | _ => true
  | .wait =>
    match l.server.wait with
    | .endWrite _ => !l.server.forward.writing && !l.server.handle.granting
    | _ => true
  | .handle _ =>
    match l.server.handle with
    | .closeStream (.report _) _ => l.server.isOpen
    | .endWrite after => !after.ends || !l.server.forward.writing
    | _ => true
  | _ => true

/-- At most one frame that ends the stream is due or written, only after the
registry's record is closed, and once it is written nobody is about to write. -/
structure Tidy (s : Server) (sent : List Message) : Prop where
  unstarted : s.record = none ∨ s.handle.opens = true → s.forward = .unstarted ∧ s.wait = .unstarted
  opening : s.handle.opens = true → s.record ≠ none ∧ s.record ≠ some .closed
  before : s.record ≠ some .closed →
    ended sent = false ∧ s.handle.endDue = false ∧ s.wait.endDue = false
  handle_due : s.handle.endDue = true → ended sent = false ∧ s.wait.endDue = false
  wait_due : s.wait.endDue = true → ended sent = false
  after : ended sent = true → s.forward.writing = false ∧ s.handle.granting = false
  quiet : EndsLast sent

theorem tidy_new : Tidy Server.new [] := by
  refine ⟨fun _ => ⟨rfl, rfl⟩, ?_, fun _ => ⟨rfl, rfl, rfl⟩, ?_, ?_, ?_, trivial⟩
  all_goals
    intro h
    cases h

theorem opened_of_isOpen (h : s.isOpen = true) : s.record = some .opened := by
  simp only [Server.isOpen, Bool.and_eq_true, decide_eq_true_eq] at h
  exact h.2

section Tidy

variable {s s' : Server} {sent : List Message} (tidy : Tidy s sent)

include tidy

/-- Before the end, nothing has been written and nothing is due. -/
theorem Tidy.open_before (opened : s.isOpen = true) :
    ended sent = false ∧ s.handle.endDue = false ∧ s.wait.endDue = false := by
  apply tidy.before
  rw [opened_of_isOpen opened]
  decide

/-- `Handle` moves on without touching the record or the other goroutines. -/
theorem Tidy.handle_step (record : s'.record = s.record) (forward : s'.forward = s.forward)
    (wait : s'.wait = s.wait) (opens : s'.handle.opens = false)
    (due : s'.handle.endDue = true → s.handle.endDue = true)
    (grants : s'.handle.granting = true → s.handle.granting = true ∨ ended sent = false) :
    Tidy s' sent := by
  refine ⟨?_, ?_, ?_, ?_, ?_, ?_, tidy.quiet⟩
  · rw [record, opens, forward, wait]
    intro h
    exact tidy.unstarted (.inl (h.resolve_right (by decide)))
  · rw [opens]
    intro h
    cases h
  · rw [record, wait]
    intro h
    obtain ⟨hsent, hhandle, hwait⟩ := tidy.before h
    refine ⟨hsent, ?_, hwait⟩
    rw [← Bool.not_eq_true]
    intro hdue
    rw [due hdue] at hhandle
    cases hhandle
  · rw [wait]
    intro h
    exact tidy.handle_due (due h)
  · rw [wait]
    exact tidy.wait_due
  rw [forward]
  intro h
  obtain ⟨hwrite, hgrant⟩ := tidy.after h
  refine ⟨hwrite, ?_⟩
  rw [← Bool.not_eq_true]
  intro hgranting
  rcases grants hgranting with hold | hopen
  · rw [hold] at hgrant
    cases hgrant
  · rw [hopen] at h
    cases h

/-- A frame written while the stream has no end on the wire, by a step that
leaves the goroutines as `handle_step` and its likes describe. -/
theorem Tidy.write_plain {m : Message} (plain : m.ends = false) (open_ : ended sent = false) :
    Tidy s (sent ++ [m]) := by
  have same : ended (sent ++ [m]) = ended sent := by simp [plain]
  refine ⟨tidy.unstarted, tidy.opening, ?_, ?_, ?_, ?_, endsLast_append_one m open_⟩
  · rw [same]
    exact tidy.before
  · rw [same]
    exact tidy.handle_due
  · rw [same]
    exact tidy.wait_due
  · rw [same]
    exact tidy.after

omit tidy in
/-- The record of the stream is closed: what is left to check is who still writes. -/
theorem tidy_closed (record : s.record = some .closed) (opens : s.handle.opens = false)
    (handle_due : s.handle.endDue = true → ended sent = false ∧ s.wait.endDue = false)
    (wait_due : s.wait.endDue = true → ended sent = false)
    (after : ended sent = true → s.forward.writing = false ∧ s.handle.granting = false)
    (quiet : EndsLast sent) : Tidy s sent := by
  refine ⟨?_, ?_, ?_, handle_due, wait_due, after, quiet⟩
  · rw [record, opens]
    rintro (h | h) <;> cases h
  · rw [opens]
    intro h
    cases h
  · intro h
    exact absurd record h

theorem Tidy.handle_close (opened : s.isOpen = true) (after : After) :
    Tidy { s with record := some .closed, live := false, handle := .closeDone after } sent := by
  obtain ⟨hsent, -, hwait⟩ := tidy.open_before opened
  refine tidy_closed rfl rfl (fun _ => ⟨hsent, hwait⟩) tidy.wait_due ?_ tidy.quiet
  intro h
  rw [hsent] at h
  cases h

/-- A goroutine that runs was started by an open that is over. -/
theorem Tidy.not_opening (running : s.wait ≠ .unstarted ∨ s.forward ≠ .unstarted) :
    s.record ≠ none ∧ s.handle.opens = false := by
  have started : ¬ (s.record = none ∨ s.handle.opens = true) := by
    intro h
    obtain ⟨hforward, hwait⟩ := tidy.unstarted h
    rcases running with hw | hf
    · exact hw hwait
    · exact hf hforward
  rw [not_or, Bool.not_eq_true] at started
  exact started

theorem Tidy.wait_close (running : s.wait ≠ .unstarted) (opened : s.isOpen = true)
    (reason : CloseReason) :
    Tidy { s with record := some .closed, live := false, wait := .closeDone reason } sent := by
  obtain ⟨hsent, hhandle, -⟩ := tidy.open_before opened
  refine tidy_closed rfl (tidy.not_opening (.inl running)).2 ?_ (fun _ => hsent) ?_ tidy.quiet
  · rw [hhandle]
    intro h
    cases h
  · rw [hsent]
    intro h
    cases h

theorem Tidy.wait_step (record : s'.record = s.record) (handle : s'.handle = s.handle)
    (forward : s'.forward = s.forward) (running : s.wait ≠ .unstarted)
    (due : s'.wait.endDue = true → s.wait.endDue = true) : Tidy s' sent := by
  obtain ⟨hrecord, hopens⟩ := tidy.not_opening (.inl running)
  have quiet_wait : s.wait.endDue = false → s'.wait.endDue = false := by
    intro h
    rw [← Bool.not_eq_true]
    intro hdue
    rw [due hdue] at h
    cases h
  refine ⟨?_, ?_, ?_, ?_, ?_, ?_, tidy.quiet⟩
  · rw [record, handle, hopens]
    rintro (h | h)
    · exact absurd h hrecord
    · cases h
  · rw [record, handle]
    exact tidy.opening
  · rw [record, handle]
    intro h
    obtain ⟨hsent, hhandle, hwait⟩ := tidy.before h
    exact ⟨hsent, hhandle, quiet_wait hwait⟩
  · rw [handle]
    intro h
    exact ⟨(tidy.handle_due h).1, quiet_wait (tidy.handle_due h).2⟩
  · intro h
    exact tidy.wait_due (due h)
  · rw [forward, handle]
    exact tidy.after

theorem Tidy.forward_step (record : s'.record = s.record) (handle : s'.handle = s.handle)
    (wait : s'.wait = s.wait) (running : s.forward ≠ .unstarted)
    (writes : s'.forward.writing = true → ended sent = false) : Tidy s' sent := by
  obtain ⟨hrecord, hopens⟩ := tidy.not_opening (.inr running)
  refine ⟨?_, ?_, ?_, ?_, ?_, ?_, tidy.quiet⟩
  · rw [record, handle, hopens]
    rintro (h | h)
    · exact absurd h hrecord
    · cases h
  · rw [record, handle]
    exact tidy.opening
  · rw [record, handle, wait]
    exact tidy.before
  · rw [handle, wait]
    exact tidy.handle_due
  · rw [wait]
    exact tidy.wait_due
  rw [handle]
  intro h
  refine ⟨?_, (tidy.after h).2⟩
  rw [← Bool.not_eq_true]
  intro hwriting
  rw [writes hwriting] at h
  cases h

/-- A frame that ends the stream is due only for a stream the registry has closed. -/
theorem Tidy.due_closed (due : s.handle.endDue = true ∨ s.wait.endDue = true) :
    s.record = some .closed := by
  by_contra hrecord
  obtain ⟨-, hhandle, hwait⟩ := tidy.before hrecord
  rcases due with h | h
  · rw [hhandle] at h
    cases h
  · rw [hwait] at h
    cases h

theorem Tidy.handle_end {m : Message} (due : s.handle.endDue = true)
    (still : s.forward.writing = false) : Tidy { s with handle := .idle } (sent ++ [m]) := by
  obtain ⟨hsent, hwait⟩ := tidy.handle_due due
  refine tidy_closed (tidy.due_closed (.inl due)) rfl ?_ ?_ (fun _ => ⟨still, rfl⟩)
    (endsLast_append_one m hsent)
  · intro h
    cases h
  · intro h
    rw [hwait] at h
    cases h

theorem Tidy.wait_end {m : Message} (due : s.wait.endDue = true)
    (still : s.forward.writing = false ∧ s.handle.granting = false) :
    Tidy { s with wait := .returned } (sent ++ [m]) := by
  have running : s.wait ≠ .unstarted := by
    intro h
    rw [h] at due
    cases due
  refine tidy_closed (tidy.due_closed (.inr due)) (tidy.not_opening (.inl running)).2 ?_ ?_
    (fun _ => still) (endsLast_append_one m (tidy.wait_due due))
  · intro h
    rw [(tidy.handle_due h).2] at due
    cases due
  · intro h
    cases h

/-- The open goes on: the record moves before any goroutine runs. -/
theorem Tidy.opens_on (open_ : s.record ≠ some .closed)
    (idle : s.forward = .unstarted ∧ s.wait = .unstarted) {record : StreamState}
    (shown : record ≠ .closed) {live : Bool} {child : Child} {pc : Handle}
    (due : pc.endDue = false) :
    Tidy { s with record := some record, live := live, child := child, handle := pc } sent := by
  obtain ⟨hsent, -, hwait⟩ := tidy.before open_
  refine ⟨fun _ => idle, fun _ => ⟨by rintro ⟨⟩, fun h => shown (Option.some.inj h)⟩,
    fun _ => ⟨hsent, due, hwait⟩, fun _ => ⟨hsent, hwait⟩, tidy.wait_due, ?_, tidy.quiet⟩
  rw [hsent]
  intro h
  cases h

theorem Tidy.refuse (opens : s.handle.opens = true) {pc : Handle} (shut : pc.opens = false)
    (grants : pc.granting = false) :
    Tidy { s with record := some .closed, handle := pc } sent := by
  obtain ⟨hsent, -, hwait⟩ := tidy.before (tidy.opening opens).2
  exact tidy_closed rfl shut (fun _ => ⟨hsent, hwait⟩) tidy.wait_due
    (fun h => ⟨(tidy.after h).1, grants⟩) tidy.quiet

theorem Tidy.accept (opens : s.handle.opens = true) (n : Nat) :
    Tidy { s with handle := .idle, forward := .read, wait := .wait }
      (sent ++ [.streamAccepted (some n)]) := by
  obtain ⟨hrecord, hclosed⟩ := tidy.opening opens
  obtain ⟨hsent, -, -⟩ := tidy.before hclosed
  have same : ended (sent ++ [.streamAccepted (some n)]) = false := by simp [hsent, Message.ends]
  refine ⟨?_, ?_, fun _ => ⟨same, rfl, rfl⟩, ?_, ?_, ?_, endsLast_append_one _ hsent⟩
  · rintro (h | h)
    · exact absurd h hrecord
    · cases h
  · intro h
    cases h
  · intro h
    cases h
  · intro h
    cases h
  · intro h
    exact ⟨rfl, rfl⟩

end Tidy

section Steps

variable {s s' : Server} {sent out : List Message} (tidy : Tidy s sent)

include tidy

theorem Tidy.reject (e : HandleError) : Tidy { s with handle := .returned e } sent :=
  tidy.handle_step rfl rfl rfl rfl (by rintro ⟨⟩) (by rintro ⟨⟩)

theorem Tidy.route (m : Message) : Tidy { s with handle := route s m } sent := by
  have opened : ∀ pc : Handle, pc.opens = false → pc.endDue = false → pc.granting = false →
      Tidy { s with handle := pc } sent := by
    intro pc hopens hdue hgrant
    refine tidy.handle_step rfl rfl rfl hopens ?_ ?_
    · intro h
      rw [hdue] at h
      cases h
    · intro h
      rw [hgrant] at h
      cases h
  unfold TerminalServer.route
  repeat' split
  all_goals exact opened _ rfl rfl rfl

theorem Tidy.handled {ok : Bool} (hcalm : calm ⟨s, sent⟩ (.handle ok) = true)
    (h : Handled s s' out) : Tidy s' (sent ++ out) := by
  have moved : ∀ {t : Server}, Tidy t sent → Tidy t (sent ++ []) := by
    intro t ht
    rw [append_nil]
    exact ht
  cases h with
  | rejects => exact moved (tidy.reject _)
  | reserves fresh =>
    refine moved (tidy.opens_on ?_ (tidy.unstarted (.inl fresh)) (by decide) rfl)
    rw [fresh]
    rintro ⟨⟩
  | starts at_ =>
    have opens : s.handle.opens = true := congrArg Handle.opens at_
    exact moved (tidy.opens_on (tidy.opening opens).2 (tidy.unstarted (.inr opens))
      (by decide) rfl)
  | refuses opens grants at_ => exact moved (tidy.refuse (congrArg Handle.opens at_) opens grants)
  | accepts at_ => exact tidy.accept (congrArg Handle.opens at_) _
  | finds opened =>
    -- a grant starts only while `openChild` still finds the stream
    exact moved (tidy.handle_step rfl rfl rfl rfl (by rintro ⟨⟩)
      fun _ => .inr (tidy.open_before opened).1)
  | consumes _ at_ | wrote at_ =>
    refine moved (tidy.handle_step rfl rfl rfl rfl (by rintro ⟨⟩) ?_)
    rw [at_]
    exact .inl
  | @grants n at_ =>
    have open_ : ended sent = false := by
      rw [← Bool.not_eq_true]
      intro hended
      have := (tidy.after hended).2
      rw [at_] at this
      cases this
    have granted : Tidy { s with handle := .dataRestore n } sent :=
      tidy.handle_step rfl rfl rfl rfl (by rintro ⟨⟩) (by rintro ⟨⟩)
    exact granted.write_plain rfl open_
  | shuts opened => exact moved (tidy.handle_close opened _)
  | reports closed at_ =>
    -- the report that would follow another end is what `calm` excludes
    simp only [calm, at_, closed] at hcalm
    cases hcalm
  | marks at_ =>
    refine moved (tidy.handle_step rfl rfl rfl rfl ?_ (by rintro ⟨⟩))
    rw [at_]
    exact id
  | @ends after at_ =>
    simp only [calm, at_] at hcalm
    cases after with
    | silent => exact moved (tidy.handle_step rfl rfl rfl rfl (by rintro ⟨⟩) (by rintro ⟨⟩))
    | _ => exact tidy.handle_end (by rw [at_]; rfl) (by simpa [After.ends] using hcalm)
  | _ => exact moved (tidy.handle_step rfl rfl rfl rfl (by rintro ⟨⟩) (by rintro ⟨⟩))

theorem Tidy.step {a : Act} (hcalm : calm ⟨s, sent⟩ a = true)
    (h : TerminalServer.step s a = some (s', out)) : Tidy s' (sent ++ out) := by
  cases step_stepped h with
  | @receives m _ =>
    rw [append_nil]
    exact tidy.route m
  | handles _ handled => exact tidy.handled hcalm handled
  | forwards _ at_ started _ idle =>
    rw [append_nil]
    refine tidy.forward_step rfl rfl rfl (at_ ▸ started) ?_
    rw [idle]
    rintro ⟨⟩
  | stages at_ taken =>
    rw [append_nil]
    refine tidy.forward_step rfl rfl rfl (at_ ▸ by rintro ⟨⟩) fun _ => ?_
    have pos := (Credit.consume_eq_some.mp taken).1
    have left : s.child.sendCredit.remaining ≠ 0 := by
      unfold chunkSize at pos
      omega
    simpa [calm, at_, left] using hcalm
  | @writes chunk _ _ _ at_ _ =>
    have open_ : ended sent = false := by
      rw [← Bool.not_eq_true]
      intro hended
      have := (tidy.after hended).1
      rw [at_] at this
      cases this
    refine Tidy.write_plain (m := .streamData chunk) ?_ rfl open_
    exact tidy.forward_step rfl rfl rfl (at_ ▸ by rintro ⟨⟩) fun _ => open_
  | waits _ at_ started due =>
    rw [append_nil]
    refine tidy.wait_step rfl rfl rfl (at_ ▸ started) ?_
    rw [due]
    rintro ⟨⟩
  | shuts at_ opened =>
    rw [append_nil]
    exact tidy.wait_close (at_ ▸ by rintro ⟨⟩) opened _
  | marks at_ =>
    rw [append_nil]
    refine tidy.wait_step rfl rfl rfl (at_ ▸ by rintro ⟨⟩) ?_
    rw [at_]
    exact id
  | ends at_ =>
    simp only [calm, at_, Bool.and_eq_true, Bool.not_eq_true'] at hcalm
    exact tidy.wait_end (by rw [at_]; rfl) hcalm

end Steps

/-- In every run whose steps are calm, the server writes nothing for the stream
after the StreamClose or StreamError that ends it. -/
theorem nothing_written_after_end (acts : List Act) {l : Logged}
    (meets : Runs.Meets Logged.step (fun l a => calm l a = true) Logged.new acts)
    (run : Runs.exec Logged.step Logged.new acts = some l) : EndsLast l.sent := by
  have tidy : Tidy l.server l.sent := by
    refine Runs.exec_invariant (fun l => Tidy l.server l.sent) ?_ tidy_new meets run
    intro l a l' tidy hcalm hs
    obtain ⟨⟨s', out⟩, hstep, rfl⟩ := map_eq_some_iff.mp hs
    exact tidy.step hcalm hstep
  exact tidy.quiet

def openFrame : Message := .streamOpen (some ⟨.terminal, 80, 24, "xterm", [], 262144⟩)

/-- The peer's StreamOpen, answered. -/
def opening : List Act := [.receive openFrame, .handle true, .handle true, .handle true]

/-- The process writes one byte and exits, and its output is drained first. -/
def drained : List Act :=
  opening ++ ([.read [1] true, .forward, .forward, .exit, .select .readDone, .wait, .wait, .wait] :
    List Act)

theorem nothing_written_after_end_drained :
    ∃ l, Runs.exec Logged.step Logged.new drained = some l ∧ l.sent.length = 3 ∧
      EndsLast l.sent := by
  refine ⟨_, rfl, rfl, ?_⟩
  exact nothing_written_after_end drained (by decide) rfl

/-- The drain timeout passes while `forwardOutput` holds a chunk it has taken credit for. -/
def timedOut : List Act :=
  opening ++ ([.read [1] false, .forward, .exit, .select .timer, .wait, .wait, .wait, .forward] :
    List Act)

theorem data_written_after_close : ∃ l, Runs.exec Logged.step Logged.new timedOut = some l ∧
      l.sent = [.streamAccepted (some 262144), .streamClose (some .ptyDrainTimeout),
        .streamData [1]] ∧ ¬ EndsLast l.sent := by
  refine ⟨_, rfl, rfl, ?_⟩
  rintro ⟨-, last, -⟩
  cases last rfl

end TerminalServer
