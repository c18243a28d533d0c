import WeDecent.MuxChild

/-!
# The client side of one typed terminal stream

`ManagedMultiplexTerminal` (`session/managed_multiplex.go`) for one StreamID
that `OpenTerminalStream` has put into the table. The monitor goroutine handles
the peer's frames; any number of callers may be inside `ReadTerminalStream`,
`WriteTerminalStream`, `ResizeTerminalStream` and `CloseTerminalStream`. What a
caller does under `child.mu` is one step, and so is each frame it writes. A
handler of the monitor is one step: it takes `child.mu` once, and only the
monitor delivers frames.
-/

namespace TerminalClient

open Bool List Option MuxChild StreamProtocol Weights

inductive ReadError where
  | closedPipe
  | unavailable
  | sizeRange
  | context
  | write

/-- The three results of `ReadTerminalStream`. -/
structure ReadResult where
  out : Bytes
  closed : Bool
  err : Option ReadError

/-- The `ReadTerminalStream` call that holds `readMu`. -/
inductive Reader where
  | free
  | take (maxBytes : Nat)
  | park (maxBytes : Nat)
  | update (out : Bytes) (closed : Bool)
  | restore (out : Bytes) (closed : Bool)

/-- A call that writes. `writeAborted chunk` has returned the error of
`writeFrameContext` for a chunk it had taken credit for. -/
inductive Call where
  | write (remaining : Bytes)
  | writePark (remaining : Bytes)
  | writeFrame (chunk rest : Bytes)
  | writeAborted (chunk : Bytes)
  | resizeFrame (size : Resize)
  | close
  | closeFrame
  | closeWait
  | returned

/-- `done`, `closed`: `finish` has begun, has ended. `live`: the table has the child. -/
structure Client where
  done : Bool
  closed : Bool
  monitorEnded : Bool
  live : Bool
  child : Child
  reader : Reader
  queued : List Nat
  calls : List Call

/-- The client once `OpenTerminalStream` has sent its StreamOpen. -/
def Client.new : Client where
  done := false
  closed := false
  monitorEnded := false
  live := true
  child := Child.new
  reader := .free
  queued := []
  calls := []

inductive Act where
  | beginRead (maxBytes : Nat)
  | lockRead (i : Nat)
  | read (e : Event)
  | beginWrite (data : Bytes)
  | beginResize (size : Resize)
  | beginClose
  | call (i : Nat) (e : Event)
  | deliver (m : Message)
  | readFailed
  | finishChildren

/-- What a step puts on the wire or hands to the caller of `ReadTerminalStream`. -/
inductive Output where
  | nothing
  | frame (m : Message)
  | result (r : ReadResult)

def Output.frames : Output → List Message
  | .frame m => [m]
  | _ => []

/-- `finish` up to the closing of `done`; the rest is `finishChildren`. -/
def Client.finish (c : Client) : Client := { c with done := true }

/-- `s.child(id)` finds the stream. -/
def Client.available (c : Client) : Bool := !c.done && c.live

def beginRead (c : Client) (maxBytes : Nat) : Client × Output :=
  if c.done then (c, .result ⟨[], true, some .closedPipe⟩)
  else if !c.live then (c, .result ⟨[], true, some .unavailable⟩)
  else
    let size := if maxBytes = 0 then managedTerminalChunkLimit else maxBytes
    if managedTerminalChunkLimit < size then (c, .result ⟨[], false, some .sizeRange⟩)
    else ({ c with queued := c.queued ++ [size] }, .nothing)

/-- One of the waiting calls gets `readMu`. -/
def lockRead (c : Client) (i : Nat) : Option (Client × Output) :=
  match c.reader, c.queued[i]? with
  | .free, some maxBytes =>
    some ({ c with reader := .take maxBytes, queued := c.queued.eraseIdx i }, .nothing)
  | _, _ => none

def readStep (c : Client) (e : Event) : Option (Client × Output) :=
  match c.reader, e with
  | .take maxBytes, .run =>
    match c.child.takeOutput maxBytes with
    | some (out, closed, child) =>
      if out = [] then
        some ({ c with child := child, reader := .free }, .result ⟨out, closed, none⟩)
      else some ({ c with child := child, reader := .update out closed }, .nothing)
    | none =>
      if c.child.done then some ({ c with reader := .free }, .result ⟨[], true, none⟩)
      else some ({ c with reader := .park maxBytes }, .nothing)
  | .park _, .ctxDone =>
    some ({ c with reader := .free }, .result ⟨[], false, some .context⟩)
  | .park _, .sessionDone =>
    if c.done then
      some ({ c with reader := .free }, .result ⟨[], true, some .closedPipe⟩)
    else none
  | .park maxBytes, .childDone =>
    if c.child.done then some ({ c with reader := .take maxBytes }, .nothing) else none
  | .park maxBytes, .notified =>
    if c.child.outputNotify then
      some ({ c with child.outputNotify := false, reader := .take maxBytes }, .nothing)
    else none
  | .update out closed, .wrote =>
    if c.closed then none
    else some ({ c with reader := .restore out closed },
      .frame (.streamWindowUpdate (some out.length)))
  | .update out _, .writeFailed =>
    some ({ c.finish with reader := .free }, .result ⟨out, true, some .write⟩)
  | .restore out closed, .run =>
    some ({ c with
      child.recvCredit := c.child.recvCredit + out.length
      reader := .free }, .result ⟨out, closed, none⟩)
  | _, _ => none

def Client.setCall (c : Client) (i : Nat) (call : Call) : Client :=
  { c with calls := c.calls.set i call }

/-- The rest of `WriteTerminalStream` once a chunk is on the wire. -/
def afterWrite (rest : Bytes) : Call := if rest = [] then .returned else .write rest

def callStep (c : Client) (i : Nat) (call : Call) (e : Event) : Option (Client × Output) :=
  match call, e with
  | .write remaining, .run =>
    if c.child.done then some (c.setCall i .returned, .nothing)
    else
      let (n, child) := c.child.takeCredit remaining.length
      if n = 0 then some (c.setCall i (.writePark remaining), .nothing)
      else some ({ c with child := child }.setCall i
        (.writeFrame (remaining.take n) (remaining.drop n)), .nothing)
  | .writePark _, .ctxDone => some (c.setCall i .returned, .nothing)
  | .writePark _, .sessionDone =>
    if c.done then some (c.setCall i .returned, .nothing) else none
  | .writePark _, .childDone =>
    if c.child.done then some (c.setCall i .returned, .nothing) else none
  | .writePark remaining, .notified =>
    if c.child.creditNotify then
      some ({ c with child.creditNotify := false }.setCall i (.write remaining), .nothing)
    else none
  | .writeFrame chunk rest, .wrote =>
    if c.closed then none
    else some (c.setCall i (afterWrite rest), .frame (.streamData chunk))
  -- the error is returned as it is: no refund and no `finish`
  | .writeFrame chunk _, .writeFailed => some (c.setCall i (.writeAborted chunk), .nothing)
  | .resizeFrame size, .wrote =>
    if c.closed then none
    else some (c.setCall i .returned, .frame (.streamResize (some size)))
  | .resizeFrame _, .writeFailed => some (c.setCall i .returned, .nothing)
  | .close, .run =>
    if !c.child.acceptedOK then some (c.setCall i .returned, .nothing)
    else
      let next : Call := if c.child.closing then .closeWait else .closeFrame
      some ({ c with child.closing := true }.setCall i next, .nothing)
  | .closeFrame, .wrote =>
    if c.closed then none
    else some (c.setCall i .closeWait, .frame (.streamClose (some .clientClose)))
  | .closeFrame, .writeFailed => some (c.finish.setCall i .returned, .nothing)
  | .closeWait, .ctxDone => some (c.setCall i .returned, .nothing)
  | .closeWait, .sessionDone =>
    if c.done then some (c.setCall i .returned, .nothing) else none
  | .closeWait, .childDone =>
    if c.child.done then some (c.setCall i .returned, .nothing) else none
  | _, _ => none

/-- The monitor's handlers; `none` is the `false` on which it calls `finish`. -/
def handleFrame (c : Client) (m : Message) : Option Client :=
  match m with
  | .streamAccepted (some window) =>
    if validateStreamAccepted window && c.live then
      (c.child.accept window).map fun child => { c with child := child }
    else none
  | .streamData payload =>
    if validateStreamData payload && c.live then
      (c.child.receiveData payload).map fun child => { c with child := child }
    else none
  | .streamWindowUpdate (some bytes) =>
    if validateStreamWindowUpdate bytes && c.live then
      (c.child.receiveUpdate bytes).map fun child => { c with child := child }
    else none
  | .streamClose (some reason) =>
    if validateStreamClose reason && c.live && c.child.acceptedOK then
      some { c with live := false, child := c.child.close }
    else none
  | .streamError (some code) =>
    if validateStreamError code && c.live then
      some { c with live := false, child := c.child.close }
    else none
  | _ => none

def deliver (c : Client) (m : Message) : Client :=
  match handleFrame c m with
  | some c' => c'
  | none => { c.finish with monitorEnded := true }

def step (c : Client) : Act → Option (Client × Output)
  | .beginRead maxBytes => some (beginRead c maxBytes)
  | .lockRead i => lockRead c i
  | .read e => readStep c e
  | .beginWrite data =>
    if c.available && decide (0 < data.length ∧ data.length ≤ managedTerminalChunkLimit) then
      some ({ c with calls := c.calls ++ [.write data] }, .nothing)
    else some (c, .nothing)
  | .beginResize size =>
    if c.available && decide (size.cols ≠ 0 ∧ size.rows ≠ 0) then
      some ({ c with calls := c.calls ++ [.resizeFrame size] }, .nothing)
    else some (c, .nothing)
  | .beginClose =>
    if c.available then some ({ c with calls := c.calls ++ [.close] }, .nothing)
    else some (c, .nothing)
  | .call i e =>
    match c.calls[i]? with
    | some call => callStep c i call e
    | none => none
  | .deliver m =>
    if c.monitorEnded || c.closed then none else some (deliver c m, .nothing)
  | .readFailed =>
    if c.monitorEnded then none
    else some ({ c.finish with monitorEnded := true }, .nothing)
  | .finishChildren =>
    if c.done && !c.closed then
      some ({ c with
        live := false
        child.done := c.child.done || c.live
        closed := true }, .nothing)
    else none

/-- The frame a step takes from the wire. -/
def Act.input : Act → Option Message
  | .deliver m => some m
  | _ => none

/-- Bytes read from the queue whose WindowUpdate is not written yet. -/
def Reader.updating : Reader → Nat
  | .update out _ => out.length
  | _ => 0

/-- Bytes whose WindowUpdate is written but which `recvCredit` still misses. -/
def Reader.restoring : Reader → Nat
  | .restore out _ => out.length
  | _ => 0

/-- Bytes debited from `sendCredit` for a frame about to be written. -/
def Call.staged : Call → Nat
  | .writeFrame chunk _ => chunk.length
  | _ => 0

/-- Bytes debited for a frame that was never written. -/
def Call.lost : Call → Nat
  | .writeAborted chunk => chunk.length
  | _ => 0

structure Ledger where
  sendCredit : Nat
  staged : Nat
  lost : Nat
  recvCredit : Nat
  output : Nat
  updating : Nat
  restoring : Nat

def Client.ledger (c : Client) : Ledger where
  sendCredit := c.child.sendCredit
  staged := weight Call.staged c.calls
  lost := weight Call.lost c.calls
  recvCredit := c.child.recvCredit
  output := c.child.outputBytes
  updating := c.reader.updating
  restoring := c.reader.restoring

/-- What a step that reads `input` and writes `output` may do to the bytes. -/
inductive Entry (c : Client) (input output : List Message) (c' : Client) : Prop
  | quiet (same : c'.ledger = c.ledger) (ins : load input = 0 ∧ credit input = 0)
      (outs : load output = 0 ∧ credit output = 0)
  | drop (lost : c'.ledger = c.ledger ∨ c'.ledger = { c.ledger with updating := 0 })
      (outs : output = []) (dead : c'.done = true)
  | accept (n : Nat) (fresh : c.ledger.sendCredit = 0)
      (moved : c'.ledger = { c.ledger with sendCredit := n })
      (ins : load input = 0 ∧ credit input = n) (outs : output = [])
  | refund (n : Nat) (moved : c'.ledger = { c.ledger with sendCredit := c.ledger.sendCredit + n })
      (ins : load input = 0 ∧ credit input = n) (outs : output = [])
  | arrive (n : Nat) (enough : n ≤ c.ledger.recvCredit) (moved : c'.ledger = { c.ledger with
        recvCredit := c.ledger.recvCredit - n, output := c.ledger.output + n })
      (ins : load input = n ∧ credit input = 0) (outs : output = [])
  | stage (n : Nat) (enough : n ≤ c.ledger.sendCredit) (moved : c'.ledger = { c.ledger with
        sendCredit := c.ledger.sendCredit - n, staged := c.ledger.staged + n })
      (ins : input = []) (outs : output = [])
  | send (n : Nat) (enough : n ≤ c.ledger.staged)
      (moved : c'.ledger = { c.ledger with staged := c.ledger.staged - n })
      (ins : input = []) (outs : load output = n ∧ credit output = 0)
  | abort (n : Nat) (enough : n ≤ c.ledger.staged) (moved : c'.ledger = { c.ledger with
        staged := c.ledger.staged - n, lost := c.ledger.lost + n })
      (ins : input = []) (outs : output = [])
  | take (n : Nat) (enough : n ≤ c.ledger.output)
      (before : c.ledger.updating = 0 ∧ c.ledger.restoring = 0)
      (moved : c'.ledger = { c.ledger with output := c.ledger.output - n, updating := n })
      (ins : input = []) (outs : output = [])
  | grant (n : Nat) (before : c.ledger.updating = n ∧ c.ledger.restoring = 0)
      (moved : c'.ledger = { c.ledger with updating := 0, restoring := n })
      (ins : input = []) (outs : load output = 0 ∧ credit output = n)
  | restore (n : Nat) (before : c.ledger.restoring = n) (moved : c'.ledger = { c.ledger with
        restoring := 0, recvCredit := c.ledger.recvCredit + n })
      (ins : input = []) (outs : output = [])

/-- A step moves bytes as `Entry` utters, and `finish` is never undone. -/
structure Moves (c : Client) (input output : List Message) (c' : Client) : Prop where
  entry : Entry c input output c'
  ends : c.done = true → c'.done = true

/-- The frames the exported operations put on the wire. -/
def utters : Message → Bool
  | .streamData payload => validateStreamData payload
  | .streamWindowUpdate (some bytes) => validateStreamWindowUpdate bytes
  | .streamResize (some size) => validateStreamResize size
  | .streamClose (some reason) => decide (reason = .clientClose)
  | _ => false

def Call.Sound : Call → Prop
  | .writeFrame chunk _ => validateStreamData chunk = true
  | .writeAborted chunk => 0 < chunk.length
  | .resizeFrame size => validateStreamResize size = true
  | _ => True

def Reader.Sound : Reader → Prop
  | .update out _ => validateStreamWindowUpdate out.length = true
  | _ => True

/-- Whatever a call is about to write passes the peer's validator. -/
structure Sound (c : Client) : Prop where
  calls : ∀ call ∈ c.calls, call.Sound
  reader : c.reader.Sound

def Call.closes : Call → Nat
  | .closeFrame => 1
  | _ => 0

/-- Calls that are about to write the StreamClose. -/
def Client.closers (c : Client) : Nat := weight Call.closes c.calls

/-- `closing` is set and no call has its StreamClose still to write. -/
def Client.spoken (c : Client) : Bool := c.child.closing && decide (c.closers = 0)

/-- What a step may do to `closing` and to the calls that write the StreamClose. -/
inductive Closes (c : Client) (frames : List Message) (c' : Client) : Prop
  | keep (closing : c'.child.closing = c.child.closing) (closers : c'.closers = c.closers)
      (plain : ended frames = false)
  | begin (fresh : c.child.closing = false) (closing : c'.child.closing = true)
      (closers : c'.closers = c.closers + 1) (silent : frames = [])
  | finish (closing : c'.child.closing = c.child.closing) (closers : c'.closers + 1 = c.closers)

/-- At most one call writes the StreamClose, and only after it has set `closing`. -/
structure Polite (c : Client) : Prop where
  one : c.closers ≤ 1
  none : c.child.closing = false → c.closers = 0

/-- The bytes, the calls and `closing` are as they were. -/
structure Alike (c d : Client) : Prop where
  calls : d.calls = c.calls
  reader : c.reader.Sound → d.reader.Sound
  ledger : d.ledger = c.ledger
  closing : d.child.closing = c.child.closing
  ends : c.done = true → d.done = true

theorem Alike.refl (c : Client) : Alike c c := ⟨rfl, id, rfl, rfl, id⟩

/-- A call that holds no bytes and is not about to write a frame -/
def Call.light : Call → Bool
  | .write _ | .writePark _ | .close | .closeWait | .returned => true
  | _ => false

theorem Call.light_spec {call : Call} (h : call.light = true) :
    (call.staged = 0 ∧ call.lost = 0) ∧ call.closes = 0 ∧ call.Sound := by
  cases call <;> first | exact ⟨⟨rfl, rfl⟩, rfl, trivial⟩ | cases h

theorem afterWrite_light (rest : Bytes) : (afterWrite rest).light = true := by
  unfold afterWrite
  split <;> rfl

inductive Called (c : Client) (i : Nat) : Call → Client → Output → Prop
  | rests {old new : Call} {d : Client} (alike : Alike c d) (light : old.light = true)
      (light' : new.light = true) : Called c i old (d.setCall i new) .nothing
  | stages (remaining : Bytes) (n : Nat) (child : Child)
      (taken : c.child.takeCredit remaining.length = (n, child)) (nonzero : n ≠ 0) :
      Called c i (.write remaining) ({ c with child := child }.setCall i
        (.writeFrame (remaining.take n) (remaining.drop n))) .nothing
  | sends (chunk rest : Bytes) : Called c i (.writeFrame chunk rest)
      (c.setCall i (afterWrite rest)) (.frame (.streamData chunk))
  | aborts (chunk rest : Bytes) :
      Called c i (.writeFrame chunk rest) (c.setCall i (.writeAborted chunk)) .nothing
  | resizes (size : Resize) : Called c i (.resizeFrame size) (c.setCall i .returned)
      (.frame (.streamResize (some size)))
  | unsent (size : Resize) : Called c i (.resizeFrame size) (c.setCall i .returned) .nothing
  | marks (fresh : c.child.closing = false) :
      Called c i .close ({ c with child.closing := true }.setCall i .closeFrame) .nothing
  | closes : Called c i .closeFrame (c.setCall i .closeWait)
      (.frame (.streamClose (some .clientClose)))
  | fails : Called c i .closeFrame (c.finish.setCall i .returned) .nothing

inductive Handled (c : Client) : Message → Client → Prop
  | accepts (window : Nat) (child : Child) (h : c.child.accept window = some child) :
      Handled c (.streamAccepted (some window)) { c with child := child }
  | receives (payload : Bytes) (child : Child) (h : c.child.receiveData payload = some child)
      (valid : validateStreamData payload = true) :
      Handled c (.streamData payload) { c with child := child }
  | updates (bytes : Nat) (child : Child) (h : c.child.receiveUpdate bytes = some child) :
      Handled c (.streamWindowUpdate (some bytes)) { c with child := child }
  | closes {m : Message} (empty : load [m] = 0 ∧ credit [m] = 0) (ends : m.ends = true) :
      Handled c m { c with live := false, child := c.child.close }

inductive Stepped (c : Client) : Act → Client → Output → Prop
  | rests {a : Act} {d : Client} {o : Output} (alike : Alike c d) (ins : a.input = none)
      (outs : o.frames = []) : Stepped c a d o
  | takes (maxBytes : Nat) (out : Bytes) (closed : Bool) (child : Child)
      (pc : c.reader = .take maxBytes)
      (taken : c.child.takeOutput maxBytes = some (out, closed, child)) (nonempty : out ≠ []) :
      Stepped c (.read .run) { c with child := child, reader := .update out closed } .nothing
  | grants (out : Bytes) (closed : Bool) (pc : c.reader = .update out closed) :
      Stepped c (.read .wrote) { c with reader := .restore out closed }
        (.frame (.streamWindowUpdate (some out.length)))
  | breaks (out : Bytes) (closed : Bool) (pc : c.reader = .update out closed) :
      Stepped c (.read .writeFailed) { c.finish with reader := .free }
        (.result ⟨out, true, some .write⟩)
  | restores (out : Bytes) (closed : Bool) (pc : c.reader = .restore out closed) :
      Stepped c (.read .run) { c with
        child.recvCredit := c.child.recvCredit + out.length
        reader := .free } (.result ⟨out, closed, none⟩)
  | adds {a : Act} (new : Call) (ins : a.input = none) (bytes : new.staged = 0 ∧ new.lost = 0)
      (closes : new.closes = 0) (sound : new.Sound) :
      Stepped c a { c with calls := c.calls ++ [new] } .nothing
  | calls (i : Nat) (e : Event) {call : Call} {d : Client} {o : Output}
      (found : c.calls[i]? = some call) (called : Called c i call d o)
      (silent : e ≠ .wrote → o.frames = []) : Stepped c (.call i e) d o
  | delivers (m : Message) : Stepped c (.deliver m) (deliver c m) .nothing
  | ends : Stepped c .readFailed { c.finish with monitorEnded := true } .nothing

section Inversion

variable {c c' : Client} {i : Nat} {call : Call} {e : Event} {o : Output}

/-- A reader that holds no bytes goes on to hold none. -/
theorem alike_reader {d : Client} (updating : c.reader.updating = 0)
    (restoring : c.reader.restoring = 0) (calls : d.calls = c.calls) (sound : d.reader.Sound)
    (ledger : d.ledger = { c.ledger with updating := 0, restoring := 0 })
    (closing : d.child.closing = c.child.closing) (done : d.done = c.done) : Alike c d := by
  refine ⟨calls, fun _ => sound, ?_, closing, fun h => done.trans h⟩
  rw [ledger]
  simp [Client.ledger, updating, restoring]

theorem readStep_stepped (h : readStep c e = some (c', o)) : Stepped c (.read e) c' o := by
  unfold readStep at h
  split at h
  · rename_i maxBytes pc
    have updating : c.reader.updating = 0 := congrArg Reader.updating pc
    have restoring : c.reader.restoring = 0 := congrArg Reader.restoring pc
    split at h
    · rename_i out closed child taken
      obtain ⟨-, bytes, -, send, recv, -, closing, -⟩ := Child.takeOutput_spec taken
      split at h
      · rename_i empty
        cases h
        rw [empty, length_nil, Nat.add_zero] at bytes
        refine .rests (alike_reader updating restoring rfl trivial ?_ closing rfl) rfl rfl
        simp [Client.ledger, Reader.updating, Reader.restoring, send, recv, bytes]
      · rename_i nonempty
        cases h
        exact .takes maxBytes out closed child pc taken nonempty
    · split at h
      all_goals
        cases h
        exact .rests (alike_reader updating restoring rfl trivial rfl rfl rfl) rfl rfl
  · rename_i pc
    cases h
    exact .rests (alike_reader (congrArg Reader.updating pc)
      (congrArg Reader.restoring pc) rfl trivial rfl rfl rfl) rfl rfl
  -- the session has ended, the child has, or there is output
  iterate 3
    · rename_i pc
      split at h
      · cases h
        exact .rests (alike_reader (congrArg Reader.updating pc)
          (congrArg Reader.restoring pc) rfl trivial rfl rfl rfl) rfl rfl
      · cases h
  · rename_i out closed pc
    split at h
    · cases h
    · cases h
      exact .grants out closed pc
  · rename_i out closed pc
    cases h
    exact .breaks out closed pc
  · rename_i out closed pc
    cases h
    exact .restores out closed pc
  · cases h

theorem callStep_called (h : callStep c i call e = some (c', o)) : Called c i call c' o := by
  unfold callStep at h
  split at h
  · rename_i remaining
    split at h
    · cases h
      exact .rests (.refl c) rfl rfl
    dsimp only at h
    split at h
    · cases h
      exact .rests (.refl c) rfl rfl
    · rename_i nonzero
      cases h
      exact .stages remaining _ _ rfl nonzero
  all_goals repeat' split at h
  all_goals cases h
  -- what is left is a call that returns or waits, but for those with something to write
  all_goals try exact .rests (.refl c) rfl rfl
  · exact .rests ⟨rfl, id, rfl, rfl, id⟩ rfl rfl
  · exact .sends _ _
  · exact .aborts _ _
  · exact .resizes _
  · exact .unsent _
  · rename_i closing
    exact .rests ⟨rfl, id, rfl, closing.symm, id⟩ rfl rfl
  · rename_i fresh
    exact .marks (eq_false_iff.mpr fresh)
  · exact .closes
  · exact .fails

theorem callStep_silent (h : callStep c i call e = some (c', o)) (quiet : e ≠ .wrote) :
    o.frames = [] := by
  unfold callStep at h
  split at h
  all_goals
    repeat' split at h
    all_goals cases h
    all_goals first | rfl | exact absurd rfl quiet

theorem handleFrame_live {m : Message} (h : handleFrame c m = some c') :
    c.live = true ∧ Handled c m c' := by
  unfold handleFrame at h
  have ofChild : ∀ {b : Bool} {found : Option Child},
      (if b && c.live then found.map fun child => { c with child := child } else none) = some c' →
      c.live = true ∧ b = true ∧ ∃ child, found = some child ∧ { c with child := child } = c' := by
    intro b found h
    obtain ⟨valid, h⟩ := ite_none_right_eq_some.mp h
    exact ⟨(and_eq_true_iff.mp valid).2, (and_eq_true_iff.mp valid).1, map_eq_some_iff.mp h⟩
  split at h
  · obtain ⟨live, -, child, found, rfl⟩ := ofChild h
    exact ⟨live, .accepts _ child found⟩
  · obtain ⟨live, valid, child, found, rfl⟩ := ofChild h
    exact ⟨live, .receives _ child found valid⟩
  · obtain ⟨live, -, child, found, rfl⟩ := ofChild h
    exact ⟨live, .updates _ child found⟩
  iterate 2
    · obtain ⟨valid, ⟨⟩⟩ := ite_none_right_eq_some.mp h
      simp only [and_eq_true] at valid
      exact ⟨by simp [valid], .closes ⟨rfl, rfl⟩ rfl⟩
  · cases h

theorem handleFrame_handled {m : Message} (h : handleFrame c m = some c') : Handled c m c' :=
  (handleFrame_live h).2

theorem step_stepped {a : Act} (h : step c a = some (c', o)) : Stepped c a c' o := by
  cases a with
  | beginRead =>
    simp only [step, beginRead] at h
    repeat' split at h
    all_goals
      cases h
      exact .rests ⟨rfl, id, rfl, rfl, id⟩ rfl rfl
  | lockRead i =>
    simp only [step, lockRead] at h
    split at h
    · rename_i pc _
      cases h
      exact .rests (alike_reader (congrArg Reader.updating pc) (congrArg Reader.restoring pc) rfl
        trivial rfl rfl rfl) rfl rfl
    · cases h
  | read => exact readStep_stepped h
  | call i e =>
    simp only [step] at h
    split at h
    · rename_i call found
      exact .calls i e found (callStep_called h) (callStep_silent h)
    · cases h
  | deliver m =>
    obtain ⟨-, h⟩ := ite_none_left_eq_some.mp h
    cases h
    exact .delivers m
  | readFailed =>
    obtain ⟨-, h⟩ := ite_none_left_eq_some.mp h
    cases h
    exact .ends
  | finishChildren =>
    obtain ⟨-, h⟩ := ite_none_right_eq_some.mp h
    cases h
    exact .rests ⟨rfl, id, rfl, rfl, id⟩ rfl rfl
  | beginResize =>
    simp only [step] at h
    split at h
    · rename_i sized
      cases h
      exact .adds _ rfl ⟨rfl, rfl⟩ rfl (and_eq_true _ _ ▸ sized).2
    · cases h
      exact .rests (.refl c) rfl rfl
  | _ =>
    simp only [step] at h
    split at h
    · cases h
      exact .adds _ rfl ⟨rfl, rfl⟩ rfl trivial
    · cases h
      exact .rests (.refl c) rfl rfl

end Inversion

variable {c c' : Client} {i : Nat} {call : Call} {o : Output}

/-- A call that keeps its bytes leaves the ledger as it is. -/
theorem moves_setCall {d : Client} {old new : Call} (found : c.calls[i]? = some old)
    (calls : d.calls = c.calls) (same : d.ledger = c.ledger)
    (bytes : new.staged = old.staged ∧ new.lost = old.lost)
    (outs : load o.frames = 0 ∧ credit o.frames = 0) (ends : c.done = true → d.done = true) :
    Moves c [] o.frames (d.setCall i new) := by
  rw [← calls] at found
  have staged := weight_set Call.staged new found
  have lost := weight_set Call.lost new found
  rw [bytes.1, Nat.add_right_cancel_iff] at staged
  rw [bytes.2, Nat.add_right_cancel_iff] at lost
  refine ⟨.quiet ?_ carries_nothing outs, ends⟩
  rw [← same]
  simp [Client.ledger, Client.setCall, staged, lost]

theorem Called.moves {d : Client} (called : Called c i call d o)
    (found : c.calls[i]? = some call) : Moves c [] o.frames d := by
  cases called with
  | rests alike light light' =>
    have before := (Call.light_spec light).1
    have after := (Call.light_spec light').1
    exact moves_setCall found alike.calls alike.ledger
      ⟨after.1.trans before.1.symm, after.2.trans before.2.symm⟩ carries_nothing alike.ends
  | stages remaining n child taken =>
    obtain ⟨credit, few, -⟩ := c.child.takeCredit_spec remaining.length
    simp only [taken] at credit few
    have staged := weight_set Call.staged (.writeFrame (remaining.take n) (remaining.drop n)) found
    have lost := weight_set Call.lost (.writeFrame (remaining.take n) (remaining.drop n)) found
    simp only [Call.staged, Call.lost, length_take, Nat.add_zero,
      Nat.min_eq_left few] at staged lost
    have others := congrArg (fun r => (r.2.outputBytes, r.2.recvCredit)) taken
    simp only [Child.takeCredit, Prod.mk.injEq] at others
    refine ⟨.stage n ?_ ?_ rfl rfl, id⟩
    · simp only [Client.ledger]
      omega
    · have left : child.sendCredit = c.child.sendCredit - n := by omega
      simp [Client.ledger, Client.setCall, staged, lost, left, ← others.1, ← others.2]
  | sends chunk rest =>
    obtain ⟨⟨light, light'⟩, -⟩ := Call.light_spec (afterWrite_light rest)
    have staged := weight_set Call.staged (afterWrite rest) found
    have lost := weight_set Call.lost (afterWrite rest) found
    rw [light, Nat.add_zero] at staged
    rw [light', Nat.add_zero] at lost
    simp only [Call.staged, Call.lost, Nat.add_zero] at staged lost
    refine ⟨.send chunk.length ?_ ?_ rfl ⟨rfl, rfl⟩, id⟩
    · simp only [Client.ledger]
      omega
    · have left : weight Call.staged (c.calls.set i (afterWrite rest)) =
          weight Call.staged c.calls - chunk.length := by omega
      simp [Client.ledger, Client.setCall, lost, left]
  | aborts chunk =>
    have staged := weight_set Call.staged (.writeAborted chunk) found
    have lost := weight_set Call.lost (.writeAborted chunk) found
    simp only [Call.staged, Call.lost, Nat.add_zero] at staged lost
    refine ⟨.abort chunk.length ?_ ?_ rfl rfl, id⟩
    · simp only [Client.ledger]
      omega
    · have left : weight Call.staged (c.calls.set i (.writeAborted chunk)) =
          weight Call.staged c.calls - chunk.length := by omega
      simp [Client.ledger, Client.setCall, lost, left]
  | fails => exact moves_setCall found rfl rfl ⟨rfl, rfl⟩ carries_nothing fun _ => rfl
  | _ => exact moves_setCall found rfl rfl ⟨rfl, rfl⟩ ⟨rfl, rfl⟩ id

theorem deliver_moves (c : Client) (m : Message) : Moves c [m] [] (deliver c m) := by
  unfold deliver
  split
  · rename_i h
    cases handleFrame_handled h with
    | accepts window child accepted =>
      obtain ⟨fresh, -, send, -, out, recv, -⟩ := Child.accept_eq_some accepted
      refine ⟨.accept window (c.child.uncredited fresh) ?_ ⟨rfl, rfl⟩ rfl, id⟩
      simp [Client.ledger, send, out, recv]
    | receives payload child received =>
      obtain ⟨-, recv, -, out, send, -⟩ := Child.receiveData_eq_some received
      have left : child.recvCredit = c.child.recvCredit - payload.length := by omega
      refine ⟨.arrive payload.length ?_ ?_ ⟨rfl, rfl⟩ rfl, id⟩
      · simp only [Client.ledger]
        omega
      · simp [Client.ledger, send, out, left]
    | updates bytes child updated =>
      obtain ⟨-, send, -, out, recv, -⟩ := Child.receiveUpdate_eq_some updated
      refine ⟨.refund bytes ?_ ⟨rfl, rfl⟩ rfl, id⟩
      simp [Client.ledger, send, out, recv]
    | closes empty => exact ⟨.quiet rfl empty carries_nothing, id⟩
  · exact ⟨.drop (.inl rfl) rfl rfl, fun _ => rfl⟩

/-- Every step of the client moves its bytes in one of the ways of `Entry`. -/
theorem step_moves {a : Act} (h : step c a = some (c', o)) :
    Moves c a.input.toList o.frames c' := by
  cases step_stepped h with
  | rests alike ins outs =>
    rw [ins, outs]
    exact ⟨.quiet alike.ledger carries_nothing carries_nothing, alike.ends⟩
  | takes _ out closed child pc taken =>
    obtain ⟨-, bytes, -, send, recv, -⟩ := Child.takeOutput_spec taken
    refine ⟨.take out.length ?_
      ⟨congrArg Reader.updating pc, congrArg Reader.restoring pc⟩ ?_ rfl rfl, id⟩
    · simp only [Client.ledger]
      omega
    · have left : child.outputBytes = c.child.outputBytes - out.length := by omega
      simp [Client.ledger, Reader.updating, Reader.restoring, pc, send, recv, left]
  | grants out closed pc =>
    exact ⟨.grant out.length ⟨congrArg Reader.updating pc, congrArg Reader.restoring pc⟩ rfl rfl
      ⟨rfl, rfl⟩, id⟩
  | breaks out closed pc =>
    refine ⟨.drop (.inr ?_) rfl rfl, fun _ => rfl⟩
    simp [Client.ledger, Client.finish, Reader.updating, Reader.restoring, pc]
  | restores out closed pc =>
    refine ⟨.restore out.length (congrArg Reader.restoring pc) ?_ rfl rfl, id⟩
    simp [Client.ledger, Reader.updating, Reader.restoring, pc]
  | adds _ ins bytes =>
    rw [ins]
    refine ⟨.quiet ?_ carries_nothing carries_nothing, id⟩
    simp [Client.ledger, bytes]
  | calls i e found called => exact called.moves found
  | delivers m => exact deliver_moves c m
  | ends => exact ⟨.drop (.inl rfl) rfl rfl, fun _ => rfl⟩

/-- Until `finish`, the window the client granted is in its credit, its queue
and the hands of the reader. -/
def Client.Windowed (c : Client) : Prop :=
  c.done = false → c.ledger.recvCredit + c.ledger.output + c.ledger.updating +
    c.ledger.restoring = managedMuxReceiveWindow

theorem Moves.alive {input output : List Message} (moves : Moves c input output c')
    (alive : c'.done = false) : c.done = false := by
  rw [← not_eq_true]
  intro hdone
  rw [moves.ends hdone] at alive
  cases alive

theorem Moves.windowed {input output : List Message} (moves : Moves c input output c')
    (windowed : c.Windowed) : c'.Windowed := by
  intro alive
  have sum := windowed (moves.alive alive)
  cases moves.entry with
  | quiet same => rw [same]; exact sum
  | drop _ _ dead => rw [dead] at alive; cases alive
  | arrive n enough moved | take n enough before moved | grant n before moved
  | restore n before moved =>
    rw [moved]; dsimp only; omega
  | _ =>
    rename_i moved _ _
    rw [moved]; exact sum

theorem sound_new : Sound Client.new := ⟨forall_mem_nil _, trivial⟩

theorem Sound.setCall {d : Client} (sound : Sound c) (calls : d.calls = c.calls)
    (reader : d.reader = c.reader) (new : call.Sound) :
    Sound (d.setCall i call) := by
  refine ⟨?_, ?_⟩
  · intro x hx
    rw [Client.setCall, calls] at hx
    rcases mem_or_eq_of_mem_set hx with hold | rfl
    · exact sound.calls x hold
    · exact new
  · rw [Client.setCall, reader]
    exact sound.reader

theorem Sound.addCall (sound : Sound c) (new : call.Sound) :
    Sound { c with calls := c.calls ++ [call] } := by
  refine ⟨?_, sound.reader⟩
  intro x hx
  rcases mem_append.mp hx with hold | hnew
  · exact sound.calls x hold
  · rw [mem_singleton] at hnew
    rw [hnew]
    exact new

theorem Called.sound {d : Client} (called : Called c i call d o) (sound : Sound c)
    (found : c.calls[i]? = some call) : Sound d ∧ ∀ m ∈ o.frames, utters m = true := by
  have old : call.Sound := sound.calls call (mem_of_getElem? found)
  cases called with
  | rests alike _ light' =>
    refine ⟨⟨fun x member => ?_, alike.reader sound.reader⟩, forall_mem_nil _⟩
    rw [Client.setCall, alike.calls] at member
    rcases mem_or_eq_of_mem_set member with before | rfl
    · exact sound.calls x before
    · exact (Call.light_spec light').2.2
  | stages remaining n _ taken =>
    obtain ⟨-, few, chunk⟩ := c.child.takeCredit_spec remaining.length
    simp only [taken] at few chunk
    refine ⟨sound.setCall rfl rfl ?_, forall_mem_nil _⟩
    simp only [Call.Sound, validateStreamData, length_take, decide_eq_true_eq, Nat.min_eq_left few]
    omega
  | sends chunk rest =>
    exact ⟨sound.setCall rfl rfl (Call.light_spec (afterWrite_light rest)).2.2,
      forall_mem_singleton.mpr old⟩
  | aborts =>
    refine ⟨sound.setCall rfl rfl ?_, forall_mem_nil _⟩
    simp only [Call.Sound, validateStreamData, decide_eq_true_eq] at old ⊢
    exact old.1
  | resizes => exact ⟨sound.setCall rfl rfl trivial, forall_mem_singleton.mpr old⟩
  | closes => exact ⟨sound.setCall rfl rfl trivial, forall_mem_singleton.mpr rfl⟩
  | _ => exact ⟨sound.setCall rfl rfl trivial, forall_mem_nil _⟩

/-- A handler of the monitor touches only the table and the child. -/
theorem deliver_frame (c : Client) (m : Message) :
    (deliver c m).calls = c.calls ∧ (deliver c m).reader = c.reader := by
  unfold deliver
  split
  · rename_i h
    cases handleFrame_handled h <;> exact ⟨rfl, rfl⟩
  · exact ⟨rfl, rfl⟩

theorem step_sound {a : Act} (sound : Sound c) (h : step c a = some (c', o)) :
    Sound c' ∧ ∀ m ∈ o.frames, utters m = true := by
  cases step_stepped h with
  | rests alike ins outs =>
    rw [outs]
    exact ⟨⟨alike.calls ▸ sound.calls, alike.reader sound.reader⟩, forall_mem_nil _⟩
  | takes _ out closed _ pc taken nonempty =>
    obtain ⟨-, bytes, -⟩ := Child.takeOutput_spec taken
    have limit := c.child.limited
    have positive := length_pos_iff.mpr nonempty
    refine ⟨⟨sound.calls, ?_⟩, forall_mem_nil _⟩
    unfold managedTerminalOutputLimit at limit
    change decide (0 < out.length ∧ out.length ≤ 1048576) = true
    rw [decide_eq_true_eq]
    omega
  | grants out closed pc =>
    have valid := sound.reader
    rw [pc] at valid
    exact ⟨⟨sound.calls, trivial⟩, forall_mem_singleton.mpr valid⟩
  | adds _ ins bytes _ fit => exact ⟨sound.addCall fit, forall_mem_nil _⟩
  | calls i e found called => exact called.sound sound found
  | delivers m =>
    obtain ⟨calls, reader⟩ := deliver_frame c m
    exact ⟨⟨calls.symm ▸ sound.calls, reader.symm ▸ sound.reader⟩, forall_mem_nil _⟩
  | ends => exact ⟨⟨sound.calls, sound.reader⟩, forall_mem_nil _⟩
  | _ => exact ⟨⟨sound.calls, trivial⟩, forall_mem_nil _⟩

/-- Only a call whose frame is written puts something on the wire. -/
theorem step_writes {a : Act} (h : step c a = some (c', o)) (writes : o.frames ≠ []) :
    a = .read .wrote ∨ ∃ i, a = .call i .wrote := by
  cases step_stepped h with
  | rests _ _ outs => exact absurd outs writes
  | grants => exact .inl rfl
  | calls i e _ _ silent =>
    by_cases wrote : e = .wrote
    · exact .inr ⟨i, congrArg _ wrote⟩
    · exact absurd (silent wrote) writes
  | _ => exact absurd rfl writes

theorem polite_new : Polite Client.new := ⟨Nat.zero_le _, fun _ => rfl⟩

variable {frames : List Message}

theorem Closes.polite (closes : Closes c frames c') (polite : Polite c) : Polite c' := by
  cases closes with
  | keep closing closers =>
    refine ⟨closers ▸ polite.one, ?_⟩
    rw [closing, closers]
    exact polite.none
  | begin fresh closing =>
    have hnone := polite.none fresh
    refine ⟨by omega, ?_⟩
    rw [closing]
    intro h
    cases h
  | finish =>
    have hone := polite.one
    refine ⟨by omega, ?_⟩
    intro _
    omega

theorem Closes.spoken (closes : Closes c frames c') (spoken : c.spoken = true) :
    c'.spoken = true := by
  simp only [Client.spoken, and_eq_true, decide_eq_true_eq] at spoken ⊢
  cases closes with
  | keep closing closers =>
    rw [closing, closers]
    exact spoken
  | begin fresh =>
    rw [fresh] at spoken
    cases spoken.1
  | finish => omega

/-- The step that writes the StreamClose is the last word. -/
theorem Closes.last (closes : Closes c frames c') (polite : Polite c) (ends : ended frames = true) :
    c'.spoken = true := by
  cases closes with
  | keep closing closers plain =>
    rw [plain] at ends
    cases ends
  | begin _ closing closers silent =>
    rw [silent] at ends
    cases ends
  | finish closing =>
    have hone := polite.one
    have hclosing : c.child.closing = true := by
      rw [← not_eq_false]
      intro h
      have := polite.none h
      omega
    simp only [Client.spoken, closing, hclosing, Bool.true_and, decide_eq_true_eq]
    omega

theorem closes_same (calls : c'.calls = c.calls) (closing : c'.child.closing = c.child.closing)
    (plain : ended frames = false) :
    Closes c frames c' :=
  .keep closing (congrArg (weight Call.closes) calls) plain

theorem Called.closing {d : Client} (called : Called c i call d o)
    (found : c.calls[i]? = some call) : Closes c o.frames d := by
  have keeps : ∀ {d : Client} {new : Call} {frames : List Message}, d.calls = c.calls →
      d.child.closing = c.child.closing → call.closes = 0 → new.closes = 0 →
      ended frames = false → Closes c frames (d.setCall i new) := by
    intro d new frames calls closing before after plain
    have set := weight_set Call.closes new found
    rw [before, after, Nat.add_zero, Nat.add_zero, ← calls] at set
    exact .keep closing (set.trans (congrArg _ calls)) plain
  cases called with
  | rests alike light light' =>
    exact keeps alike.calls alike.closing (Call.light_spec light).2.1
      (Call.light_spec light').2.1 rfl
  | stages _ n _ taken =>
    exact keeps rfl (congrArg (fun r => r.2.closing) taken).symm rfl rfl rfl
  | sends _ rest => exact keeps rfl rfl rfl (Call.light_spec (afterWrite_light rest)).2.1 rfl
  | marks fresh => exact .begin fresh rfl (weight_set Call.closes .closeFrame found) rfl
  | closes => exact .finish rfl (weight_set Call.closes .closeWait found)
  | fails => exact .finish rfl (weight_set Call.closes .returned found)
  | _ => exact keeps rfl rfl rfl rfl rfl

theorem deliver_closing (c : Client) (m : Message) :
    (deliver c m).child.closing = c.child.closing := by
  unfold deliver
  split
  · rename_i h
    cases handleFrame_handled h with
    | accepts _ child accepted => exact (Child.accept_eq_some accepted).2.2.2.2.2.2.2.1
    | receives _ child received =>
      exact (Child.receiveData_eq_some received).2.2.2.2.2.2.1
    | updates _ child updated => exact (Child.receiveUpdate_eq_some updated).2.2.2.2.2.2.1
    | closes => rfl
  · rfl

theorem step_closes {a : Act} (h : step c a = some (c', o)) : Closes c o.frames c' := by
  cases step_stepped h with
  | rests alike ins outs =>
    rw [outs]
    exact closes_same alike.calls alike.closing rfl
  | takes _ _ _ _ _ taken =>
    obtain ⟨-, -, -, -, -, -, closing, -⟩ := Child.takeOutput_spec taken
    exact closes_same rfl closing rfl
  | adds _ ins _ closes =>
    refine .keep rfl ?_ rfl
    simp [Client.closers, closes]
  | calls i e found called => exact called.closing found
  | delivers m => exact closes_same (deliver_frame c m).1 (deliver_closing c m) rfl
  | _ => exact closes_same rfl rfl rfl

end TerminalClient
