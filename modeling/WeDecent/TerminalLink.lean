import WeDecent.Library.CreditLoop
import WeDecent.Library.Duplex
import WeDecent.TerminalClient
import WeDecent.TerminalServer

/-!
# One typed terminal stream between client and server

Both sides of a stream over two FIFO channels, from the moment the server has
sent its StreamAccepted. Each direction of the stream is a credit loop: its
window is spread over the sender's credit, bytes staged by the sender, bytes in
flight, bytes the receiver holds and credit on its way back.
-/

namespace TerminalLink

open List Option CreditLoop MuxChild Runs StreamProtocol StreamRegistry

def clientParty : Duplex.Party TerminalClient.Client TerminalClient.Act Message where
  input := TerminalClient.Act.input
  step c a := (TerminalClient.step c a).map fun (c', o) => (c', o.frames)

def serverParty : Duplex.Party TerminalServer.Server TerminalServer.Act Message where
  input := TerminalServer.Act.input
  step := TerminalServer.step

abbrev Link := Duplex.Link TerminalClient.Client TerminalServer.Server Message

abbrev Act := Duplex.Act TerminalClient.Act TerminalServer.Act

def step : Link → Act → Option Link := Duplex.step clientParty serverParty

/-- The server right after its StreamAccepted. -/
def acceptedServer : TerminalServer.Server where
  record := some .opened
  live := true
  child := ⟨⟨262144, by decide⟩, ⟨262144, by decide⟩, false, false⟩
  handle := .idle
  forward := .read
  wait := .wait

def start : Link where
  left := TerminalClient.Client.new
  right := acceptedServer
  toRight := []
  toLeft := [.streamAccepted (some 262144)]

/-- Client to server: the credit is the client's, the receiver is `Handle`. -/
def uplink (l : Link) : Loop where
  credit := l.left.ledger.sendCredit
  staged := l.left.ledger.staged
  flight := load l.toRight + l.right.ledger.place.arriving
  held := l.right.ledger.place.held
  returning := credit l.toLeft

/-- Server to client: the receiver is the output queue and the call that reads it. -/
def downlink (l : Link) : Loop where
  credit := l.right.ledger.sendCredit
  staged := l.right.ledger.staged
  flight := load l.toLeft
  held := l.left.ledger.output + l.left.ledger.updating
  returning := credit l.toRight + l.right.ledger.place.returning

variable {l l' : Link} {a : TerminalClient.Act} {out : List Message}

theorem client_moves (moves : Duplex.LeftMoves clientParty l a out l') :
    TerminalClient.Moves l.left a.input.toList out l'.left := by
  obtain ⟨⟨c', o⟩, hstep, heq⟩ := map_eq_some_iff.mp moves.step
  obtain ⟨rfl, rfl⟩ := Prod.mk.inj heq
  exact TerminalClient.step_moves hstep

theorem server_entry {a : TerminalServer.Act} (moves : Duplex.RightMoves serverParty l a out l') :
    TerminalServer.Entry l.right a.input.toList out l'.right :=
  TerminalServer.step_entry moves.step

section Channels

variable {l l' : Link} {out : List Message}

theorem client_channels {a : TerminalClient.Act} (moves : Duplex.LeftMoves clientParty l a out l') :
    load l'.toRight = load l.toRight + load out ∧
      credit l'.toRight = credit l.toRight + credit out ∧
      load l.toLeft = load a.input.toList + load l'.toLeft ∧
      credit l.toLeft = credit a.input.toList + credit l'.toLeft := by
  have hright := moves.toRight
  have hleft : l.toLeft = a.input.toList ++ l'.toLeft := moves.toLeft
  rw [hright, hleft]
  simp [load_append, credit_append]

theorem server_channels {a : TerminalServer.Act}
    (moves : Duplex.RightMoves serverParty l a out l') :
    load l'.toLeft = load l.toLeft + load out ∧ credit l'.toLeft = credit l.toLeft + credit out ∧
      load l.toRight = load a.input.toList + load l'.toRight ∧
      credit l.toRight = credit a.input.toList + credit l'.toRight := by
  have hleft := moves.toLeft
  have hright : l.toRight = a.input.toList ++ l'.toRight := moves.toRight
  rw [hleft, hright]
  simp [load_append, credit_append]

end Channels

/-- The client's steps on the server's window: data arrives, is read and granted
back; bytes vanish only when the client ends the parent. -/
theorem client_downlink (moves : Duplex.LeftMoves clientParty l a out l') :
    Step (downlink l) (downlink l') := by
  have hserver := moves.right
  obtain ⟨hload, hcredit, hload', hcredit'⟩ := client_channels moves
  obtain ⟨entry, -⟩ := client_moves moves
  have stay : l'.left.ledger.output + l'.left.ledger.updating =
      l.left.ledger.output + l.left.ledger.updating →
      load a.input.toList = 0 → credit out = 0 → downlink l' = downlink l := by
    intro hheld hin hout
    simp only [downlink, hserver, Loop.mk.injEq, true_and]
    omega
  cases entry with
  | quiet same ins outs =>
    exact .inl (.stay (stay (by rw [same]) ins.1 outs.2))
  | drop lost outs =>
    refine .inr ⟨?_, ?_, ?_, ?_, ?_⟩
    · simp [downlink, hserver]
    · simp [downlink, hserver]
    · simp only [downlink]
      omega
    · rcases lost with same | fewer
      · simp [downlink, same]
      · simp only [downlink, fewer]
        omega
    · rw [outs, credit_nil] at hcredit
      simp only [downlink, hserver]
      omega
  | accept n fresh moved ins outs | refund n moved ins outs =>
    exact .inl (.stay (stay (by rw [moved]) ins.1 (by rw [outs, credit_nil])))
  | arrive n enough moved ins outs =>
    refine .inl (.arrive n ?_)
    rw [outs, credit_nil] at hcredit
    simp only [Arrive, downlink, hserver, moved, true_and]
    omega
  | send n enough moved ins outs =>
    exact .inl (.stay (stay (by rw [moved]) (by rw [ins, load_nil]) outs.2))
  | take n enough before moved ins outs =>
    refine .inl (.stay (stay ?_ (by rw [ins, load_nil]) (by rw [outs, credit_nil])))
    rw [moved]
    dsimp only
    omega
  | grant n before moved ins =>
    refine .inl (.grant n ?_)
    rw [ins, load_nil] at hload'
    simp only [Grant, downlink, hserver, moved, true_and]
    omega
  | _ =>
    rename_i moved ins outs
    exact .inl (.stay (stay (by rw [moved]) (by rw [ins, load_nil]) (by rw [outs, credit_nil])))

/-- The server's steps on its own window. -/
theorem server_downlink {a : TerminalServer.Act} (begun : l.right.begun)
    (moves : Duplex.RightMoves serverParty l a out l') :
    Step (downlink l) (downlink l') := by
  obtain ⟨hload, -, -, hcredit⟩ := server_channels moves
  have inside : ¬ l.right.handle.opens = true := by
    rw [begun.2]
    exact nofun
  unfold downlink
  rw [moves.left]
  exact (server_entry moves).downLoop_step inside hcredit hload

/-- The client's steps on its own window, with the bytes lost to aborted writes. -/
theorem client_uplink (moves : Duplex.LeftMoves clientParty l a out l')
    (alive : l'.left.done = false) :
    (uplink l').total + l'.left.ledger.lost = (uplink l).total + l.left.ledger.lost := by
  have hserver := moves.right
  obtain ⟨hload, hcredit, hload', hcredit'⟩ := client_channels moves
  have kept : l'.left.ledger.lost = l.left.ledger.lost → Move (uplink l) (uplink l') →
      (uplink l').total + l'.left.ledger.lost = (uplink l).total + l.left.ledger.lost := by
    intro hlost hmove
    rw [hlost, hmove.total_eq]
  have stay : l'.left.ledger.sendCredit = l.left.ledger.sendCredit →
      l'.left.ledger.staged = l.left.ledger.staged →
      credit a.input.toList = 0 → load out = 0 → Move (uplink l) (uplink l') := by
    intro hsend hstaged hin hout
    refine .stay ?_
    simp only [uplink, hserver, hsend, hstaged, Loop.mk.injEq, true_and]
    omega
  obtain ⟨entry, -⟩ := client_moves moves
  cases entry with
  | quiet same ins outs =>
    exact kept (by rw [same]) (stay (by rw [same]) (by rw [same]) ins.2 outs.1)
  | drop lost outs dead =>
    rw [dead] at alive
    cases alive
  | accept n fresh moved ins outs =>
    refine kept (by rw [moved]) (.refund n ?_)
    rw [outs, load_nil] at hload
    simp only [Refund, uplink, hserver, moved, fresh, and_true, true_and]
    omega
  | refund n moved ins outs =>
    refine kept (by rw [moved]) (.refund n ?_)
    rw [outs, load_nil] at hload
    simp only [Refund, uplink, hserver, moved, and_true, true_and]
    omega
  | arrive n enough moved ins outs =>
    exact kept (by rw [moved]) (stay (by rw [moved]) (by rw [moved]) ins.2 (by rw [outs, load_nil]))
  | stage n enough moved ins outs =>
    refine kept (by rw [moved]) (.stage n ?_)
    rw [outs, load_nil] at hload
    rw [ins, credit_nil] at hcredit'
    simp only [Stage, uplink, hserver, moved, true_and]
    omega
  | send n enough moved ins =>
    refine kept (by rw [moved]) (.send n ?_)
    rw [ins, credit_nil] at hcredit'
    simp only [Send, uplink, hserver, moved, true_and]
    omega
  | abort n enough moved ins outs =>
    rw [outs, load_nil] at hload
    rw [ins, credit_nil] at hcredit'
    simp only [Loop.total, uplink, hserver, moved]
    omega
  | grant n before moved ins outs =>
    exact kept (by rw [moved]) (stay (by rw [moved]) (by rw [moved]) (by rw [ins, credit_nil])
      outs.1)
  | _ =>
    rename_i moved ins outs
    exact kept (by rw [moved]) (stay (by rw [moved]) (by rw [moved]) (by rw [ins, credit_nil])
      (by rw [outs, load_nil]))

/-- The server's steps on the client's window, as long as the stream is open. -/
theorem server_uplink {a : TerminalServer.Act} (begun : l.right.begun)
    (moves : Duplex.RightMoves serverParty l a out l') (alive : l'.right.alive = true) :
    Move (uplink l) (uplink l') := by
  obtain ⟨-, hcredit, hload, -⟩ := server_channels moves
  have inside : ¬ l.right.handle.opens = true := by
    rw [begun.2]
    rintro ⟨⟩
  unfold uplink
  rw [moves.left]
  exact (server_entry moves).upLoop_move inside (by rw [alive]; rintro ⟨⟩) hload hcredit

/-- The stream is open and neither side has ended the parent. -/
def Alive (l : Link) : Prop := l.right.alive = true ∧ l.left.done = false

/-- What every run keeps, whatever the schedule. -/
structure Accounted (l : Link) : Prop where
  begun : l.right.begun
  sound : TerminalClient.Sound l.left
  windowed : l.left.Windowed
  down : (downlink l).total ≤ managedMuxReceiveWindow
  up : Alive l → (uplink l).total + l.left.ledger.lost = TerminalServer.typedTerminalReceiveWindow

theorem accounted_start : Accounted start :=
  ⟨⟨nofun, rfl⟩, TerminalClient.sound_new, fun _ => rfl, by decide, fun _ => rfl⟩

theorem accounted_step {act : Act} (accounted : Accounted l) (hs : step l act = some l') :
    Accounted l' := by
  revert hs
  refine Duplex.step_preserves Accounted ?_ ?_ l act l' accounted
  · intro l a out l' accounted moves
    have hserver := moves.right
    have hmoves := client_moves moves
    obtain ⟨⟨c', o⟩, hstep, heq⟩ := map_eq_some_iff.mp moves.step
    obtain ⟨rfl, rfl⟩ := Prod.mk.inj heq
    refine ⟨?_, (TerminalClient.step_sound accounted.sound hstep).1,
      hmoves.windowed accounted.windowed,
      Nat.le_trans (client_downlink moves).total_le accounted.down, ?_⟩
    · rw [hserver]
      exact accounted.begun
    · intro alive
      rw [client_uplink moves alive.2]
      exact accounted.up ⟨hserver ▸ alive.1, hmoves.alive alive.2⟩
  · intro l b out l' accounted moves
    have hclient := moves.left
    have later := TerminalServer.step_later accounted.begun moves.step
    refine ⟨later.begun, ?_, ?_,
      Nat.le_trans (server_downlink accounted.begun moves).total_le accounted.down, ?_⟩
    · rw [hclient]
      exact accounted.sound
    · rw [hclient]
      exact accounted.windowed
    · intro alive
      rw [hclient, (server_uplink accounted.begun moves alive.1).total_eq]
      exact accounted.up ⟨later.alive alive.1, hclient ▸ alive.2⟩

theorem accounted (reach : Reachable step start l) : Accounted l :=
  reachable_invariant Accounted (fun _ _ _ => accounted_step) accounted_start reach

/-- While the stream is open, the client's window is whole exactly as long as no
`WriteTerminalStream` has returned the error of a write it had debited. -/
theorem uplink_whole_iff (acts : List Act) (run : Runs.exec step start acts = some l)
    (alive : Alive l) :
    (uplink l).total = TerminalServer.typedTerminalReceiveWindow ↔
      ∀ chunk, TerminalClient.Call.writeAborted chunk ∉ l.left.calls := by
  have kept := accounted ⟨acts, run⟩
  have sum := kept.up alive
  have whole : (uplink l).total = TerminalServer.typedTerminalReceiveWindow ↔
      l.left.ledger.lost = 0 := by omega
  rw [whole]
  constructor
  · intro hlost chunk hmem
    have hzero := Weights.weight_eq_zero.mp hlost _ hmem
    have hpos : 0 < chunk.length := kept.sound.calls _ hmem
    simp only [TerminalClient.Call.lost] at hzero
    omega
  · intro none
    refine Weights.weight_eq_zero.mpr ?_
    intro call hmem
    cases call with
    | writeAborted chunk => exact absurd hmem (none chunk)
    | _ => rfl

def acceptFrame : TerminalClient.Act := .deliver (.streamAccepted (some 262144))

/-- One byte is written, reaches the process, and its credit comes back. -/
def granted : List Act :=
  [.left acceptFrame, .left (.beginWrite [7]), .left (.call 0 .run), .left (.call 0 .wrote),
    .right (.receive (.streamData [7])), .right (.handle true), .right (.handle true),
    .right (.handle true), .right (.handle true), .right (.handle true),
    .left (.deliver (.streamWindowUpdate (some 1)))]

theorem uplink_whole_granted : ∃ l, Runs.exec step start granted = some l ∧
      l.left.calls = [.returned] ∧ l.right.handle = .idle ∧
      (uplink l).total = TerminalServer.typedTerminalReceiveWindow := by
  refine ⟨_, rfl, rfl, rfl, ?_⟩
  refine (uplink_whole_iff granted rfl ⟨rfl, rfl⟩).mpr fun chunk member => ?_
  cases List.mem_singleton.mp member

/-- One byte is debited, its context ends before the frame is written, and the
call returns: the window is a byte short with no call in progress. -/
theorem aborted_write_shrinks_window :
    ∃ l, Runs.exec step start [.left acceptFrame, .left (.beginWrite [7]),
        .left (.call 0 .run), .left (.call 0 .writeFailed)] = some l ∧
      Alive l ∧ l.toRight = [] ∧ l.toLeft = [] ∧ l.left.calls = [.writeAborted [7]] ∧
      (uplink l).total + 1 = TerminalServer.typedTerminalReceiveWindow :=
  ⟨_, rfl, ⟨rfl, rfl⟩, rfl, rfl, rfl, rfl⟩

/-- The data frame next in line is within the client's credit and output limit
exactly when it fits next to the queue and to the bytes whose WindowUpdate is
written but which `ReadTerminalStream` has not yet added to `recvCredit`. -/
theorem data_fits_iff (acts : List Act) {payload : Bytes} {rest : List Message}
    (run : Runs.exec step start acts = some l) (next : l.toLeft = .streamData payload :: rest)
    (parent : l.left.done = false) :
    (payload.length ≤ l.left.child.recvCredit ∧
      payload.length ≤ managedTerminalOutputLimit - l.left.child.outputBytes) ↔
    payload.length + l.left.child.outputBytes + l.left.reader.restoring ≤
      managedMuxReceiveWindow := by
  have kept := accounted ⟨acts, run⟩
  have window := kept.windowed parent
  have arriving : payload.length ≤ (downlink l).flight := by
    simp only [downlink, next, load_cons, Message.load]
    omega
  have fits := flight_fits kept.down arriving
  have apart : l.left.reader.updating = 0 ∨ l.left.reader.restoring = 0 := by
    cases l.left.reader with
    | update => exact .inr rfl
    | _ => exact .inl rfl
  simp only [TerminalClient.Client.ledger] at window
  simp only [downlink, TerminalClient.Client.ledger] at fits
  unfold managedTerminalOutputLimit
  unfold managedMuxReceiveWindow at window fits ⊢
  omega

theorem data_fits_first :
    ∃ l, Runs.exec step start [.left acceptFrame, .right (.read [7] false), .right .forward,
        .right .forward] = some l ∧
      [(7 : UInt8)].length ≤ l.left.child.recvCredit ∧
      [(7 : UInt8)].length ≤ managedTerminalOutputLimit - l.left.child.outputBytes := by
  refine ⟨_, rfl, ?_⟩
  exact (data_fits_iff [.left acceptFrame, .right (.read [7] false), .right .forward,
    .right .forward] rfl rfl rfl).mpr (by decide)

section Overtaking

-- `chunk` is a full read of `forwardOutput`
variable {chunk : Bytes} (full : chunk.length = 32768)

def sendOnce (chunk : Bytes) : List Act :=
  [.right (.read chunk false), .right .forward, .right .forward]

include full in
theorem full_ne_nil : chunk ≠ [] := by
  rintro rfl
  cases full

include full in
theorem full_valid : validateStreamData chunk = true := by
  simp [validateStreamData, full, maxTypedStreamChunk]

include full in
/-- The process writes a chunk and the server, with credit for it, sends it. -/
theorem send_chunk {l : Link} (reading : l.right.forward = .read)
    (enough : 32768 ≤ l.right.child.sendCredit.remaining) :
    ∃ c : Credit, c.remaining + 32768 = l.right.child.sendCredit.remaining ∧
      exec step l (sendOnce chunk) = some { l with
          right := { l.right with child.sendCredit := c, forward := .read }
          toLeft := l.toLeft ++ [.streamData chunk] } := by
  have size : TerminalServer.chunkSize chunk l.right.child.sendCredit.remaining = 32768 := by
    simp only [TerminalServer.chunkSize, full, maxTypedStreamChunk]
    omega
  obtain ⟨c, hc, hleft⟩ := Credit.consume_isSome (n := 32768) (by decide) enough
  refine ⟨c, hleft, ?_⟩
  have positive : 0 < l.right.child.sendCredit.remaining := by omega
  have small : ¬ TerminalServer.forwardBufferSize < chunk.length := by
    rw [full]
    decide
  have whole : chunk.take 32768 = chunk := take_of_length_le (Nat.le_of_eq full)
  have rest : chunk.drop 32768 = [] := drop_of_length_le (Nat.le_of_eq full)
  simp [sendOnce, exec, step, Duplex.step, serverParty, TerminalServer.Act.input, Duplex.take,
    TerminalServer.step, reading, small, full_ne_nil full, TerminalServer.forwardStep, positive,
    size, hc, whole, rest]

/-- `k` chunks were sent and wait in the client's queue; everything else is at rest. -/
structure Filled (chunk : Bytes) (k : Nat) (l : Link) : Prop where
  running : l.left.done = false ∧ l.left.closed = false ∧ l.left.monitorEnded = false ∧
    l.left.live = true
  calls : l.left.reader = .free ∧ l.left.queued = []
  accepted : l.left.child.acceptedOK = true ∧ l.left.child.done = false
  queue : l.left.child.outputQueue = replicate k chunk
  recvCredit : l.left.child.recvCredit + k * 32768 = 262144
  server : l.right.isOpen = true ∧ l.right.handle = .idle ∧ l.right.forward = .read
  sendCredit : l.right.child.sendCredit.remaining + k * 32768 = 262144
  channels : l.toRight = [] ∧ l.toLeft = []

include full in
theorem Filled.outputBytes {k : Nat} {l : Link} (filled : Filled chunk k l) :
    l.left.child.outputBytes = k * 32768 := by
  rw [l.left.child.counted, filled.queue, Weights.weight_replicate, full]

/-- One more chunk is sent and delivered. -/
def fillOnce (chunk : Bytes) : List Act :=
  sendOnce chunk ++ ([.left (.deliver (.streamData chunk))] : List Act)

include full in
theorem Filled.next {k : Nat} {l : Link} (filled : Filled chunk k l) (room : k < 8) :
    ∃ l', exec step l (fillOnce chunk) = some l' ∧ Filled chunk (k + 1) l' := by
  have hsend := filled.sendCredit
  have hrecv := filled.recvCredit
  have hbytes := filled.outputBytes full
  obtain ⟨c, hc, hsent⟩ := send_chunk full filled.server.2.2 (l := l) (by omega)
  have taken : (l.left.child.receiveData chunk).isSome := by
    rw [Child.receiveData_isSome, full, hbytes]
    refine ⟨filled.accepted.1, by omega, ?_⟩
    unfold managedTerminalOutputLimit
    omega
  obtain ⟨child, hchild⟩ := isSome_iff_exists.mp taken
  obtain ⟨-, hcredit, hqueue, -, -, hok, -, hdone⟩ := Child.receiveData_eq_some hchild
  rw [full] at hcredit
  refine ⟨{ l with
    left := { l.left with child := child }
    right := { l.right with child.sendCredit := c, forward := .read } }, ?_, ?_⟩
  · refine exec_append.mpr ⟨_, hsent, ?_⟩
    simp [exec, step, Duplex.step, clientParty, TerminalClient.Act.input, Duplex.take,
      filled.channels, TerminalClient.step, filled.running, TerminalClient.deliver,
      TerminalClient.handleFrame, full_valid full, hchild, TerminalClient.Output.frames]
  · refine ⟨filled.running, filled.calls, ⟨hok.trans filled.accepted.1,
      hdone.trans filled.accepted.2⟩, ?_, ?_, ⟨filled.server.1, filled.server.2.1, rfl⟩, ?_,
      filled.channels⟩
    · rw [hqueue, filled.queue, ← replicate_succ']
    · change child.recvCredit + (k + 1) * 32768 = 262144
      omega
    · change c.remaining + (k + 1) * 32768 = 262144
      omega

include full in
theorem filled_reached (k : Nat) (room : k ≤ 8) :
    ∃ acts l, exec step start acts = some l ∧ Filled chunk k l := by
  induction k with
  | zero =>
    refine ⟨[.left acceptFrame], _, rfl, ?_⟩
    exact ⟨⟨rfl, rfl, rfl, rfl⟩, ⟨rfl, rfl⟩, ⟨rfl, rfl⟩, rfl, rfl, ⟨rfl, rfl, rfl⟩, rfl, ⟨rfl, rfl⟩⟩
  | succ k ih =>
    obtain ⟨acts, l, run, filled⟩ := ih (by omega)
    obtain ⟨l', next, filled'⟩ := filled.next full (by omega)
    exact ⟨acts ++ fillOnce chunk, l', exec_append.mpr ⟨l, run, next⟩, filled'⟩

/-- A reader takes a chunk and writes its WindowUpdate. -/
def readChunk : List Act :=
  [.left (.beginRead 32768), .left (.lockRead 0), .left (.read .run), .left (.read .wrote)]

/-- The server adds the granted credit. -/
def addCredit : List Act :=
  [.right (.receive (.streamWindowUpdate (some 32768))), .right (.handle true),
    .right (.handle true), .right (.handle true)]

include full in
theorem Filled.read {k : Nat} {l : Link} (filled : Filled chunk (k + 1) l) :
    ∃ closed child, child.recvCredit = l.left.child.recvCredit ∧ child.acceptedOK = true ∧
      exec step l readChunk = some { l with
        left := { l.left with child := child, reader := .restore chunk closed, queued := [] }
        toRight := [.streamWindowUpdate (some 32768)] } := by
  obtain ⟨closed, child, htake⟩ := Child.takeOutput_whole (filled.queue.trans replicate_succ)
    (Nat.le_of_eq full)
  obtain ⟨-, -, -, -, hrecv, hok, -, -⟩ := Child.takeOutput_spec htake
  refine ⟨closed, child, hrecv, hok.trans filled.accepted.1, ?_⟩
  have sized : ¬ managedTerminalChunkLimit < 32768 := by decide
  have positive : ¬ (32768 : Nat) = 0 := by decide
  simp [readChunk, exec, step, Duplex.step, clientParty, TerminalClient.Act.input,
    Duplex.take, TerminalClient.step, TerminalClient.beginRead, TerminalClient.lockRead,
    TerminalClient.readStep, filled.running, filled.calls, sized, positive, htake,
    full_ne_nil full, TerminalClient.Output.frames, filled.channels, full]

theorem add_credit {l : Link} {c : Credit} (opened : l.right.isOpen = true)
    (idle : l.right.handle = .idle) (granted : l.toRight = [.streamWindowUpdate (some 32768)])
    (fits : l.right.child.sendCredit.add 32768 = some c) :
    exec step l addCredit = some { l with
      right := { l.right with child.sendCredit := c, child.creditCh := true, handle := .idle }
      toRight := [] } := by
  have record := TerminalServer.opened_of_isOpen opened
  have valid : validateStreamWindowUpdate 32768 = true := by decide
  have live : l.right.live = true := by
    simp only [TerminalServer.Server.isOpen, Bool.and_eq_true] at opened
    exact opened.1
  simp [addCredit, exec, step, Duplex.step, serverParty, TerminalServer.Act.input,
    Duplex.take, granted, TerminalServer.step, TerminalServer.opensFile, idle,
    TerminalServer.route, record, valid, TerminalServer.handleStep, TerminalServer.Server.isOpen,
    live, TerminalServer.serve, fits]

include full in
/-- The queue holds the whole window when a reader grants a chunk of it back; the
server uses that credit before the reader has added it to `recvCredit`. -/
theorem overtaken : ∃ acts l, exec step start acts = some l ∧ l.toLeft = [.streamData chunk] ∧
      l.left.done = false ∧ l.left.live = true ∧ l.left.child.acceptedOK = true ∧
      l.left.child.recvCredit = 0 := by
  obtain ⟨acts, l, run, filled⟩ := filled_reached full 8 (by decide)
  obtain ⟨closed, child, hrecv, hok, hread⟩ := filled.read full
  have hsend := filled.sendCredit
  have hcredit := filled.recvCredit
  obtain ⟨c, hadd⟩ : ∃ c, l.right.child.sendCredit.add 32768 = some c := by
    refine ⟨⟨l.right.child.sendCredit.remaining + 32768, ?_⟩, ?_⟩
    · unfold maxTypedStreamWindow
      omega
    · exact Credit.add_eq_some.mpr ⟨by decide, rfl⟩
  have hc := (Credit.add_eq_some.mp hadd).2
  have hgrant := add_credit (l := { l with
      left := { l.left with child := child, reader := .restore chunk closed, queued := [] }
      toRight := [.streamWindowUpdate (some 32768)] })
    filled.server.1 filled.server.2.1 rfl hadd
  obtain ⟨c', -, hsent⟩ := send_chunk full (l := { l with
      left := { l.left with child := child, reader := .restore chunk closed, queued := [] }
      right := { l.right with child.sendCredit := c, child.creditCh := true, handle := .idle }
      toRight := [] }) filled.server.2.2 (by dsimp only; omega)
  have whole := exec_append.mpr ⟨l, run, exec_append.mpr ⟨_, hread,
    exec_append.mpr ⟨_, hgrant, hsent⟩⟩⟩
  refine ⟨_, _, whole, ?_, filled.running.1, filled.running.2.2.2, hok, ?_⟩
  · dsimp only
    rw [filled.channels.2]
    rfl
  · dsimp only
    omega

end Overtaking

/-- Credit the client has granted is used by the server, and its data refused. -/
theorem granted_data_refused :
    ∃ acts l payload, Runs.exec step start acts = some l ∧ l.toLeft = [.streamData payload] ∧
      l.left.done = false ∧ l.left.live = true ∧ l.left.child.acceptedOK = true ∧
      ¬ payload.length ≤ l.left.child.recvCredit := by
  have full : (replicate 32768 (0 : UInt8)).length = 32768 := length_replicate
  obtain ⟨acts, l, run, next, hdone, hlive, hok, hcredit⟩ := overtaken full
  refine ⟨acts, l, _, run, next, hdone, hlive, hok, ?_⟩
  rw [full, hcredit]
  decide

end TerminalLink
