import WeDecent.Library.Duplex
import WeDecent.FileClient
import WeDecent.FileServer

/-!
# One typed file stream between client and server

Both sides of an upload or a download over two FIFO channels, from the moment the
server has sent its StreamAccepted. The client's side keeps a record of the frames it
has written: what ends the stream, and in which order, decides what the peer's
`peer_close` means.
-/

namespace FileLink

open List Option StreamProtocol StreamRegistry MuxChild CreditLoop ServerLedger

structure Writer where
  client : FileClient.Client
  written : List Message

def clientParty (kind : FileKind) : Duplex.Party Writer FileClient.Act Message where
  input := FileClient.Act.input
  step w a := (FileClient.step kind w.client a).map fun r =>
    (⟨r.1, w.written ++ r.2.frames⟩, r.2.frames)

def serverParty (kind : FileKind) : Duplex.Party FileServer.Server FileServer.Act Message where
  input := FileServer.Act.input
  step := FileServer.step kind

abbrev Link := Duplex.Link Writer FileServer.Server Message

abbrev Act := Duplex.Act FileClient.Act FileServer.Act

def step (kind : FileKind) : Link → Act → Option Link :=
  Duplex.step (clientParty kind) (serverParty kind)

/-- The windows of `openUpload` and `openDownload`; `size` is the size of a download. -/
def start (kind : FileKind) (size : Nat) : Link where
  left := ⟨FileClient.Client.new, []⟩
  right := FileServer.Server.active kind size ⟨managedMuxReceiveWindow, by decide⟩
  toRight := []
  toLeft := match kind with
    | .upload => [.streamAccepted (some FileServer.typedFileReceiveWindow)]
    | .download => [.streamAccepted (some 1)]

section Moves

variable {kind : FileKind} {l l' : Link} {out : List Message}

theorem client_step {a : FileClient.Act} (moves : Duplex.LeftMoves (clientParty kind) l a out l') :
    ∃ o, FileClient.step kind l.left.client a = some (l'.left.client, o) ∧ out = o.frames ∧
      l'.left.written = l.left.written ++ out := by
  obtain ⟨⟨c, o⟩, hstep, heq⟩ := map_eq_some_iff.mp moves.step
  obtain ⟨hleft, rfl⟩ := Prod.mk.inj heq
  exact ⟨o, by rw [hstep, ← hleft], rfl, by rw [← hleft]⟩

theorem client_moves {a : FileClient.Act} (moves : Duplex.LeftMoves (clientParty kind) l a out l') :
    FileClient.Moves kind l.left.client a.input.toList out l'.left.client := by
  obtain ⟨o, hstep, rfl, -⟩ := client_step moves
  exact FileClient.step_moves hstep

theorem server_moves {a : FileServer.Act}
    (moves : Duplex.RightMoves (serverParty kind) l a out l') :
    FileServer.Moves l.right a.input.toList out l'.right :=
  (FileServer.step_stepped moves.step).moves

/-- Server to client: the receiver is the output queue and the call that reads it. -/
def downlink (l : Link) : Loop :=
  downLoop l.right.ledger l.left.client.held (credit l.toRight) (load l.toLeft)

theorem client_downlink {a : FileClient.Act}
    (moves : Duplex.LeftMoves (clientParty kind) l a out l') :
    Step (downlink l) (downlink l') := by
  have hserver := moves.right
  have hup : credit l'.toRight = credit l.toRight + credit out := by
    rw [moves.toRight, credit_append]
  have hdown : load l.toLeft = load a.input.toList + load l'.toLeft := by
    have : l.toLeft = a.input.toList ++ l'.toLeft := moves.toLeft
    rw [this, load_append]
  cases (client_moves moves).holds with
  | stay same =>
    refine .inl (.stay ?_)
    simp only [downlink, downLoop, hserver, same, Loop.mk.injEq, true_and]
    omega
  | arrive n moved =>
    refine .inl (.arrive n ?_)
    simp only [Arrive, downlink, downLoop, hserver, moved, true_and]
    omega
  | grant n moved =>
    refine .inl (.grant n ?_)
    simp only [Grant, downlink, downLoop, hserver, moved, true_and]
    omega
  | lose fewer =>
    refine .inr ⟨?_, ?_, ?_, fewer, ?_⟩
    · simp [downlink, downLoop, hserver]
    · simp [downlink, downLoop, hserver]
    · simp only [downlink, downLoop]
      omega
    · simp only [downlink, downLoop, hserver]
      omega

theorem server_downlink {a : FileServer.Act}
    (moves : Duplex.RightMoves (serverParty kind) l a out l') :
    Step (downlink l) (downlink l') := by
  have hup : credit l.toRight = credit a.input.toList + credit l'.toRight := by
    have : l.toRight = a.input.toList ++ l'.toRight := moves.toRight
    rw [this, credit_append]
  have hdown : load l'.toLeft = load l.toLeft + load out := by
    rw [moves.toLeft, load_append]
  unfold downlink
  rw [moves.left]
  exact (server_moves moves).entry.downLoop_step id hup hdown

end Moves

/-- What every run keeps, whatever the schedule. -/
structure Accounted (kind : FileKind) (l : Link) : Prop where
  sound : FileClient.Sound kind l.left.client
  windowed : l.left.client.Windowed
  down : (downlink l).total ≤ managedMuxReceiveWindow

theorem accounted_start (kind : FileKind) (size : Nat) : Accounted kind (start kind size) := by
  refine ⟨FileClient.sound_new kind, fun _ => rfl, ?_⟩
  cases kind with
  | upload => exact Nat.zero_le _
  | download => exact Nat.le_refl _

theorem accounted_step {kind : FileKind} {l l' : Link} {act : Act} (accounted : Accounted kind l)
    (hs : step kind l act = some l') : Accounted kind l' := by
  revert hs
  refine Duplex.step_preserves (Accounted kind) ?_ ?_ l act l' accounted
  · intro l a out l' accounted moves
    have hmoves := client_moves moves
    exact ⟨(hmoves.sound accounted.sound).1, hmoves.windowed accounted.windowed,
      Nat.le_trans (client_downlink moves).total_le accounted.down⟩
  · intro l b out l' accounted moves
    have hclient := moves.left
    refine ⟨?_, ?_, Nat.le_trans (server_downlink moves).total_le accounted.down⟩
    · rw [hclient]
      exact accounted.sound
    · rw [hclient]
      exact accounted.windowed

/-- In any run, until the client closes the stream, all that the server has sent or may still send
fits the client's `recvCredit` and its output limit. -/
theorem download_data_fits (kind : FileKind) (size : Nat) (acts : List Act) {l : Link}
    (run : Runs.exec (step kind) (start kind size) acts = some l)
    (unclosed : l.left.client.child.done = false) :
    load l.toLeft + l.right.ledger.staged + l.right.ledger.sendCredit ≤
        l.left.client.child.recvCredit ∧
      l.left.client.child.recvCredit + l.left.client.child.outputBytes ≤
        managedTerminalOutputLimit := by
  have kept : Accounted kind l := Runs.reachable_invariant (Accounted kind)
    (fun _ _ _ => accounted_step) (accounted_start kind size) ⟨acts, run⟩
  have window := kept.windowed unclosed
  have total := kept.down
  -- `Read` gives the credit back to `recvCredit` before it writes the WindowUpdate
  have unread := l.left.client.reader.unreturned_le
  simp only [downlink, downLoop, Loop.total, FileClient.Client.held] at total
  unfold managedMuxReceiveWindow at window total
  unfold managedTerminalOutputLimit
  omega

def sentByte : List Act :=
  .right .forward :: .right (.read [7] none) :: replicate 3 (.right .forward)

theorem download_data_fits_byte :
    ∃ l, Runs.exec (step .download) (start .download 1) sentByte = some l ∧ load l.toLeft = 1 ∧
      load l.toLeft + l.right.ledger.staged + l.right.ledger.sendCredit ≤
        l.left.client.child.recvCredit :=
  ⟨_, rfl, rfl, (download_data_fits .download 1 sentByte rfl rfl).1⟩

/-- A StreamError is the first frame among `frames` that ends the stream. -/
def cancelled (frames : List Message) : Bool :=
  match frames.find? Message.ends with
  | some (.streamError _) => true
  | _ => false

theorem cancelled_append {first second : List Message} (h : ended first = true) :
    cancelled (first ++ second) = cancelled first := by
  unfold cancelled
  obtain ⟨m, hm⟩ := isSome_iff_exists.mp (find?_isSome.mpr (List.any_eq_true.mp h))
  rw [find?_append, hm, some_or]

theorem cancelled_open {first second : List Message} (h : ended first = false) :
    cancelled (first ++ second) = cancelled second := by
  unfold cancelled
  have none : first.find? Message.ends = none :=
    find?_eq_none.mpr fun m hm => List.any_eq_false.mp h m hm
  rw [find?_append, none, none_or]

theorem cancelled_of_open {frames : List Message} (h : ended frames = false) :
    cancelled frames = false := by
  have none : frames.find? Message.ends = none :=
    find?_eq_none.mpr fun m hm => List.any_eq_false.mp h m hm
  unfold cancelled
  rw [none]

/-- A cancellation stays one, whatever is written after it. -/
theorem cancelled_mono {first : List Message} (second : List Message)
    (h : cancelled first = true) : cancelled (first ++ second) = true := by
  cases hended : ended first with
  | true => rw [cancelled_append hended, h]
  | false =>
    rw [cancelled_of_open hended] at h
    cases h

/-- `Handle` is busy with the end of the stream, or has returned an error. -/
def ending : FileServer.Handle → Bool
  | .openChild .close => true
  | .openChild .error => true
  | .serve .close => true
  | .serve .error => true
  | .closeChild _ => true
  | .closeDone _ => true
  | .endWrite _ => true
  | .returned _ => true
  | _ => false

/-- `Handle` has taken the child from the table. -/
def removed : FileServer.Handle → Bool
  | .closeDone _ => true
  | .endWrite _ => true
  | _ => false

/-- As long as the server has the stream open and does not end it, no frame it has read
ended the stream; and the frame it ends the stream for was the first to do so. -/
structure Heard (l : Link) : Prop where
  past : l.right.isOpen = true → ending l.right.handle = false →
    ∃ past, ended past = false ∧ l.left.written = past ++ l.toRight
  cancelling : (l.right.handle = .openChild .error ∧ l.right.isOpen = true) ∨
    l.right.handle = .serve .error → cancelled l.left.written = true
  closing : (l.right.handle = .openChild .close ∧ l.right.isOpen = true) ∨
    l.right.handle = .serve .close → ended l.left.written = true ∧ cancelled l.left.written = false
  gone : removed l.right.handle = true → l.right.live = false
  shut : ∀ report, l.right.forward = .closeDone report → l.right.live = false

theorem heard_start (kind : FileKind) (size : Nat) : Heard (start kind size) := by
  refine ⟨fun _ _ => ⟨[], rfl, rfl⟩, ?_, ?_, by rintro ⟨⟩, ?_⟩
  · rintro (⟨pc, -⟩ | pc) <;> cases pc
  · rintro (⟨pc, -⟩ | pc) <;> cases pc
  · cases kind <;> exact nofun

theorem isOpen_of_dead {s : FileServer.Server} (gone : s.live = false) : s.isOpen = false := by
  simp [FileServer.Server.isOpen, gone]

/-- The frames that end the stream lead `Handle` to the end of the stream, and no others
lead it there except to an error. -/
inductive Routed (m : Message) : FileServer.Handle → Prop
  | goes (req) (h : m.ends = false)
      (going : ending (.openChild req) = false) : Routed m (.openChild req)
  | close (reason) (h : m = .streamClose reason) : Routed m (.openChild .close)
  | error (code) (h : m = .streamError code) : Routed m (.openChild .error)
  | refused (err) : Routed m (.returned err)

theorem route_routed (s : FileServer.Server) (m : Message) : Routed m (FileServer.route s m) := by
  unfold FileServer.route
  split
  · split
    · split
      · exact .goes _ rfl rfl
      · exact .refused _
    · split
      · exact .goes _ rfl rfl
      · exact .refused _
    · split
      · exact .close _ rfl
      · exact .refused _
    · split
      · exact .error _ rfl
      · exact .refused _
    · exact .refused _
  · exact .refused _

section Heard

variable {kind : FileKind} {l l' : Link} {out : List Message}

section

variable (heard : Heard l)

include heard

theorem client_heard {a : FileClient.Act} (moves : Duplex.LeftMoves
    (clientParty kind) l a out l') : Heard l' := by
  obtain ⟨o, -, -, hwritten⟩ := client_step moves
  have hserver := moves.right
  refine ⟨?_, ?_, ?_, ?_, ?_⟩
  · rw [hserver, hwritten, moves.toRight]
    intro hopen going
    obtain ⟨past, hpast, heq⟩ := heard.past hopen going
    exact ⟨past, hpast, by rw [heq, append_assoc]⟩
  · rw [hserver, hwritten]
    exact fun h => cancelled_mono out (heard.cancelling h)
  · rw [hserver, hwritten]
    intro h
    obtain ⟨hended, uncancelled⟩ := heard.closing h
    rw [cancelled_append hended, ended_append, hended, Bool.true_or]
    exact ⟨rfl, uncancelled⟩
  · rw [hserver]
    exact heard.gone
  · rw [hserver]
    exact heard.shut

theorem receive_heard {m : Message} (idle : l.right.handle = .idle)
    (left : l'.left = l.left) (toRight : l.toRight = m :: l'.toRight)
    (right : l'.right = { l.right with handle := FileServer.route l.right m }) : Heard l' := by
  have past : l.right.isOpen = true → ∃ past, ended past = false ∧
      l.left.written = past ++ m :: l'.toRight := by
    rw [← toRight]
    exact fun hopen => heard.past hopen (congrArg ending idle)
  have routed := route_routed l.right m
  refine ⟨?_, ?_, ?_, ?_, ?_⟩
  · rw [right, left]
    intro hopen goes
    obtain ⟨past, hpast, heq⟩ := past hopen
    refine ⟨past ++ [m], ?_, by rw [heq, append_assoc, singleton_append]⟩
    have unended : m.ends = false := by
      generalize FileServer.route l.right m = handle at routed goes
      cases routed with
      | goes req h => exact h
      | _ => cases goes
    simp [ended_append, ended_cons, ended_nil, hpast, unended]
  · rw [right, left]
    dsimp only
    generalize FileServer.route l.right m = handle at routed
    rintro (⟨rfl, hopen⟩ | rfl)
    · cases routed with
      | goes req h going => cases going
      | error code h =>
        obtain ⟨past, hpast, heq⟩ := past hopen
        rw [heq, cancelled_open hpast, h]
        rfl
    · cases routed
  · rw [right, left]
    dsimp only
    generalize FileServer.route l.right m = handle at routed
    rintro (⟨rfl, hopen⟩ | rfl)
    · cases routed with
      | goes req h going => cases going
      | close reason h =>
        obtain ⟨past, hpast, heq⟩ := past hopen
        rw [heq, cancelled_open hpast, ended_append, hpast, h]
        exact ⟨rfl, rfl⟩
    · cases routed
  · rw [right]
    dsimp only
    generalize FileServer.route l.right m = handle at routed
    cases routed <;> rintro ⟨⟩
  · rw [right]
    exact heard.shut

/-- `Handle` goes on to a point at which it owes nothing to a frame it has read. -/
theorem Heard.onward {s' : FileServer.Server}
    (right : l'.right = s') (left : l'.left = l.left) (toRight : l'.toRight = l.toRight)
    (frame : FileServer.ServeFrame l.right s')
    (same : s'.isOpen = true → ending s'.handle = false →
      l.right.isOpen = true ∧ ending l.right.handle = false)
    (quiet : ∀ req, s'.handle ≠ .openChild req) (unserved : ∀ req, s'.handle ≠ .serve req)
    (gone : removed s'.handle = true → s'.live = false) : Heard l' := by
  refine ⟨?_, ?_, ?_, right ▸ gone, ?_⟩
  · rw [right, left, toRight]
    intro hopen going
    obtain ⟨hopen, going⟩ := same hopen going
    exact heard.past hopen going
  · rw [right]
    rintro (⟨pc, -⟩ | pc)
    · exact absurd pc (quiet _)
    · exact absurd pc (unserved _)
  · rw [right]
    rintro (⟨pc, -⟩ | pc)
    · exact absurd pc (quiet _)
    · exact absurd pc (unserved _)
  · rw [right, frame.forward]
    intro report pc
    have gone := heard.shut report pc
    rw [← Bool.not_eq_true] at gone ⊢
    exact fun live => gone (frame.live live)

theorem Heard.removes (after : FileServer.After)
    (right : l'.right = l.right.remove after) (left : l'.left = l.left)
    (toRight : l'.toRight = l.toRight)
    (frame : FileServer.ServeFrame l.right (l.right.remove after)) : Heard l' := by
  have gone := FileServer.remove_live l.right after
  refine heard.onward right left toRight frame ?_ ?_ ?_ fun _ => gone
  · rw [isOpen_of_dead gone]
    rintro ⟨⟩
  · rcases FileServer.remove_handle l.right after with h | h <;> rw [h] <;> simp
  · rcases FileServer.remove_handle l.right after with h | h <;> rw [h] <;> simp

theorem handle_heard {ok : Bool} (served : FileServer.Served kind l.right ok l'.right out)
    (left : l'.left = l.left)
    (toRight : l'.toRight = l.toRight) : Heard l' := by
  have frame := served.frame
  generalize hright : l'.right = s' at served frame
  cases served with
  | found ok req pc open_ =>
    refine ⟨?_, ?_, ?_, ?_, ?_⟩
    · rw [hright, left, toRight]
      intro hopen going
      refine heard.past hopen ?_
      rw [pc]
      cases req <;> exact going
    · rw [hright, left]
      rintro (⟨h, -⟩ | h)
      · cases h
      · cases h
        exact heard.cancelling (.inl ⟨pc, open_⟩)
    · rw [hright, left]
      rintro (⟨h, -⟩ | h)
      · cases h
      · cases h
        exact heard.closing (.inl ⟨pc, open_⟩)
    · rw [hright]
      rintro ⟨⟩
    · rw [hright]
      exact heard.shut
  | data ok payload c pc | update ok n c pc | wrote payload pc | grant ok n pc
  | restore ok n c pc | signal ok pc =>
    exact heard.onward hright left toRight frame (fun hopen _ => ⟨hopen, congrArg ending pc⟩)
      nofun nofun nofun
  | writeFailed | overflow | remove => exact heard.removes _ hright left toRight frame
  | close ok after pc =>
    refine heard.onward hright left toRight frame nofun nofun nofun ?_
    exact fun _ => heard.gone (congrArg removed pc)
  | finish ok after pc =>
    have gone : l.right.live = false := heard.gone (congrArg removed pc)
    refine heard.onward hright left toRight frame ?_ nofun nofun nofun
    intro hopen
    have closed := isOpen_of_dead gone
    exact absurd (closed.symm.trans hopen) (by rintro ⟨⟩)
  | _ =>
    exact heard.onward hright left toRight frame nofun nofun nofun nofun

theorem forward_heard {a : FileServer.Act} (forwarded :
    FileServer.Forwarded l.right a l'.right out) (left : l'.left = l.left)
    (toRight : l'.toRight = l.toRight) : Heard l' := by
  have frame := forwarded.frame
  refine ⟨?_, ?_, ?_, ?_, frame.shut⟩
  · rw [frame.handle, left, toRight]
    exact fun hopen => heard.past (frame.closes hopen)
  · rw [frame.handle, left]
    exact fun h => heard.cancelling (h.imp_left fun ⟨pc, hopen⟩ => ⟨pc, frame.closes hopen⟩)
  · rw [frame.handle, left]
    exact fun h => heard.closing (h.imp_left fun ⟨pc, hopen⟩ => ⟨pc, frame.closes hopen⟩)
  rw [frame.handle]
  intro h
  have gone := heard.gone h
  rw [← Bool.not_eq_true] at gone ⊢
  exact fun live => gone (frame.live live)

theorem server_heard {a : FileServer.Act} (moves : Duplex.RightMoves
    (serverParty kind) l a out l') : Heard l' := by
  have stepped : FileServer.Stepped kind l.right a l'.right out :=
    FileServer.step_stepped moves.step
  have toRight : l.toRight = a.input.toList ++ l'.toRight := moves.toRight
  generalize hright : l'.right = s' at stepped
  cases stepped with
  | receive m idle => exact receive_heard heard idle moves.left toRight hright
  | handle ok s' out served =>
    exact handle_heard heard (hright ▸ served) moves.left toRight.symm
  | forward a s' out silent forwarded =>
    rw [silent] at toRight
    exact forward_heard heard (hright ▸ forwarded) moves.left toRight.symm

theorem heard_step {act : Act} (hs : step kind l act = some l') : Heard l' := by
  revert hs
  exact Duplex.step_preserves Heard (fun _ _ _ _ h moves => client_heard h moves)
    (fun _ _ _ _ h moves => server_heard h moves) l act l' heard

end

end Heard

end FileLink
