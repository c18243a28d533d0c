import WeDecent.TerminalLink

/-!
# The end of a terminal and its parent

The server answers a client's frame with an error of `Handle`, and so ends the
parent with all its streams, when the frame is for a stream the server has
closed in the meantime. That happens in runs where the PTY exits, or fails,
while something of the client is on its way, and in runs where a client keeps
writing after its own StreamClose. In all other runs the end of the stream stays
its own affair.
-/

namespace TerminalIsolation

open Bool List Option StreamProtocol StreamRegistry MuxChild ServerLedger TerminalLink

/-- Program points of `Handle` at which the stream must be found open. -/
def awaitsChild : TerminalServer.Handle → Bool
  | .openChild _ => true
  | .closeStream .ack _ => true
  | _ => false

/-- Program points that only a StreamOpen or a StreamError of the client leads to. -/
def foreign : TerminalServer.Handle → Bool
  | .openReserve _ => true
  | .closeStream .silent _ => true
  | _ => false

/-- `Handle` answers the client's StreamClose. -/
def acks : TerminalServer.Handle → Bool
  | .closeStream .ack _ => true
  | .closeDone .ack => true
  | .endWrite .ack => true
  | _ => false

/-- The server closes the stream of its own accord only when nothing of the client
is on its way or waits to be looked up. -/
def serverOrderly (l : Link) : TerminalServer.Act → Bool
  | .wait =>
    match l.right.wait with
    | .closeStream _ => !l.right.isOpen || (l.toRight.isEmpty && !awaitsChild l.right.handle)
    | _ => true
  | .handle _ =>
    match l.right.handle with
    | .closeStream (.report _) _ => !l.right.isOpen || l.toRight.isEmpty
    | _ => true
  | _ => true

/-- The client writes only while the server has the stream open and its own
StreamClose is not written. -/
def clientOrderly (l : Link) : TerminalClient.Act → Bool
  | .read .wrote => l.right.isOpen && !l.left.spoken
  | .call _ .wrote => l.right.isOpen && !l.left.spoken
  | _ => true

def orderly (l : Link) : Act → Bool
  | .left a => clientOrderly l a
  | .right a => serverOrderly l a

/-- In an orderly run, what is on its way to the server finds the stream open,
the client's StreamClose is the last of it, and the credit is in balance. -/
structure Isolated (l : Link) : Prop where
  accounted : Accounted l
  running : l.right.handle.failed = false
  native : foreign l.right.handle = false
  awaited : awaitsChild l.right.handle = true → l.right.isOpen = true
  arriving : l.toRight ≠ [] → l.right.isOpen = true
  uttered : ∀ m ∈ l.toRight, TerminalClient.utters m = true
  last : EndsLast l.toRight
  polite : TerminalClient.Polite l.left
  unspoken : l.left.spoken = false → ended l.toRight = false ∧ acks l.right.handle = false
  acked : acks l.right.handle = true → l.toRight = []
  balanced : Balanced TerminalServer.typedTerminalReceiveWindow l.right.isOpen l.right.ledger

theorem isolated_start : Isolated start :=
  ⟨accounted_start, rfl, rfl, nofun, nofun, nofun, trivial, TerminalClient.polite_new,
    fun _ => ⟨rfl, rfl⟩, by rintro ⟨⟩, fun _ => rfl, trivial⟩

variable {out : List Message}

/-- The client's steps: what it writes is valid, and written while it may. -/
theorem client_isolated {l l' : Link} {a : TerminalClient.Act} (isolated : Isolated l)
    (accounted' : Accounted l') (moves : Duplex.LeftMoves clientParty l a out l')
    (horderly : clientOrderly l a = true) :
    Isolated l' := by
  obtain ⟨⟨c', o⟩, hstep, heq⟩ := map_eq_some_iff.mp moves.step
  obtain ⟨rfl, rfl⟩ := Prod.mk.inj heq
  have hserver := moves.right
  have hright := moves.toRight
  have closes := TerminalClient.step_closes hstep
  have sound := TerminalClient.step_sound isolated.accounted.sound hstep
  have allowed : o.frames ≠ [] → l.right.isOpen = true ∧ l.left.spoken = false := by
    intro writes
    have may : (l.right.isOpen && !l.left.spoken) = true := by
      rcases TerminalClient.step_writes hstep writes with rfl | ⟨i, rfl⟩
      · exact horderly
      · exact horderly
    rw [and_eq_true, not_eq_true'] at may
    exact may
  have unspoken : l'.left.spoken = false → l.left.spoken = false := by
    intro h
    rw [← not_eq_true] at h ⊢
    exact fun hspoken => h (closes.spoken hspoken)
  refine ⟨accounted', ?_, ?_, ?_, ?_, ?_, ?_, closes.polite isolated.polite, ?_, ?_, ?_⟩
  · rw [hserver]
    exact isolated.running
  · rw [hserver]
    exact isolated.native
  · rw [hserver]
    exact isolated.awaited
  · rw [hserver, hright]
    intro hne
    by_cases writes : o.frames = []
    · rw [writes, append_nil] at hne
      exact isolated.arriving hne
    · exact (allowed writes).1
  · rw [hright]
    intro m hm
    rcases mem_append.mp hm with hold | hnew
    · exact isolated.uttered m hold
    · exact sound.2 m hnew
  · rw [hright]
    -- a step writes at most one frame, and not after the StreamClose
    cases o with
    | frame m =>
      have hspoken := (allowed (cons_ne_nil m [])).2
      exact endsLast_append_one m (isolated.unspoken hspoken).1
    | _ =>
      simp only [TerminalClient.Output.frames, append_nil]
      exact isolated.last
  · rw [hserver, hright]
    intro hspoken
    obtain ⟨hended, hacks⟩ := isolated.unspoken (unspoken hspoken)
    refine ⟨?_, hacks⟩
    rw [ended_append, hended, Bool.false_or, ← not_eq_true]
    intro hends
    rw [closes.last isolated.polite hends] at hspoken
    cases hspoken
  · rw [hserver, hright]
    intro hacks
    rw [isolated.acked hacks, nil_append]
    by_contra writes
    have := (isolated.unspoken (allowed writes).2).2
    rw [hacks] at this
    cases this
  · rw [hserver]
    exact isolated.balanced

/-- A server step after which `Handle` goes on keeps the balance, if frames are taken
only while the stream is open. -/
theorem balanced_step {s s' : TerminalServer.Server} {input : List Message}
    (balanced : Balanced TerminalServer.typedTerminalReceiveWindow s.isOpen s.ledger)
    (begun : s.begun) (entry : TerminalServer.Entry s input out s')
    (later : s'.alive = true → s.alive = true) (running : s'.handle.failed = false)
    (open_ : input ≠ [] → s.isOpen = true) :
    Balanced TerminalServer.typedTerminalReceiveWindow s'.isOpen s'.ledger := by
  refine balanced.step entry ?_ ?_ ?_ open_
  · rw [begun.2]
    rintro ⟨⟩
  · intro hopen
    have halive : s'.alive = true := by
      simp [TerminalServer.Server.alive, hopen, running]
    have := later halive
    simp only [TerminalServer.Server.alive, and_eq_true] at this
    exact this.1
  · intro h
    simpa [TerminalServer.Server.alive, running] using h

section Credit

variable {l : Link} {n : Nat} (isolated : Isolated l)

include isolated

theorem Isolated.data_fits (arrived : l.right.handle.place = .inArrival n) :
    0 < n ∧ n ≤ l.right.child.recvCredit.remaining :=
  isolated.balanced.data_fits (by decide) arrived

theorem Isolated.update_fits (arrived : l.right.handle.place = .inReturn n) :
    0 < n ∧ l.right.child.sendCredit.remaining + n ≤ maxTypedStreamWindow := by
  have sized := isolated.balanced.sized
  have total := isolated.accounted.down
  simp only [downlink, CreditLoop.Loop.total, TerminalServer.Server.ledger, arrived,
    Place.returning, managedMuxReceiveWindow] at total
  simp only [TerminalServer.Server.ledger, arrived] at sized
  exact ⟨sized, by simp only [maxTypedStreamWindow]; omega⟩

theorem Isolated.restore_fits (owed : l.right.handle.place = .inDebt n) :
    0 < n ∧ l.right.child.recvCredit.remaining + n ≤ maxTypedStreamWindow :=
  isolated.balanced.restore_fits (by decide) owed

end Credit

/-- What a server step that takes no frame owes to the rest of the invariant. -/
structure Guarded (l : Link) (s' : TerminalServer.Server) : Prop where
  running : s'.handle.failed = false
  native : foreign s'.handle = false
  awaited : awaitsChild s'.handle = true → s'.isOpen = true
  arriving : l.toRight ≠ [] → s'.isOpen = true
  acks : acks s'.handle = true → acks l.right.handle = true

section Guarded

variable {l : Link} {s' : TerminalServer.Server} {out : List Message} (isolated : Isolated l)

include isolated

theorem Isolated.same_handle (handle : s'.handle = l.right.handle)
    (same : s'.isOpen = l.right.isOpen) : Guarded l s' :=
  ⟨handle ▸ isolated.running, handle ▸ isolated.native,
    fun h => same ▸ isolated.awaited (handle ▸ h), fun h => same ▸ isolated.arriving h,
    fun h => handle ▸ h⟩

/-- `Handle` goes on to a point that needs no open stream. -/
theorem Isolated.onward (same : s'.isOpen = l.right.isOpen)
    (running : s'.handle.failed = false) (native : foreign s'.handle = false)
    (awaits : awaitsChild s'.handle = false)
    (acked : acks s'.handle = true → acks l.right.handle = true) : Guarded l s' := by
  refine ⟨running, native, ?_, fun h => same ▸ isolated.arriving h, acked⟩
  rw [awaits]
  rintro ⟨⟩

/-- In an isolated run `Handle` has no reason to end the session. -/
theorem Isolated.not_rejected : ¬TerminalServer.Rejects l.right := by
  intro rejects
  cases rejects with
  | reserve at_ =>
    have := isolated.native
    rw [at_] at this
    cases this
  | missing closed at_ => cases closed.symm.trans (isolated.awaited (by rw [at_]; rfl))
  | data refused at_ =>
    obtain ⟨pos, fits⟩ := isolated.data_fits (congrArg TerminalServer.Handle.place at_)
    obtain ⟨c, hc, -⟩ := Credit.consume_isSome pos fits
    cases refused.symm.trans hc
  | update refused at_ =>
    obtain ⟨pos, fits⟩ := isolated.update_fits (congrArg TerminalServer.Handle.place at_)
    rcases Credit.add_eq_none.mp refused with h | h <;> omega
  | overflow full at_ =>
    obtain ⟨pos, fits⟩ := isolated.restore_fits (congrArg TerminalServer.Handle.place at_)
    rcases Credit.add_eq_none.mp full with h | h <;> omega
  | @shut after unwritten closed quiet at_ =>
    cases after with
    | report code => exact quiet code rfl
    | ack => cases closed.symm.trans (isolated.awaited (by rw [at_]; rfl))
    | silent =>
      have := isolated.native
      rw [at_] at this
      cases this

theorem handle_guarded {ok : Bool} (orderly : serverOrderly l (.handle ok) = true)
    (handled : TerminalServer.Handled l.right s' out) : Guarded l s' := by
  have begun := isolated.accounted.begun.2
  have native := isolated.native
  cases handled with
  | rejects why => exact absurd why isolated.not_rejected
  | reserves _ at_ =>
    rw [at_] at native
    cases native
  | starts at_ =>
    rw [at_] at begun
    cases begun
  | refuses _ _ at_ =>
    rw [at_] at begun
    cases begun
  | @shuts after unwritten opened at_ =>
    -- the stream closes here, and the orderly run has nothing left for it
    have clear : l.toRight = [] := by
      cases after with
      | report =>
        simpa [serverOrderly, at_, opened] using orderly
      | ack => exact isolated.acked (by rw [at_]; rfl)
      | silent =>
        rw [at_] at native
        cases native
    refine ⟨rfl, rfl, by rintro ⟨⟩, fun hne => absurd clear hne, ?_⟩
    rw [at_]
    cases after <;> exact id
  | @marks after at_ =>
    refine isolated.onward rfl rfl rfl rfl ?_
    rw [at_]
    cases after <;> exact id
  | _ => exact isolated.onward rfl rfl rfl rfl (by rintro ⟨⟩)

/-- A server step that takes no frame. -/
theorem silent_guarded {a : TerminalServer.Act} (silent : a.input = none)
    (orderly : serverOrderly l a = true)
    (h : TerminalServer.step l.right a = some (s', out)) : Guarded l s' := by
  cases TerminalServer.step_stepped h with
  | receives => cases silent
  | handles _ handled => exact handle_guarded isolated orderly handled
  | shuts at_ opened =>
    simp only [serverOrderly, at_, opened, Bool.not_true, Bool.false_or, and_eq_true,
      List.isEmpty_iff, not_eq_true'] at orderly
    refine ⟨isolated.running, isolated.native, ?_, fun hne => absurd orderly.1 hne, id⟩
    intro awaits
    rw [orderly.2] at awaits
    cases awaits
  | _ => exact isolated.same_handle rfl rfl

end Guarded

/-- A frame of a terminal client finds its way to the open stream. -/
theorem route_uttered {s : TerminalServer.Server} {m : Message} (hopen : s.isOpen = true)
    (uttered : TerminalClient.utters m = true) :
    (∃ req, TerminalServer.route s m = .openChild req ∧ m.ends = false) ∨
      (TerminalServer.route s m = .closeStream .ack none ∧ m.ends = true) := by
  have opened : s.record = some .opening ∨ s.record = some .opened :=
    .inr (TerminalServer.opened_of_isOpen hopen)
  cases m with
  | streamData payload =>
    refine .inl ⟨.data payload, ?_, rfl⟩
    have valid : validateStreamData payload = true := uttered
    simp [TerminalServer.route, if_pos opened, valid]
  | streamWindowUpdate bytes =>
    cases bytes with
    | none => cases uttered
    | some n =>
      refine .inl ⟨.update n, ?_, rfl⟩
      have valid : validateStreamWindowUpdate n = true := uttered
      simp [TerminalServer.route, if_pos opened, valid]
  | streamResize size =>
    cases size with
    | none => cases uttered
    | some size =>
      refine .inl ⟨.resize size, ?_, rfl⟩
      have valid : validateStreamResize size = true := uttered
      simp [TerminalServer.route, if_pos opened, valid]
  | streamClose reason =>
    cases reason with
    | none => cases uttered
    | some reason =>
      refine .inr ⟨?_, rfl⟩
      obtain rfl : reason = .clientClose := of_decide_eq_true uttered
      simp [TerminalServer.route, if_pos opened, validateStreamClose]
  | _ => cases uttered

theorem silent_isolated {l l' : Link} {a : TerminalServer.Act} (isolated : Isolated l)
    (accounted' : Accounted l') (moves : Duplex.RightMoves serverParty l a out l')
    (silent : a.input = none) (orderly : serverOrderly l a = true) : Isolated l' := by
  have guarded := silent_guarded isolated silent orderly moves.step
  have hleft := moves.left
  have hright : l'.toRight = l.toRight := by
    have := moves.toRight
    simp only [serverParty, silent, toList_none, nil_append] at this
    exact this.symm
  have balanced := balanced_step isolated.balanced isolated.accounted.begun (server_entry moves)
    (TerminalServer.step_later isolated.accounted.begun moves.step).alive guarded.running
    (by rw [silent]; exact fun h => absurd rfl h)
  refine ⟨accounted', guarded.running, guarded.native, guarded.awaited, ?_, ?_, ?_, ?_, ?_, ?_,
    balanced⟩
  · rw [hright]
    exact guarded.arriving
  · rw [hright]
    exact isolated.uttered
  · rw [hright]
    exact isolated.last
  · rw [hleft]
    exact isolated.polite
  · rw [hleft, hright]
    intro hspoken
    obtain ⟨hended, hacks⟩ := isolated.unspoken hspoken
    refine ⟨hended, ?_⟩
    rw [← not_eq_true] at hacks ⊢
    exact fun h => hacks (guarded.acks h)
  · rw [hright]
    exact fun h => isolated.acked (guarded.acks h)

theorem receive_isolated {l l' : Link} {m : Message} (isolated : Isolated l)
    (accounted' : Accounted l') (moves : Duplex.RightMoves serverParty l (.receive m) out l') :
    Isolated l' := by
  have hleft := moves.left
  have htoRight : l.toRight = m :: l'.toRight := moves.toRight
  have hopen : l.right.isOpen = true := isolated.arriving (by rw [htoRight]; rintro ⟨⟩)
  have uttered := isolated.uttered
  have last := isolated.last
  rw [htoRight] at uttered last
  have hstep : TerminalServer.step l.right (.receive m) = some (l'.right, out) := moves.step
  have later := TerminalServer.step_later isolated.accounted.begun hstep
  have hserver : l'.right = { l.right with handle := TerminalServer.route l.right m } := by
    have stepped := TerminalServer.step_stepped hstep
    generalize l'.right = s' at stepped
    cases stepped with
    | receives => rfl
    | forwards input => cases input
    | waits input => cases input
  have hopen' : l'.right.isOpen = true := by
    rw [hserver]
    exact hopen
  have routed := route_uttered hopen (uttered m mem_cons_self)
  have running : l'.right.handle.failed = false := by
    rw [hserver]
    rcases routed with ⟨req, hreq, -⟩ | ⟨hack, -⟩
    · simp [hreq, TerminalServer.Handle.failed]
    · simp [hack, TerminalServer.Handle.failed]
  have balanced := balanced_step isolated.balanced isolated.accounted.begun (server_entry moves)
    later.alive running (fun _ => hopen)
  refine ⟨accounted', running, ?_, fun _ => hopen', fun _ => hopen',
    fun f hf => uttered f (mem_cons_of_mem m hf), last.2, ?_, ?_, ?_, balanced⟩
  · rw [hserver]
    rcases routed with ⟨req, hreq, -⟩ | ⟨hack, -⟩
    · simp [hreq, foreign]
    · simp [hack, foreign]
  · rw [hleft]
    exact isolated.polite
  · rw [hleft, hserver]
    intro hspoken
    have hended := (isolated.unspoken hspoken).1
    rw [htoRight, ended_cons, or_eq_false_iff] at hended
    refine ⟨hended.2, ?_⟩
    rcases routed with ⟨req, hreq, -⟩ | ⟨-, hends⟩
    · simp [hreq, acks]
    · rw [hends] at hended
      cases hended.1
  · rw [hserver]
    intro hacks
    rcases routed with ⟨req, hreq, -⟩ | ⟨-, hends⟩
    · simp only [hreq, acks] at hacks
      cases hacks
    · exact last.1 hends

theorem isolated_step (l : Link) (act : Act) (l' : Link) (isolated : Isolated l)
    (horderly : orderly l act = true) (hs : step l act = some l') : Isolated l' := by
  have accounted' := accounted_step isolated.accounted hs
  cases act with
  | left =>
    obtain ⟨out, moves⟩ := Duplex.step_left hs
    exact client_isolated isolated accounted' moves horderly
  | right b =>
    obtain ⟨out, moves⟩ := Duplex.step_right hs
    cases b with
    | receive => exact receive_isolated isolated accounted' moves
    | _ => exact silent_isolated isolated accounted' moves rfl horderly

/-- In an orderly run no frame of the client ends the session, whenever the PTY exits. -/
theorem child_end_isolated (acts : List Act) {l : Link}
    (meets : Runs.Meets step (fun l a => orderly l a = true) start acts)
    (run : Runs.exec step start acts = some l) : ∀ e, l.right.handle ≠ .returned e := by
  have isolated : Isolated l :=
    Runs.exec_invariant Isolated isolated_step isolated_start meets run
  intro e failed
  have running := isolated.running
  rw [failed] at running
  cases running

/-- The PTY exits and its last frames are written. -/
def exitSteps : List Act := [.right .exit, .right (.read [] true), .right (.select .readDone),
  .right .wait, .right .wait, .right .wait]

def resizeSteps : List Act := [.left acceptFrame, .left (.beginResize ⟨80, 24⟩),
  .left (.call 0 .wrote)]

def answerSteps : List Act := [.right (.receive (.streamResize (some ⟨80, 24⟩))),
  .right (.handle true), .right (.handle true)]

/-- A resize is answered, then the PTY exits. -/
theorem child_end_isolated_answered :
    ∃ l, Runs.exec step start (resizeSteps ++ answerSteps ++ exitSteps) = some l ∧
      l.right.isOpen = false ∧ ∀ e, l.right.handle ≠ .returned e :=
  ⟨_, rfl, rfl, child_end_isolated (resizeSteps ++ answerSteps ++ exitSteps) (by decide) rfl⟩

/-- The PTY exits while the resize is on its way. -/
theorem frame_after_exit_ends_parent :
    ∃ l, Runs.exec step start (resizeSteps ++ exitSteps ++ answerSteps.take 1) = some l ∧
      l.right.handle = .returned .typedStreamProtocol ∧ l.left.done = false :=
  ⟨_, rfl, rfl, rfl⟩

end TerminalIsolation
