import WeDecent.FileLink

/-!
# The failure of a file transfer and its parent

A file child that fails is closed before its client can know, and the dispatcher
answers whatever the client has sent in the meantime with an error that ends the
session. A transfer that fails with nothing of the client on its way ends alone, as
does one whose client is silent after the frame that ends its stream.
-/

namespace FileIsolation

open Bool List Option StreamProtocol StreamRegistry MuxChild ServerLedger FileLink

/-- `Handle` is about to look the child up. -/
def awaitsChild : FileServer.Handle → Bool
  | .openChild _ => true
  | _ => false

/-- `Handle` has read a frame that ends the stream, and the child is still in the table. -/
def concluding : FileServer.Handle → Bool
  | .openChild .close => true
  | .openChild .error => true
  | .serve .close => true
  | .serve .error => true
  | .closeChild _ => true
  | _ => false

/-- The server fails a transfer only when nothing of the client is on its way or waits
to be looked up. -/
def serverOrderly (l : Link) : FileServer.Act → Bool
  | .handle ok =>
    match l.right.handle with
    | .dataWrite _ => ok || l.toRight.isEmpty
    | _ => true
  | .forward =>
    match l.right.forward with
    | .closeChild _ => !l.right.live || (l.toRight.isEmpty && !awaitsChild l.right.handle)
    | _ => true
  | _ => true

/-- The client writes only while the server has the stream open and no frame that ends
the stream is written. -/
def clientOrderly (l : Link) : FileClient.Act → Bool
  | .read .wrote => l.right.isOpen && !ended l.left.written
  | .call _ .wrote => l.right.isOpen && !ended l.left.written
  | .monitor .wrote => l.right.isOpen && !ended l.left.written
  | _ => true

def orderly (l : Link) : Act → Bool
  | .left a => clientOrderly l a
  | .right a => serverOrderly l a

/-- `Handle` is where a client of this kind brings it. -/
def suits (kind : FileKind) : FileServer.Handle → Prop
  | .openChild (.data _) => kind = .upload
  | .serve (.data _) => kind = .upload
  | .dataWrite _ => kind = .upload
  | .dataGrant _ => kind = .upload
  | .dataRestore _ => kind = .upload
  | .openChild (.update _) => kind = .download
  | .serve (.update _) => kind = .download
  | .closeChild (.raise _) => False
  | .closeDone (.raise _) => False
  | .endWrite (.raise _) => False
  | .returned _ => False
  | _ => True

/-- The window of the client's data. -/
def window : FileKind → Nat
  | .upload => FileServer.typedFileReceiveWindow
  | .download => 0

/-- In an orderly run, what is on its way to the server finds the stream open, the frame
that ends the stream is the last of it, and the credit is in balance. -/
structure Isolated (kind : FileKind) (l : Link) : Prop where
  accounted : Accounted kind l
  heard : Heard l
  suited : suits kind l.right.handle
  awaited : awaitsChild l.right.handle = true → l.right.isOpen = true
  arriving : l.toRight ≠ [] → l.right.isOpen = true
  uttered : ∀ m ∈ l.toRight, FileClient.utters kind m = true
  last : EndsLast l.toRight
  concluded : concluding l.right.handle = true → ended l.left.written = true ∧ l.toRight = []
  balanced : Balanced (window kind) l.right.isOpen l.right.ledger

theorem isolated_start (kind : FileKind) (size : Nat) : Isolated kind (start kind size) := by
  refine ⟨accounted_start kind size, heard_start kind size, trivial, nofun, nofun, nofun, trivial,
    (by rintro ⟨⟩), ?_⟩
  cases kind with
  | upload => exact ⟨fun _ => rfl, trivial⟩
  | download => exact ⟨fun _ => rfl, trivial⟩

variable {kind : FileKind}

theorem running_of_suited {handle : FileServer.Handle} (suited : suits kind handle) :
    handle.failed = false := by
  cases handle with
  | returned => cases suited
  | _ => rfl

/-- Where the stream is open and the client has not ended it, `Handle` does not end it. -/
theorem Isolated.going {l : Link} (isolated : Isolated kind l) (hopen : l.right.isOpen = true)
    (unended : ended l.left.written = false) :
    ending l.right.handle = false := by
  rw [← not_eq_true]
  intro h
  have unconcluded : concluding l.right.handle = false := by
    rw [← not_eq_true]
    intro hc
    rw [(isolated.concluded hc).1] at unended
    cases unended
  have present : removed l.right.handle = false := by
    rw [← not_eq_true]
    intro hr
    rw [isOpen_of_dead (isolated.heard.gone hr)] at hopen
    cases hopen
  have running := running_of_suited isolated.suited
  generalize l.right.handle = handle at h unconcluded present running
  cases handle with
  | openChild req => cases req <;> simp_all [ending, concluding]
  | serve req => cases req <;> simp_all [ending, concluding]
  | _ => simp_all [ending, concluding, removed, FileServer.Handle.failed]

theorem Isolated.toRight_open {l : Link} (isolated : Isolated kind l)
    (hopen : l.right.isOpen = true) (unended : ended l.left.written = false) :
    ended l.toRight = false := by
  obtain ⟨past, -, heq⟩ := isolated.heard.past hopen (isolated.going hopen unended)
  rw [heq, ended_append, or_eq_false_iff] at unended
  exact unended.2

section Client

variable {kind : FileKind} {l l' : Link} {a : FileClient.Act} {out : List Message}

/-- The client's steps: what it writes is valid, and written while it may. -/
theorem client_isolated (isolated : Isolated kind l) (accounted' : Accounted kind l')
    (heard' : Heard l') (moves : Duplex.LeftMoves (clientParty kind) l a out l')
    (horderly : clientOrderly l a = true) : Isolated kind l' := by
  obtain ⟨o, hstep, rfl, hwritten⟩ := client_step moves
  have hserver := moves.right
  have hright := moves.toRight
  have uttered := ((FileClient.step_moves hstep).sound isolated.accounted.sound).2
  have writes : o.frames = [] ∨ (∃ m, o.frames = [m]) ∧ l.right.isOpen = true ∧
      ended l.left.written = false := by
    refine (FileClient.step_writes hstep).imp_right ?_
    rintro ⟨⟨m, rfl⟩, hact⟩
    have may : (l.right.isOpen && !ended l.left.written) = true := by
      rcases hact with rfl | ⟨i, rfl⟩ | rfl
      · exact horderly
      · exact horderly
      · exact horderly
    rw [and_eq_true, not_eq_true'] at may
    exact ⟨⟨m, rfl⟩, may⟩
  refine ⟨accounted', heard', ?_, ?_, ?_, ?_, ?_, ?_, ?_⟩
  · rw [hserver]
    exact isolated.suited
  · rw [hserver]
    exact isolated.awaited
  · rw [hserver, hright]
    intro hne
    rcases writes with silent | ⟨-, hopen, -⟩
    · rw [silent, append_nil] at hne
      exact isolated.arriving hne
    · exact hopen
  · rw [hright]
    intro m hm
    rcases mem_append.mp hm with hold | hnew
    · exact isolated.uttered m hold
    · exact uttered m hnew
  · rw [hright]
    rcases writes with silent | ⟨⟨m, hm⟩, hopen, unended⟩
    · rw [silent, append_nil]
      exact isolated.last
    · rw [hm]
      exact endsLast_append_one m (isolated.toRight_open hopen unended)
  · rw [hserver, hright, hwritten]
    intro hc
    obtain ⟨hended, empty⟩ := isolated.concluded hc
    rcases writes with silent | ⟨-, -, unended⟩
    · rw [silent, append_nil, append_nil]
      exact ⟨hended, empty⟩
    · rw [hended] at unended
      cases unended
  · rw [hserver]
    exact isolated.balanced

end Client

/-- A server step after which `Handle` goes on keeps the balance, if frames are taken
only while the stream is open. -/
theorem balanced_step {s s' : FileServer.Server} {input out : List Message}
    (balanced : Balanced (window kind) s.isOpen s.ledger) (moves : FileServer.Moves s input out s')
    (running : s'.handle.failed = false) (open_ : input ≠ [] → s.isOpen = true) :
    Balanced (window kind) s'.isOpen s'.ledger := by
  refine balanced.step moves.entry id ?_ ?_ open_
  · intro hopen
    have := moves.later (FileServer.alive_of hopen running)
    simp only [FileServer.Server.alive, and_eq_true] at this
    exact this.1
  · intro h
    simpa [FileServer.Server.alive, running] using h

section Credit

variable {kind : FileKind} {l : Link} {n : Nat} (isolated : Isolated kind l)

include isolated

theorem Isolated.data_fits (upload : kind = .upload)
    (arrived : l.right.handle.place = .inArrival n) :
    0 < n ∧ n ≤ l.right.child.recvCredit.remaining := by
  refine isolated.balanced.data_fits ?_ arrived
  rw [upload]
  decide

theorem Isolated.update_fits (arrived : l.right.handle.place = .inReturn n) :
    0 < n ∧ l.right.child.sendCredit.remaining + n ≤ maxTypedStreamWindow := by
  have sized := isolated.balanced.sized
  have total := isolated.accounted.down
  simp only [downlink, downLoop, CreditLoop.Loop.total, FileServer.Server.ledger, arrived,
    Place.returning, managedMuxReceiveWindow] at total
  simp only [FileServer.Server.ledger, arrived] at sized
  exact ⟨sized, by simp only [maxTypedStreamWindow]; omega⟩

theorem Isolated.restore_fits (owed : l.right.handle.place = .inDebt n) :
    0 < n ∧ l.right.child.recvCredit.remaining + n ≤ maxTypedStreamWindow := by
  refine isolated.balanced.restore_fits ?_ owed
  cases kind <;> decide

end Credit

/-- What a server step that takes no frame owes to the rest of the invariant. -/
structure Guarded (kind : FileKind) (l : Link) (s' : FileServer.Server) : Prop where
  suited : suits kind s'.handle
  awaited : awaitsChild s'.handle = true → s'.isOpen = true
  arriving : l.toRight ≠ [] → s'.isOpen = true
  concluded : concluding s'.handle = true → concluding l.right.handle = true

/-- `Handle` takes the child from the table when nothing is left for it. -/
theorem guarded_remove {l : Link} (after : FileServer.After) (clear : l.toRight = [])
    (calm : ∀ err, after ≠ .raise err) :
    Guarded kind l (l.right.remove after) := by
  refine ⟨?_, ?_, fun h => absurd clear h, ?_⟩
  · rcases FileServer.remove_handle l.right after with h | h
    · rw [h]
      cases after with
      | raise err => exact absurd rfl (calm err)
      | _ => trivial
    · rw [h]
      cases after with
      | raise err => exact absurd rfl (calm err)
      | _ => trivial
  · rcases FileServer.remove_handle l.right after with h | h <;> rw [h] <;> rintro ⟨⟩
  · rcases FileServer.remove_handle l.right after with h | h <;> rw [h] <;> rintro ⟨⟩

section Guarded

variable {kind : FileKind} {l : Link} {s' : FileServer.Server} {out : List Message}
  (isolated : Isolated kind l)

include isolated

/-- `Handle` goes on to a point that needs no open stream. -/
theorem Isolated.onward (same : s'.isOpen = l.right.isOpen) (suited : suits kind s'.handle)
    (awaits : awaitsChild s'.handle = false)
    (concluded : concluding s'.handle = true → concluding l.right.handle = true) :
    Guarded kind l s' := by
  refine ⟨suited, ?_, fun h => same ▸ isolated.arriving h, concluded⟩
  rw [awaits]
  rintro ⟨⟩

/-- Nothing is on its way to a stream that `Handle` has taken from the table. -/
theorem Isolated.clear_of_removed (h : removed l.right.handle = true) : l.toRight = [] := by
  by_contra hne
  have hopen := isolated.arriving hne
  rw [isOpen_of_dead (isolated.heard.gone h)] at hopen
  cases hopen

theorem handle_guarded {ok : Bool} (horderly : serverOrderly l (.handle ok) = true)
    (served : FileServer.Served kind l.right ok s' out) : Guarded kind l s' := by
  have suited := isolated.suited
  cases served with
  | found ok req pc =>
    rw [pc] at suited
    refine isolated.onward rfl ?_ rfl ?_
    · cases req <;> exact suited
    · rw [pc]
      cases req <;> exact id
  | missing ok req pc closed =>
    have hopen := isolated.awaited (congrArg awaitsChild pc)
    rw [closed] at hopen
    cases hopen
  | data ok payload c pc upload => exact isolated.onward rfl upload rfl (by rintro ⟨⟩)
  | dataRefused ok payload pc refused =>
    rw [pc] at suited
    obtain ⟨pos, fits⟩ := isolated.data_fits suited (congrArg FileServer.Handle.place pc)
    obtain ⟨c, hc, -⟩ := Credit.consume_isSome pos fits
    rw [refused suited] at hc
    cases hc
  | updateRefused ok n pc refused =>
    rw [pc] at suited
    obtain ⟨pos, fits⟩ := isolated.update_fits (congrArg FileServer.Handle.place pc)
    rcases Credit.add_eq_none.mp (refused suited) with h | h <;> omega
  | commit pc | commitFailed pc | peerError ok pc =>
    exact isolated.onward rfl trivial rfl fun _ => congrArg concluding pc
  | peerClose ok pc =>
    refine isolated.onward rfl ?_ rfl fun _ => congrArg concluding pc
    dsimp only
    split <;> trivial
  | wrote payload pc | grant ok n pc =>
    exact isolated.onward rfl (by rwa [pc] at suited) rfl (by rintro ⟨⟩)
  | writeFailed payload pc =>
    -- the transfer fails here, and the orderly run has nothing on its way to it
    simp only [serverOrderly, pc, Bool.false_or, List.isEmpty_iff] at horderly
    exact guarded_remove _ horderly (by simp)
  | overflow ok n pc full =>
    obtain ⟨pos, fits⟩ := isolated.restore_fits (congrArg FileServer.Handle.place pc)
    rcases Credit.add_eq_none.mp full with h | h <;> omega
  | remove ok after pc =>
    rw [pc] at suited
    refine guarded_remove after (isolated.concluded (congrArg concluding pc)).2 ?_
    rintro err rfl
    exact suited
  | close ok after pc =>
    rw [pc] at suited
    have clear := isolated.clear_of_removed (congrArg removed pc)
    refine ⟨?_, by rintro ⟨⟩, fun h => absurd clear h, by rintro ⟨⟩⟩
    cases after <;> exact suited
  | raise ok err pc =>
    rw [pc] at suited
    exact suited.elim
  | finish ok after pc =>
    have clear := isolated.clear_of_removed (congrArg removed pc)
    exact ⟨trivial, by rintro ⟨⟩, fun h => absurd clear h, by rintro ⟨⟩⟩
  | _ => exact isolated.onward rfl trivial rfl (by rintro ⟨⟩)

theorem forward_guarded {a : FileServer.Act} (horderly : serverOrderly l a = true)
    (forwarded : FileServer.Forwarded l.right a s' out) : Guarded kind l s' := by
  have same (handle : s'.handle = l.right.handle) (hopen : s'.isOpen = l.right.isOpen) :
      Guarded kind l s' :=
    ⟨handle ▸ isolated.suited, fun h => hopen ▸ isolated.awaited (handle ▸ h),
      fun h => hopen ▸ isolated.arriving h, fun h => handle ▸ h⟩
  cases forwarded with
  | remove report pc live =>
    simp only [serverOrderly, pc, live, Bool.not_true, Bool.false_or, and_eq_true,
      List.isEmpty_iff, not_eq_true'] at horderly
    refine ⟨isolated.suited, ?_, fun h => absurd horderly.1 h, id⟩
    intro awaits
    rw [horderly.2] at awaits
    cases awaits
  | close report pc =>
    -- the child left the table one step earlier
    refine same rfl ?_
    simp [FileServer.Server.isOpen, FileServer.Server.close, isolated.heard.shut report pc]
  | _ => exact same rfl rfl

end Guarded

/-- A frame of a client of this kind finds its way to the open stream. -/
theorem route_uttered {s : FileServer.Server} {m : Message} (hopen : s.isOpen = true)
    (uttered : FileClient.utters kind m = true) :
    ∃ req, FileServer.route s m = .openChild req ∧ suits kind (.openChild req) ∧
      concluding (.openChild req) = m.ends := by
  have opened : s.record = some .opening ∨ s.record = some .opened := by
    simp only [FileServer.Server.isOpen, and_eq_true, decide_eq_true_eq] at hopen
    exact .inr hopen.2
  cases m with
  | streamData payload =>
    simp only [FileClient.utters, and_eq_true, decide_eq_true_eq] at uttered
    refine ⟨.data payload, ?_, uttered.1, rfl⟩
    simp [FileServer.route, if_pos opened, uttered.2]
  | streamWindowUpdate bytes =>
    cases bytes with
    | none => cases uttered
    | some n =>
      simp only [FileClient.utters, and_eq_true, decide_eq_true_eq] at uttered
      refine ⟨.update n, ?_, uttered.1, rfl⟩
      simp [FileServer.route, if_pos opened, uttered.2]
  | streamClose reason =>
    cases reason with
    | none => cases uttered
    | some reason =>
      refine ⟨.close, ?_, trivial, rfl⟩
      have valid : validateStreamClose reason = true := by
        rcases of_decide_eq_true uttered with rfl | rfl <;> rfl
      simp [FileServer.route, if_pos opened, valid]
  | streamError code =>
    cases code with
    | none => cases uttered
    | some code =>
      refine ⟨.error, ?_, trivial, rfl⟩
      obtain rfl : code = .clientCancelled := of_decide_eq_true uttered
      simp [FileServer.route, if_pos opened, validateStreamError]
  | _ => cases uttered

section Server

variable {kind : FileKind} {l l' : Link} {out : List Message}

theorem guarded_isolated {a : FileServer.Act} (isolated : Isolated kind l)
    (accounted' : Accounted kind l') (heard' : Heard l')
    (moves : Duplex.RightMoves (serverParty kind) l a out l') (silent : a.input = none)
    (guarded : Guarded kind l l'.right) : Isolated kind l' := by
  have hleft := moves.left
  have hright : l'.toRight = l.toRight := by
    have := moves.toRight
    simp only [serverParty, silent, toList_none, nil_append] at this
    exact this.symm
  have balanced := balanced_step isolated.balanced (server_moves moves)
    (running_of_suited guarded.suited) (by rw [silent]; exact fun h => absurd rfl h)
  refine ⟨accounted', heard', guarded.suited, guarded.awaited, ?_, ?_, ?_, ?_, balanced⟩
  · rw [hright]
    exact guarded.arriving
  · rw [hright]
    exact isolated.uttered
  · rw [hright]
    exact isolated.last
  · rw [hleft, hright]
    exact fun h => isolated.concluded (guarded.concluded h)

theorem receive_isolated {m : Message} (isolated : Isolated kind l)
    (accounted' : Accounted kind l') (heard' : Heard l')
    (moves : Duplex.RightMoves (serverParty kind) l (.receive m) out l')
    (idle : l.right.handle = .idle)
    (hserver : l'.right = { l.right with handle := FileServer.route l.right m }) :
    Isolated kind l' := by
  have hleft := moves.left
  have htoRight : l.toRight = m :: l'.toRight := moves.toRight
  have hopen : l.right.isOpen = true := isolated.arriving (by rw [htoRight]; rintro ⟨⟩)
  have uttered := isolated.uttered
  have last := isolated.last
  rw [htoRight] at uttered last
  have hopen' : l'.right.isOpen = true := by
    rw [hserver]
    exact hopen
  obtain ⟨req, hreq, suited, hends⟩ := route_uttered hopen (uttered m mem_cons_self)
  have handle : l'.right.handle = .openChild req := by rw [hserver, hreq]
  have balanced := balanced_step isolated.balanced (server_moves moves)
    (congrArg FileServer.Handle.failed handle) (fun _ => hopen)
  refine ⟨accounted', heard', ?_, fun _ => hopen', fun _ => hopen',
    fun f hf => uttered f (mem_cons_of_mem m hf), last.2, ?_, balanced⟩
  · rw [handle]
    exact suited
  rw [handle, hends, hleft]
  intro h
  obtain ⟨past, -, heq⟩ := isolated.heard.past hopen (congrArg ending idle)
  rw [heq, htoRight]
  exact ⟨by simp only [ended_append, ended_cons, h, Bool.true_or, Bool.or_true], last.1 h⟩

theorem isolated_step (l : Link) (act : Act) (l' : Link) (isolated : Isolated kind l)
    (horderly : orderly l act = true) (hs : step kind l act = some l') : Isolated kind l' := by
  have accounted' := accounted_step isolated.accounted hs
  have heard' := heard_step isolated.heard hs
  cases act with
  | left =>
    obtain ⟨out, moves⟩ := Duplex.step_left hs
    exact client_isolated isolated accounted' heard' moves horderly
  | right b =>
    obtain ⟨out, moves⟩ := Duplex.step_right hs
    have stepped : FileServer.Stepped kind l.right b l'.right out :=
      FileServer.step_stepped moves.step
    generalize hright : l'.right = s' at stepped
    cases stepped with
    | receive m idle => exact receive_isolated isolated accounted' heard' moves idle hright
    | handle ok s' out served =>
      exact guarded_isolated isolated accounted' heard' moves rfl
        (hright ▸ handle_guarded isolated horderly served)
    | forward b s' out silent forwarded =>
      exact guarded_isolated isolated accounted' heard' moves silent
        (hright ▸ forward_guarded isolated horderly forwarded)

end Server

/-- In an orderly run no frame of the client ends the session, however the transfer fails. -/
theorem file_failure_isolated (kind : FileKind) (size : Nat) (acts : List Act) {l : Link}
    (meets : Runs.Meets (step kind) (fun l a => orderly l a = true) (start kind size) acts)
    (run : Runs.exec (step kind) (start kind size) acts = some l) :
    ∀ e, l.right.handle ≠ .returned e := by
  have isolated : Isolated kind l :=
    Runs.exec_invariant (Isolated kind) isolated_step (isolated_start kind size) meets run
  intro e failed
  have suited := isolated.suited
  rw [failed] at suited
  exact suited

/-- The upload is accepted and its client writes a chunk. -/
def firstChunk : List Act := [
  .left (.deliver (.streamAccepted (some FileServer.typedFileReceiveWindow))),
  .left (.beginWrite [1]), .left (.call 0 .run), .left (.call 0 .wrote)]

/-- The first chunk arrives and `upload.Write` fails. -/
def failedWrite : List Act := [
  .right (.receive (.streamData [1])), .right (.handle true), .right (.handle true),
  .right (.handle false), .right (.handle true), .right (.handle true)]

/-- The write of a lone chunk fails, and the client learns of it. -/
theorem file_failure_isolated_alone :
    ∃ l, Runs.exec (step .upload) (start .upload 0) (firstChunk ++ failedWrite ++
        [.left (.deliver (.streamError (some .uploadWriteFailed)))]) = some l ∧
      l.left.client.terminalErr = some .uploadWriteFailed ∧ ∀ e, l.right.handle ≠ .returned e :=
  ⟨_, rfl, rfl, file_failure_isolated .upload 0 (firstChunk ++ failedWrite ++
    [.left (.deliver (.streamError (some .uploadWriteFailed)))]) (by decide) rfl⟩

/-- A second chunk is on its way when the write of the first fails. -/
theorem chunk_after_failure_ends_parent :
    ∃ l, Runs.exec (step .upload) (start .upload 0) (firstChunk ++
        [.left (.beginWrite [2]), .left (.call 1 .run), .left (.call 1 .wrote)] ++ failedWrite ++
        [.right (.receive (.streamData [2]))]) = some l ∧
      l.right.handle = .returned .typedStreamProtocol ∧ l.left.client.child.done = false :=
  ⟨_, rfl, rfl, rfl⟩

end FileIsolation
