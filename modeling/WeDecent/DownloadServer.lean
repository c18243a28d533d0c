import WeDecent.FileIsolation

/-!
# The frames a download's server writes

`forwardDownload` and `Handle` write independently of each other. What
`forwardDownload` writes fits its credit and ends with `download_complete` when the
whole file is sent. A download that `Handle` has closed is left alone by it from the
moment `done` is closed, unless it was then on its way to a frame.
-/

namespace DownloadServer

open Bool List StreamProtocol FileServer FileIsolation

/-- What `forwardDownload` knows of the file and its credit at each point. -/
def Sized (s : Server) : Forward → Prop
  | .top => s.child.download.remaining = s.child.remaining
  | .park => s.child.download.remaining = s.child.remaining
  | .read limit => s.child.download.remaining = s.child.remaining ∧ s.child.remaining ≠ 0 ∧
      limit ≤ s.child.sendCredit.remaining ∧ limit ≤ maxTypedStreamChunk
  | .check data err => s.child.download.remaining + data.length = s.child.remaining ∧
      data.length ≤ s.child.sendCredit.remaining ∧ data.length ≤ maxTypedStreamChunk ∧
      err ≠ some .eof
  | .debit data err => data ≠ [] ∧ s.child.download.remaining + data.length = s.child.remaining ∧
      data.length ≤ s.child.sendCredit.remaining ∧ data.length ≤ maxTypedStreamChunk ∧
      err ≠ some .eof
  | .write data remaining err => validateStreamData data = true ∧
      s.child.download.remaining = s.child.remaining ∧ remaining = s.child.remaining ∧
      err ≠ some .eof
  | .written remaining err => s.child.download.remaining = s.child.remaining ∧
      remaining = s.child.remaining ∧ err ≠ some .eof
  | .complete => s.child.remaining = 0
  | _ => True

/-- The frames of a download's server. -/
def speaks : Message → Bool
  | .streamAccepted (some window) => validateStreamAccepted window
  | .streamData payload => validateStreamData payload
  | .streamClose (some reason) => decide (reason = .downloadComplete ∨ reason = .peerClose)
  | .streamError (some code) => decide (code = .downloadReadFailed)
  | _ => false

/-- A read of a file with something left gives a part of it and does not find its end. -/
theorem readFile_spec {d d' : Download} {limit : Nat} {given data : Bytes}
    {err err' : Option ReadError} (more : d.remaining ≠ 0)
    (h : d.readFile limit given err = some (d', data, err')) :
    d'.remaining + data.length = d.remaining ∧ data.length ≤ limit ∧ err' ≠ some .eof := by
  unfold Download.readFile at h
  split at h
  · cases h
    exact ⟨rfl, Nat.zero_le _, by rintro ⟨⟩⟩
  split at h
  · cases h
  rename_i fits
  cases h
  refine ⟨?_, ?_, ?_⟩
  · dsimp only
    omega
  · omega
  split
  · rintro ⟨⟩
  rename_i early
  split
  · rintro ⟨⟩
  rename_i late
  rintro rfl
  -- an end of file with bytes left is an error, and with the last bytes none
  have none : d.remaining - given.length = 0 := by
    by_contra some_
    exact early ⟨rfl, Nat.pos_of_ne_zero some_⟩
  refine late ⟨?_, none, rfl⟩
  rintro rfl
  exact more none

theorem afterRead_sized {s : Server} {err : Option ReadError} (file : s.child.download.remaining =
    s.child.remaining) (unended : err ≠ some .eof) : Sized s (afterRead err) := by
  unfold afterRead
  split
  · exact file
  · exact absurd rfl unended
  · trivial

section Forward

variable {s s' : Server} {a : Act} {out : List Message}

theorem sized_forward (sized : Sized s s.forward) (forwarded : Forwarded s a s' out) :
    Sized s' s'.forward ∧ ∀ m ∈ out, speaks m = true := by
  cases forwarded with
  | finished pc empty => exact ⟨empty, forall_mem_nil _⟩
  | starved pc | woken pc =>
    rw [pc] at sized
    exact ⟨sized, forall_mem_nil _⟩
  | limited pc more =>
    rw [pc] at sized
    refine ⟨⟨sized, more, ?_, Nat.min_le_right _ _⟩, forall_mem_nil _⟩
    exact Nat.le_trans (Nat.min_le_left _ _) (Nat.min_le_left _ _)
  | read limit given err download data err' pc h =>
    rw [pc] at sized
    obtain ⟨file, more, granted, small⟩ := sized
    obtain ⟨part, fits, unended⟩ := readFile_spec (file ▸ more) h
    exact ⟨⟨part.trans file, Nat.le_trans fits granted, Nat.le_trans fits small, unended⟩, nofun⟩
  | nothing err pc =>
    rw [pc] at sized
    exact ⟨afterRead_sized sized.1 sized.2.2.2, forall_mem_nil _⟩
  | got data err pc open_ nonempty =>
    rw [pc] at sized
    exact ⟨⟨nonempty, sized⟩, forall_mem_nil _⟩
  | debit data err c pc =>
    rw [pc] at sized
    obtain ⟨nonempty, file, granted, small, unended⟩ := sized
    have fits : data.length ≤ s.child.remaining := by omega
    refine ⟨⟨decide_eq_true ⟨length_pos_iff.mpr nonempty, small⟩, ?_, rfl, unended⟩, nofun⟩
    simp only [if_pos fits]
    omega
  | write data remaining err pc =>
    rw [pc] at sized
    refine ⟨sized.2, ?_⟩
    intro m hm
    rw [mem_singleton.mp hm]
    exact sized.1
  | last pc =>
    rw [pc] at sized
    exact ⟨sized.2.1.symm, forall_mem_nil _⟩
  | next remaining err pc =>
    rw [pc] at sized
    exact ⟨afterRead_sized sized.1 sized.2.2, forall_mem_nil _⟩
  | complete | fail =>
    refine ⟨trivial, ?_⟩
    intro m hm
    rw [mem_singleton.mp hm]
    rfl
  | removed report | close report =>
    refine ⟨?_, forall_mem_nil _⟩
    cases report <;> trivial
  | _ => exact ⟨trivial, forall_mem_nil _⟩

theorem sized_serve (sized : Sized s s.forward) (frame : ServeFrame s s') :
    Sized s' s'.forward := by
  have granted := frame.granted
  rw [frame.forward]
  generalize s.forward = forward at sized
  cases forward with
  | top | park => exact frame.file.trans (sized.trans frame.remaining.symm)
  | read =>
    obtain ⟨file, more, fits, small⟩ := sized
    refine ⟨?_, ?_, Nat.le_trans fits granted, small⟩
    · rw [frame.file, frame.remaining, file]
    · rw [frame.remaining]
      exact more
  | check =>
    obtain ⟨file, fits, small, unended⟩ := sized
    refine ⟨?_, Nat.le_trans fits granted, small, unended⟩
    rw [frame.file, frame.remaining, file]
  | debit =>
    obtain ⟨nonempty, file, fits, small, unended⟩ := sized
    refine ⟨nonempty, ?_, Nat.le_trans fits granted, small, unended⟩
    rw [frame.file, frame.remaining, file]
  | write data remaining =>
    obtain ⟨valid, file, same, unended⟩ := sized
    refine ⟨valid, ?_, same.trans frame.remaining.symm, unended⟩
    rw [frame.file, frame.remaining, file]
  | written remaining =>
    obtain ⟨file, same, unended⟩ := sized
    refine ⟨?_, same.trans frame.remaining.symm, unended⟩
    rw [frame.file, frame.remaining, file]
  | complete => exact frame.remaining.trans sized
  | _ => trivial

end Forward

/-- Once `done` is closed, `forwardDownload` leaves from here without a frame. -/
def hushed (remaining : Nat) : Forward → Bool
  | .top => decide (remaining ≠ 0)
  | .park => decide (remaining ≠ 0)
  | .read _ => true
  | .check _ _ => true
  | .written _ _ => true
  | .returned => true
  | _ => false

/-- `Handle` rests, or adds a WindowUpdate that it has found a child for. -/
def calm : Handle → Bool
  | .idle => true
  | .serve (.update _) => true
  | .updateSignal => true
  | _ => false

theorem calm_not_concluding {handle : Handle} (still : calm handle = true) :
    concluding handle = false := by
  cases handle with
  | openChild => cases still
  | serve req =>
    cases req with
    | update => rfl
    | _ => cases still
  | closeChild => cases still
  | _ => rfl

structure Spent (s : Server) : Prop where
  gone : s.live = false
  closed : s.child.done = true
  hush : hushed s.child.remaining s.forward = true
  still : calm s.handle = true

section Spent

variable {s s' : Server} {out : List Message}

theorem Spent.forward {a : Act} (spent : Spent s) (forwarded : Forwarded s a s' out) :
    Spent s' ∧ out = [] := by
  obtain ⟨gone, closed, hush, still⟩ := spent
  have open_absurd {P : Prop} (open_ : s.child.done = false) : P := by
    rw [closed] at open_
    cases open_
  cases forwarded with
  | finished pc empty =>
    rw [pc, empty] at hush
    cases hush
  | starved pc more => exact ⟨⟨gone, closed, decide_eq_true more, still⟩, rfl⟩
  | nothing err pc open_ => exact open_absurd open_
  | got data err pc open_ => exact open_absurd open_
  | overdrawn data err pc => rw [pc] at hush; cases hush
  | debit data err c pc => rw [pc] at hush; cases hush
  | write data remaining err pc => rw [pc] at hush; cases hush
  | last pc open_ => exact open_absurd open_
  | next remaining err pc open_ => exact open_absurd open_
  | complete pc => rw [pc] at hush; cases hush
  | remove report pc => rw [pc] at hush; cases hush
  | removed report pc => rw [pc] at hush; cases hush
  | close report pc => rw [pc] at hush; cases hush
  | fail pc => rw [pc] at hush; cases hush
  | woken pc =>
    rw [pc] at hush
    exact ⟨⟨gone, closed, hush, still⟩, rfl⟩
  | _ => exact ⟨⟨gone, closed, rfl, still⟩, rfl⟩

theorem Spent.serve {ok : Bool} (spent : Spent s) (served : Served .download s ok s' out)
    (running : s'.handle.failed = false) : Spent s' ∧ out = [] := by
  obtain ⟨gone, closed, hush, still⟩ := spent
  cases served with
  | update => exact ⟨⟨gone, closed, hush, rfl⟩, rfl⟩
  | updateRefused => cases running
  | signal => exact ⟨⟨gone, closed, hush, rfl⟩, rfl⟩
  | found ok req pc | missing ok req pc | data ok payload c pc | dataRefused ok payload pc
  | commit pc | commitFailed pc | peerClose ok pc | peerError ok pc | wrote payload pc
  | writeFailed payload pc | grant ok n pc | overflow ok n pc | restore ok n c pc
  | remove ok after pc | close ok after pc | raise ok err pc | finish ok after pc =>
    rw [pc] at still
    cases still

end Spent

/-- `forwardDownload` has taken the child from the table. -/
def shutting : Forward → Bool
  | .closeDone _ => true
  | .fail => true
  | _ => false

theorem hushed_not_shutting {remaining : Nat} {forward : Forward}
    (hush : hushed remaining forward = true) : shutting forward = false := by
  cases forward with
  | closeDone => cases hush
  | fail => cases hush
  | _ => rfl

/-- What `Handle` does after it has closed the child. -/
def answer : Handle → Option After
  | .closeChild after => some after
  | .closeDone after => some after
  | .endWrite after => some after
  | _ => none

/-- `done` is closed by `Handle` only when `forwardDownload` is not on its way to a frame,
and a failed read closes the child only when the client is not to be answered. -/
def serverHeeds (s : Server) (arriving : List Message) : Act → Bool
  | .handle _ =>
    match s.handle with
    | .closeDone _ => hushed s.child.remaining s.forward
    | _ => true
  | .forward =>
    match s.forward with
    | .closeChild _ => s.live && arriving.isEmpty && calm s.handle
    | _ => true
  | _ => true

/-- What the two goroutines of a download know of each other; `cancels` says that the
client has cancelled. -/
structure Serving (cancels : Bool) (s : Server) : Prop where
  sized : Sized s s.forward
  failing : shutting s.forward = true → s.live = false ∧ calm s.handle = true
  failed : s.forward = .fail → s.child.done = true
  answering : ∀ after, answer s.handle = some after →
    after = .silent ∨ after = .ack ∧ cancels = true
  present : concluding s.handle = true → s.isOpen = true
  finished : ∀ after, s.handle = .endWrite after → s.child.done = true
  dormant : s.child.done = true → hushed s.child.remaining s.forward = true ∨ s.forward = .fail

section Serving

variable {cancels : Bool} {s s' : Server} {out : List Message}

theorem serving_active (size : Nat) (window : Credit) :
    Serving false (Server.active .download size window) :=
  ⟨rfl, nofun, nofun, nofun, nofun, nofun, nofun⟩

theorem live_of_open (hopen : s.isOpen = true) : s.live = true := by
  simp only [Server.isOpen, and_eq_true] at hopen
  exact hopen.1

/-- A frame arrives at an open stream. -/
theorem Serving.receive (serving : Serving cancels s) (hopen : s.isOpen = true) (req : Request) :
    Serving cancels { s with handle := .openChild req } := by
  refine ⟨serving.sized, ?_, serving.failed, nofun, fun _ => hopen, nofun, serving.dormant⟩
  intro h
  have gone := (serving.failing h).1
  rw [live_of_open hopen] at gone
  cases gone

/-- `Handle` goes on, and what it owes the client does not change. -/
theorem Serving.onward (serving : Serving cancels s) (sized : Sized s' s'.forward)
    (forward : s'.forward = s.forward) (remaining : s'.child.remaining = s.child.remaining)
    (hdone : s'.child.done = s.child.done) (live : s'.live = s.live)
    (still : calm s.handle = true → calm s'.handle = true)
    (answering : ∀ after, answer s'.handle = some after →
      after = .silent ∨ after = .ack ∧ cancels = true)
    (present : concluding s'.handle = true → s'.isOpen = true)
    (finished : ∀ after, s'.handle ≠ .endWrite after) : Serving cancels s' := by
  refine ⟨sized, ?_, ?_, answering, present, fun after h => absurd h (finished after), ?_⟩
  · rw [forward, live]
    exact fun h => (serving.failing h).imp_right still
  · rw [forward, hdone]
    exact serving.failed
  · rw [forward, hdone, remaining]
    exact serving.dormant

theorem Serving.serve {ok : Bool} (serving : Serving cancels s)
    (served : Served .download s ok s' out) (suited : suits .download s.handle)
    (running : s'.handle.failed = false)
    (heed : s.handle = .closeDone .silent ∨ s.handle = .closeDone .ack →
      hushed s.child.remaining s.forward = true)
    (complete : s.handle = .serve .close → s.child.remaining = 0)
    (cancelled : s.handle = .serve .error → cancels = true) : Serving cancels s' := by
  have sized := sized_serve serving.sized served.frame
  cases served with
  | found ok req pc open_ =>
    refine serving.onward sized rfl rfl rfl rfl ?_ nofun (fun _ => open_) nofun
    rw [pc]
    rintro ⟨⟩
  | data ok payload c pc upload => cases upload
  | update | signal =>
    exact serving.onward sized rfl rfl rfl rfl (fun _ => rfl) nofun nofun nofun
  | commit pc upload => cases upload
  | commitFailed pc upload => cases upload
  | peerClose ok pc =>
    refine serving.onward sized rfl rfl rfl rfl ?_ ?_ ?_ (by simp)
    · rw [pc]
      rintro ⟨⟩
    · intro after h
      rw [if_pos (complete pc)] at h
      exact .inl (Option.some.inj h).symm
    · exact fun _ => serving.present (congrArg concluding pc)
  | peerError ok pc =>
    refine serving.onward sized rfl rfl rfl rfl ?_ ?_ ?_ (by simp)
    · rw [pc]
      rintro ⟨⟩
    · exact fun after h => .inr ⟨(Option.some.inj h).symm, cancelled pc⟩
    · exact fun _ => serving.present (congrArg concluding pc)
  | wrote payload pc | writeFailed payload pc | grant ok n pc | overflow ok n pc
  | restore ok n c pc =>
    rw [pc] at suited; cases suited
  | remove ok after pc =>
    -- the child is in the table, so `Handle` is the one to close it
    have live := live_of_open (serving.present (congrArg concluding pc))
    have hremove : s.remove after = { s with live := false, handle := .closeDone after } := by
      unfold Server.remove
      rw [if_pos live]
    rw [hremove] at sized ⊢
    refine ⟨sized, ?_, serving.failed, ?_, nofun, nofun, serving.dormant⟩
    · intro h
      rw [(serving.failing h).1] at live
      cases live
    · intro after' h
      refine serving.answering after' ?_
      rw [pc]
      exact h
  | close ok after pc =>
    have owed := serving.answering after (by rw [pc]; rfl)
    have hush : hushed s.child.remaining s.forward = true := by
      refine heed ?_
      rcases owed with rfl | ⟨rfl, -⟩
      · exact .inl pc
      · exact .inr pc
    refine ⟨sized, ?_, fun _ => rfl, ?_, by rintro ⟨⟩, fun _ _ => rfl, fun _ => .inl hush⟩
    · intro h
      have forwarding := hushed_not_shutting hush
      exact absurd (forwarding.symm.trans h) (by rintro ⟨⟩)
    · intro after' h
      rw [← Option.some.inj h]
      exact owed
  | finish ok after pc =>
    refine serving.onward sized rfl rfl rfl rfl ?_ nofun nofun nofun
    rw [pc]
    rintro ⟨⟩
  | _ => cases running

theorem Serving.forward {a : Act} {arriving : List Message} (serving : Serving cancels s)
    (forwarded : Forwarded s a s' out) (heed : serverHeeds s arriving a = true) :
    Serving cancels s' := by
  have sized := (sized_forward serving.sized forwarded).1
  have frame := forwarded.frame
  have present : concluding s'.handle = true → s.isOpen = true := by
    rw [frame.handle]
    exact serving.present
  have answering : ∀ after, answer s'.handle = some after →
      after = .silent ∨ after = .ack ∧ cancels = true := by
    rw [frame.handle]
    exact serving.answering
  -- a step aside of the end of the child
  have aside (hdone : s'.child.done = s.child.done) (hopen : s'.isOpen = s.isOpen)
      (going : shutting s'.forward = false)
      (dormant : s.child.done = true → hushed s'.child.remaining s'.forward = true) :
      Serving cancels s' := by
    refine ⟨sized, ?_, ?_, answering, ?_, ?_, ?_⟩
    · rw [going]
      rintro ⟨⟩
    · intro h
      rw [h] at going
      cases going
    · rw [hopen]
      exact present
    · rw [frame.handle, hdone]
      exact serving.finished
    · rw [hdone]
      exact fun h => .inl (dormant h)
  have unhushed {P : Prop} (closed : s.child.done = true)
      (hush : hushed s.child.remaining s.forward = false) (other : s.forward ≠ .fail) : P := by
    rcases serving.dormant closed with h | h
    · rw [hush] at h
      cases h
    · exact absurd h other
  have open_absurd {P : Prop} (open_ : s.child.done = false) (closed : s.child.done = true) :
      P := by
    rw [open_] at closed
    cases closed
  cases forwarded with
  | finished pc empty =>
    refine aside rfl rfl rfl fun closed => unhushed closed ?_ ?_
    · rw [pc, empty]
      rfl
    · rw [pc]
      rintro ⟨⟩
  | starved pc more => exact aside rfl rfl rfl fun _ => decide_eq_true more
  | nothing err pc open_ | next remaining err pc open_ =>
    refine aside rfl rfl ?_ (open_absurd open_)
    unfold afterRead
    split <;> rfl
  | got data err pc open_ => exact aside rfl rfl rfl (open_absurd open_)
  | overdrawn data err pc | debit data err c pc =>
    refine aside rfl rfl rfl fun closed => unhushed closed ?_ ?_
    · rw [pc]
      rfl
    · rw [pc]
      rintro ⟨⟩
  | last pc open_ => exact aside rfl rfl rfl (open_absurd open_)
  | remove report pc =>
    simp only [serverHeeds, pc, and_eq_true, List.isEmpty_iff] at heed
    obtain ⟨-, still⟩ := heed
    refine ⟨sized, fun _ => ⟨rfl, still⟩, by rintro ⟨⟩, answering, ?_, serving.finished, ?_⟩
    · exact fun h => absurd ((calm_not_concluding still).symm.trans h) (by rintro ⟨⟩)
    refine fun closed => unhushed closed ?_ ?_
    · rw [pc]
      rfl
    · rw [pc]
      rintro ⟨⟩
  | removed report pc gone =>
    simp only [serverHeeds, pc, gone, Bool.false_and] at heed
    cases heed
  | close report pc =>
    obtain ⟨gone, still⟩ := serving.failing (by rw [pc]; rfl)
    refine ⟨sized, fun _ => ⟨gone, still⟩, fun _ => rfl, answering, ?_, fun _ _ => rfl, ?_⟩
    · exact fun h => absurd ((calm_not_concluding still).symm.trans h) (by rintro ⟨⟩)
    · cases report with
      | true => exact fun _ => .inr rfl
      | false => exact fun _ => .inl rfl
  | woken pc =>
    refine aside rfl rfl rfl fun closed => ?_
    have hush := serving.dormant closed
    rw [pc] at hush
    exact hush.resolve_right (by rintro ⟨⟩)
  | _ => exact aside rfl rfl rfl fun _ => rfl

end Serving

end DownloadServer
