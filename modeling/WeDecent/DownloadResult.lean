import WeDecent.Library.Runs
import WeDecent.FileClient

/-!
# What the end of a download says

`ManagedFileDownload.Read` reports the end of the file, `done` without an error, when
the child's `done` is closed and no error was recorded. `Observed` follows a client
through any frames, calls and ends of the parent, and records the bytes received, the
bytes that `Read` returned, and what had been received when the peer's
`download_complete` was processed.
-/

namespace DownloadResult

open Bool List Option StreamProtocol MuxChild FileClient

structure Observed where
  client : Client
  received : Bytes
  returned : Bytes
  completed : Option Bytes

def Observed.new : Observed := ⟨Client.new, [], [], none⟩

/-- The bytes that a step takes into the queue. -/
def receives (c : Client) : Act → Bytes
  | .deliver (.streamData payload) =>
    if (handleFrame .download c (.streamData payload)).isSome then payload else []
  | _ => []

/-- The step ends the handling of `download_complete`. -/
def completes (c : Client) : Act → Bool
  | .monitor .run =>
    match c.monitor with
    | .close .downloadComplete true => true
    | _ => false
  | .monitor .wrote => true
  | _ => false

def returns : Output → Bytes
  | .read r => r.out
  | _ => []

/-- What had been received when `download_complete` was first processed. -/
def Observed.mark (o : Observed) (now : Bool) : Option Bytes :=
  if o.completed.isNone && now then some o.received else o.completed

def step (o : Observed) (a : Act) : Option Observed :=
  (FileClient.step .download o.client a).map fun r =>
    { client := r.1
      received := o.received ++ receives o.client a
      returned := o.returned ++ returns r.2
      completed := o.mark (completes o.client a) }

/-- The outcome is known: the download is complete or has an error. -/
def Observed.known (o : Observed) : Bool := o.completed.isSome || o.client.terminalErr.isSome

/-- `finish` and the acknowledgement of a cancellation close the child only when the
outcome is known, or the child is closed already. -/
def settles (o : Observed) : Act → Bool
  | .finishChildren => o.known || o.client.child.done
  | .monitor .run =>
    match o.client.monitor with
    | .close .peerClose true => o.known || o.client.child.done
    | _ => true
  | _ => true

/-- What the `Read` that holds `readMu` is going to return. -/
def held : Reader → Bytes
  | .wire out _ => out
  | .update out _ => out
  | .written out _ => out
  | .conclude out => out
  | _ => []

/-- The `Read` that holds `readMu` is going to report `done`. -/
def ends : Reader → Bool
  | .wire _ closed => closed
  | .update _ closed => closed
  | .written _ closed => closed
  | .conclude _ => true
  | _ => false

/-- The outcome is known, and if it is success, `bytes` has all of it. -/
def Justified (o : Observed) (bytes : Bytes) : Prop :=
  o.client.terminalErr.isSome = true ∨ ∃ whole, o.completed = some whole ∧ whole <+: bytes

structure Honest (o : Observed) : Prop where
  order : o.received =
    o.returned ++ held o.client.reader ++ o.client.child.outputQueue.flatten
  marked : ∀ whole, o.completed = some whole → whole <+: o.received
  closed : o.client.child.done = true → o.known = true
  justified : ends o.client.reader = true →
    Justified o (o.returned ++ held o.client.reader)

theorem honest_new : Honest Observed.new :=
  ⟨rfl, nofun, nofun, nofun⟩

variable {o : Observed}

/-- With an empty queue all that was received is returned or about to be. -/
theorem Honest.justified_of_empty (honest : Honest o) (hdone : o.client.child.done = true) :
    Justified o o.received := by
  have known := honest.closed hdone
  simp only [Observed.known, or_eq_true, isSome_iff_exists] at known
  rcases known with ⟨whole, hwhole⟩ | herr
  · exact Or.inr ⟨whole, hwhole, honest.marked whole hwhole⟩
  · exact Or.inl (isSome_iff_exists.mpr herr)

variable {o' : Observed}

/-- Bytes may go from the `Read` in progress to its caller, and nothing else changes. -/
theorem Honest.shift (honest : Honest o) (received : o'.received = o.received)
    (moved : o'.returned ++ held o'.client.reader = o.returned ++ held o.client.reader)
    (queue : o'.client.child.outputQueue = o.client.child.outputQueue)
    (completed : o'.completed = o.completed) (err : o'.client.terminalErr = o.client.terminalErr)
    (closed : o'.client.child.done = o.client.child.done)
    (ending : ends o'.client.reader = true → ends o.client.reader = true) : Honest o' := by
  refine ⟨?_, ?_, ?_, ?_⟩
  · rw [received, moved, queue]
    exact honest.order
  · rw [received, completed]
    exact honest.marked
  · simp only [Observed.known, closed, completed, err]
    exact honest.closed
  · intro h
    rw [moved]
    simp only [Justified, completed, err]
    exact honest.justified (ending h)

theorem step_eq_some {a : Act} (h : step o a = some o') :
    ∃ c out, FileClient.step .download o.client a = some (c, out) ∧
      o' = { client := c
             received := o.received ++ receives o.client a
             returned := o.returned ++ returns out
             completed := o.mark (completes o.client a) } := by
  obtain ⟨⟨c, out⟩, hstep, rfl⟩ := map_eq_some_iff.mp h
  exact ⟨c, out, hstep, rfl⟩

theorem mark_false (o : Observed) : o.mark false = o.completed := by
  simp [Observed.mark]

theorem mark_cases (o : Observed) (now : Bool) :
    o.mark now = o.completed ∨ o.mark now = some o.received := by
  unfold Observed.mark
  split
  · exact Or.inr rfl
  · exact Or.inl rfl

theorem mark_kept {now : Bool} {whole : Bytes} (h : o.completed = some whole) :
    o.mark now = some whole := by
  simp [Observed.mark, h]

theorem mark_true (o : Observed) : (o.mark true).isSome = true := by
  unfold Observed.mark
  cases o.completed <;> rfl

/-- The step is not one of the monitor's. -/
def unmarked (o : Observed) (c : Client) (out : Output) : Observed :=
  { client := c, received := o.received, returned := o.returned ++ returns out,
    completed := o.completed }

/-- A `Read` that takes the last bytes of a closed child has all that was received. -/
theorem honest_take (honest : Honest o) {maxBytes : Nat} {out : Bytes} {closed : Bool}
    {child : Child} {next : Reader} (reader : o.client.reader = .take maxBytes)
    (taken : o.client.child.takeOutput maxBytes = some (out, closed, child))
    (holds : held next = out) (ending : ends next = closed) :
    Honest (unmarked o { o.client with child := child, reader := next } .nothing) := by
  obtain ⟨hbytes, -, hclosed, -, -, -, -, hdone⟩ := Child.takeOutput_spec taken
  have order := honest.order
  rw [reader, hbytes] at order
  simp only [held, append_nil] at order
  refine ⟨?_, ?_, ?_, ?_⟩
  · simp only [unmarked, returns, append_nil, holds, append_assoc]
    exact order
  · exact honest.marked
  · simp only [unmarked, Observed.known, hdone]
    exact honest.closed
  intro h
  have last : closed = true := ending ▸ h
  rw [hclosed, and_eq_true, decide_eq_true_iff] at last
  rw [Child.flatten_eq_nil last.2, append_nil] at order
  have justified := honest.justified_of_empty last.1
  rw [order] at justified
  simp only [unmarked, returns, append_nil, holds]
  exact justified

variable {c : Client} {out : Output}

theorem honest_read {e : Event} (honest : Honest o) (reads : Reads o.client e c out) :
    Honest (unmarked o c out) := by
  cases reads with
  | take maxBytes out closed child reader taken =>
    refine honest_take honest reader taken ?_ ?_
    · split <;> rfl
    · split <;> rfl
  | drained maxBytes reader none hdone =>
    have empty := Child.takeOutput_eq_none none
    have order := honest.order
    rw [reader, empty] at order
    simp only [held, flatten_nil, append_nil] at order
    have justified := honest.justified_of_empty hdone
    refine ⟨?_, honest.marked, honest.closed, fun _ => ?_⟩
    · simp only [unmarked, returns, held, empty, flatten_nil, append_nil]
      exact order
    · simp only [unmarked, returns, held, append_nil]
      rw [order] at justified
      exact justified
  | abandon bytes closed reader =>
    rw [finish_eq]
    refine honest.shift rfl ?_ rfl rfl rfl rfl (by rintro ⟨⟩)
    simp [unmarked, returns, reader, held]
  | late bytes closed reader | lock bytes closed reader | grant bytes closed reader
  | last bytes reader =>
    refine honest.shift rfl ?_ rfl rfl rfl rfl ?_
    · simp [unmarked, returns, reader, held]
    · rw [reader]
      exact id
  | wait maxBytes reader | expired maxBytes reader | lost maxBytes reader
  | woken maxBytes reader | notified maxBytes reader | return_ bytes reader
  | conclude bytes reader =>
    -- the bytes in hand go to the caller, or there are none
    refine honest.shift rfl ?_ rfl rfl rfl rfl (by rintro ⟨⟩)
    simp [unmarked, returns, reader, held]

/-- The child is closed with an outcome that is known afterwards. -/
theorem Honest.close (honest : Honest o) (received : o'.received = o.received)
    (returned : o'.returned = o.returned) (reader : o'.client.reader = o.client.reader)
    (queue : o'.client.child.outputQueue = o.client.child.outputQueue)
    (marked : o'.completed = o.completed ∨ o'.completed = some o.received)
    (kept : ∀ whole, o.completed = some whole → o'.completed = some whole)
    (err : o.client.terminalErr.isSome = true → o'.client.terminalErr.isSome = true)
    (closed : o'.client.child.done = true → o'.known = true) : Honest o' := by
  refine ⟨?_, ?_, closed, ?_⟩
  · rw [received, returned, reader, queue]
    exact honest.order
  · intro whole hwhole
    rw [received]
    rcases marked with same | now
    · exact honest.marked whole (same ▸ hwhole)
    · rw [now] at hwhole
      cases hwhole
      exact prefix_rfl
  · intro ending
    rw [reader] at ending
    rw [returned, reader]
    rcases honest.justified ending with herr | ⟨whole, hwhole, hprefix⟩
    · exact Or.inl (err herr)
    · exact Or.inr ⟨whole, kept whole hwhole, hprefix⟩

theorem known_iff :
    o.known = true ↔ o.completed.isSome = true ∨ o.client.terminalErr.isSome = true := by
  simp [Observed.known]

theorem honest_data {payload : Bytes} {child : Child} (honest : Honest o)
    (received : o.client.child.receiveData payload = some child) :
    Honest { unmarked o { o.client with child := child } .nothing with
      received := o.received ++ payload } := by
  obtain ⟨-, -, queue, -, -, -, -, hdone⟩ := Child.receiveData_eq_some received
  refine ⟨?_, ?_, ?_, ?_⟩
  · simp only [unmarked, returns, append_nil, queue, flatten_append,
      flatten_singleton, ← append_assoc]
    rw [← honest.order]
  · intro whole hwhole
    exact (honest.marked whole hwhole).trans (prefix_append _ _)
  · simp only [unmarked, Observed.known, hdone]
    exact honest.closed
  · simp only [unmarked, returns, append_nil]
    exact honest.justified

theorem honest_deliver {m : Message} (honest : Honest o) (h : step o (.deliver m) = some o') :
    Honest o' := by
  obtain ⟨c, out, hstep, rfl⟩ := step_eq_some h
  simp only [completes, mark_false]
  cases step_stepped hstep with
  | handles _ found =>
    cases handleFrame_handled found with
    | accepted window child live hchild =>
      obtain ⟨-, -, -, queue, -, -, -, -, hdone⟩ := Child.accept_eq_some hchild
      exact honest.shift (append_nil _) (by simp [returns]) queue rfl rfl hdone id
    | data payload child listed download valid hchild =>
      simp only [receives, found, isSome_some, if_true]
      exact honest_data honest hchild
    | update bytes child live upload hchild =>
      obtain ⟨-, -, queue, -, -, -, -, hdone⟩ := Child.receiveUpdate_eq_some hchild
      exact honest.shift (append_nil _) (by simp [returns]) queue rfl rfl hdone id
    | uploadClose listed upload => cases upload
    | downloadClose =>
      exact honest.shift (append_nil _) (by simp [returns]) rfl rfl rfl rfl id
    | error =>
      refine honest.close (append_nil _) (append_nil _) ?_ ?_ (Or.inl rfl)
        (fun _ => id) ?_ ?_
      · simp [Client.setError]
      · simp [Client.setError]
      · simp [Client.setError]
      · simp [Client.setError, Observed.known]
  | refuses _ refused =>
    rw [finish_eq]
    refine honest.shift ?_ (by simp [returns]) rfl rfl rfl rfl id
    cases m with
    | streamData => simp [receives, refused]
    | _ => exact append_nil _
  | begins begins => cases begins

theorem mark_isSome {now : Bool} (h : o.completed.isSome = true) :
    (o.mark now).isSome = true := by
  obtain ⟨whole, hwhole⟩ := isSome_iff_exists.mp h
  rw [mark_kept hwhole]
  rfl

theorem Honest.known_mark {received returned : Bytes} {now : Bool} (known : o.known = true)
    (err : c.terminalErr = o.client.terminalErr) :
    (⟨c, received, returned, o.mark now⟩ : Observed).known = true := by
  rw [known_iff] at known ⊢
  rcases known with h | h
  · exact Or.inl (mark_isSome h)
  · exact Or.inr (by rw [err]; exact h)

theorem honest_monitor {e : Event} (honest : Honest o) (settled : settles o (.monitor e) = true)
    (h : step o (.monitor e) = some o') :
    Honest o' := by
  obtain ⟨c, out, hstep, rfl⟩ := step_eq_some h
  have closes (now : Bool) (c : Client) (hout : returns out = [])
      (reader : c.reader = o.client.reader)
      (queue : c.child.outputQueue = o.client.child.outputQueue)
      (err : c.terminalErr = o.client.terminalErr)
      (closed : c.child.done = true → o.known = true ∨ now = true) :
      Honest ⟨c, o.received ++ [], o.returned ++ returns out, o.mark now⟩ := by
    refine honest.close (append_nil _) (by simp [hout]) reader queue (mark_cases o now)
      (fun _ => mark_kept) (by rw [err]; exact id) ?_
    intro hdone
    rcases closed hdone with known | rfl
    · exact Honest.known_mark known err
    · exact known_iff.mpr (Or.inl (mark_true o))
  cases monitorStep_monitored hstep with
  | keep pc =>
    simp only [completes, pc]
    exact closes true _ rfl rfl rfl rfl fun _ => Or.inr rfl
  | acked pc =>
    simp only [settles, pc, or_eq_true] at settled
    simp only [completes, pc]
    exact closes false _ rfl (remove_reader _) (remove_queue _) (remove_terminalErr _)
      fun _ => Or.inl (settled.elim id honest.closed)
  | lock => exact closes _ _ rfl rfl rfl rfl fun hdone => Or.inl (honest.closed hdone)
  | ack =>
    exact closes true _ rfl (remove_reader _) (remove_queue _) (remove_terminalErr _)
      fun _ => Or.inr rfl
  | _ =>
    rw [finish_eq]
    exact closes _ _ rfl rfl rfl rfl fun hdone => Or.inl (honest.closed hdone)

theorem called_not_read {c' : Client} {i : Nat} {call : Call} {e : Event}
    (called : Called c i call e c' out) (r : ReadResult) : out ≠ .read r := by
  cases called with
  | leave call e out unlocked unwritten failed => rcases failed with rfl | ⟨err, rfl⟩ <;> rintro ⟨⟩
  | abandon call e out unlocked cut failed => rcases failed with rfl | ⟨err, rfl⟩ <;> rintro ⟨⟩
  | _ => rintro ⟨⟩

theorem returns_nil (other : ∀ r, out ≠ .read r) : returns out = [] := by
  cases out with
  | read r => exact absurd rfl (other r)
  | _ => rfl

/-- A step of a caller or of `finish` that returns no bytes and leaves the queue, the
reader and the outcome alone. -/
theorem honest_aside (honest : Honest o) (hout : returns out = [])
    (reader : c.reader = o.client.reader) (queue : c.child.outputQueue = o.client.child.outputQueue)
    (err : c.terminalErr = o.client.terminalErr) (hdone : c.child.done = o.client.child.done) :
    Honest (unmarked o c out) := by
  refine honest.shift rfl ?_ queue rfl err hdone ?_
  · simp [unmarked, hout, reader]
  · simp only [unmarked, reader]
    exact id

theorem honest_step (o : Observed) (a : Act) (o' : Observed) (honest : Honest o)
    (settled : settles o a = true) (h : step o a = some o') : Honest o' := by
  have plain {c : Client} {out : Output}
      (hs : o' = ⟨c, o.received ++ [], o.returned ++ returns out, o.mark false⟩)
      (honest' : Honest (unmarked o c out)) : Honest o' := by
    rw [hs, mark_false, append_nil]
    exact honest'
  obtain ⟨c, out, hstep, hs⟩ := step_eq_some h
  cases step_stepped hstep with
  | handles => exact honest_deliver honest h
  | refuses => exact honest_deliver honest h
  | monitors => exact honest_monitor honest settled h
  | reads reads => exact plain hs (honest_read honest reads)
  | locks reader =>
    refine plain hs (honest.shift rfl ?_ rfl rfl rfl rfl (by rintro ⟨⟩))
    simp [unmarked, returns, reader, held]
  | begins begins =>
    cases begins <;> exact plain hs (honest_aside honest rfl rfl rfl rfl rfl)
  | calls _ called =>
    exact plain hs (honest_aside honest (returns_nil (called_not_read called)) called.frame.reader
      called.frame.queue called.frame.terminalErr called.frame.done)
  | breaks | finishes =>
    refine plain hs ?_
    rw [finish_eq]
    exact honest_aside honest rfl rfl rfl rfl rfl
  | childless =>
    refine plain hs (honest.close rfl (append_nil _) rfl rfl (Or.inl rfl) (fun _ => id) id ?_)
    intro _
    simp only [settles, or_eq_true] at settled
    exact settled.elim id honest.closed
  | _ => exact plain hs (honest_aside honest rfl rfl rfl rfl rfl)

theorem reads_end {c' : Client} {e : Event} {out : Bytes}
    (reads : Reads c e c' (.read ⟨out, true, none⟩)) :
    c.reader = .conclude out ∧ c.terminalErr = none := by
  generalize hout : Output.read ⟨out, true, none⟩ = o at reads
  cases reads with
  | conclude bytes reader =>
    injection hout with hr
    injection hr with hbytes _ herr
    rw [hbytes]
    exact ⟨reader, map_eq_none_iff.mp herr.symm⟩
  | _ => cases hout

/-- Only a `Read` that has asked for `result` reports the end without an error. -/
theorem read_ends {c' : Client} {a : Act} {out : Bytes}
    (h : FileClient.step .download c a = some (c', .read ⟨out, true, none⟩)) :
    c.reader = .conclude out ∧ c.terminalErr = none := by
  generalize hout : Output.read ⟨out, true, none⟩ = o at h
  cases step_stepped h with
  | reads reads => exact reads_end (hout ▸ reads)
  | calls _ called => exact absurd hout.symm (called_not_read called _)
  | monitors monitored => cases monitored <;> cases hout
  | _ => cases hout

/-- A `Read` that reports the end without an error has everything the peer sent before
its `download_complete`, if the child is closed only with a known outcome. -/
theorem download_end_truthful (acts : List Act)
    (meets : Runs.Meets step (fun o a => settles o a = true) Observed.new acts)
    (run : Runs.exec step Observed.new acts = some o) {a : Act} {out : Bytes}
    (ended : FileClient.step .download o.client a = some (c, .read ⟨out, true, none⟩)) :
    ∃ whole, o.completed = some whole ∧ whole <+: o.returned ++ out := by
  have honest : Honest o := Runs.exec_invariant Honest honest_step honest_new meets run
  obtain ⟨reader, noErr⟩ := read_ends ended
  have justified := honest.justified (by rw [reader]; rfl)
  rw [reader] at justified
  rcases justified with herr | whole
  · rw [noErr] at herr
    cases herr
  · exact whole

def acceptFrame : Message := .streamAccepted (some 1)

/-- One byte, then `download_complete`, and a `Read` for each. -/
def wholeDownload : List Act :=
  [.deliver acceptFrame, .deliver (.streamData [7]), .beginRead 8, .lockRead 0, .read .run,
    .read .run, .read .wrote, .read .run, .deliver (.streamClose (some .downloadComplete)),
    .monitor .run, .monitor .wrote, .beginRead 8, .lockRead 0, .read .run]

theorem download_end_truthful_whole :
    ∃ o, Runs.exec step Observed.new wholeDownload = some o ∧
      ∃ whole, o.completed = some whole ∧ whole <+: o.returned ++ [] := by
  refine ⟨_, rfl, ?_⟩
  exact download_end_truthful wholeDownload (by decide) rfl (a := .read .run) rfl

/-- The parent ends while a `Read` waits for data. -/
def parentLost : List Act :=
  [.deliver acceptFrame, .beginRead 8, .lockRead 0, .read .run, .readFailed, .finishChildren,
    .read .childDone, .read .run]

theorem lost_download_reported_done :
    ∃ o c, Runs.exec step Observed.new parentLost = some o ∧
      FileClient.step .download o.client (.read .run) = some (c, .read ⟨[], true, none⟩) ∧
      o.completed = none :=
  ⟨_, _, rfl, rfl, rfl⟩

end DownloadResult
