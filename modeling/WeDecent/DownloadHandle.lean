import WeDecent.DownloadResult

/-!
# A download handle that is only read

`ManagedFileDownload` while nobody cancels it: what its locks, its queue and its end say about
each other, what a `Read` hands out, and how far it is from returning. Once `Done` is closed
without an error nothing that is queued can be lost any more.
-/

namespace DownloadHandle

open Bool List StreamProtocol MuxChild FileClient DownloadResult

/-- What a handle keeps that is read but never cancelled, while its session lasts -/
structure Plain (c : Client) : Prop where
  closing : c.child.closing = false
  close : ∀ reason closing, c.monitor = .close reason closing → closing = false
  listed : c.child.done = true → c.listed = false
  busy : (c.monitor = .ack ∨ ∃ reason closing, c.monitor = .close reason closing) →
    c.child.done = false
  wire : c.wireMu = true → c.monitor = .ack ∨ ∃ out closed, c.reader = .update out closed
  ended : c.monitor = .ended → c.parent ≠ .up
  ends : ends c.reader = true → c.child.done = true ∧ c.child.outputQueue.flatten = []

section Plain

variable {c c' : Client} {out : Output}

theorem plain_new : Plain Client.new :=
  ⟨rfl, nofun, nofun, fun _ => rfl, nofun, nofun, nofun⟩

theorem finish_parent (c : Client) : c.finish.parent ≠ .up := by
  unfold Client.finish
  split
  · rintro ⟨⟩
  · assumption

/-- A step that leaves the monitor and the end of the child alone. -/
theorem Plain.shift (plain : Plain c) (closing : c'.child.closing = c.child.closing)
    (hdone : c'.child.done = c.child.done) (listed : c'.listed = c.listed)
    (monitor : c'.monitor = c.monitor) (parent : c'.parent = c.parent ∨ c'.parent ≠ .up)
    (wire : c'.wireMu = true → c'.monitor = .ack ∨ ∃ out closed, c'.reader = .update out closed)
    (ending : DownloadResult.ends c'.reader = true →
      c'.child.done = true ∧ c'.child.outputQueue.flatten = []) : Plain c' := by
  refine ⟨closing.trans plain.closing, ?_, ?_, ?_, wire, ?_, ending⟩
  · rw [monitor]
    exact plain.close
  · rw [hdone, listed]
    exact plain.listed
  · rw [monitor, hdone]
    exact plain.busy
  rw [monitor]
  intro ended
  rcases parent with same | down
  · rw [same]
    exact plain.ended ended
  · exact down

theorem plain_of_read {e : Event} (plain : Plain c) (reads : Reads c e c' out) : Plain c' := by
  -- the wire of another than the reader is that of the monitor
  have wire : (∀ bytes closed, c.reader ≠ .update bytes closed) → ∀ r : Reader, c.wireMu = true →
      c.monitor = .ack ∨ ∃ bytes closed, r = .update bytes closed := fun other r held =>
    (plain.wire held).imp id fun ⟨bytes, closed, h⟩ => absurd h (other bytes closed)
  have ending : ∀ {r : Reader} {closed : Bool}, c.reader = r → ends r = closed → closed = true →
      c.child.done = true ∧ c.child.outputQueue.flatten = [] := by
    rintro r closed rfl rfl h
    exact plain.ends h
  cases reads with
  | take maxBytes bytes closed _ pc taken =>
    obtain ⟨-, -, hclosed, -, -, -, closing, hdone⟩ := Child.takeOutput_spec taken
    refine plain.shift closing hdone rfl rfl (.inl rfl) (wire (by rw [pc]; nofun) _) fun h => ?_
    have last : closed = true := by
      rw [← h]
      split <;> rfl
    rw [hclosed, and_eq_true, decide_eq_true_eq] at last
    exact ⟨hdone.trans last.1, Child.flatten_eq_nil last.2⟩
  | drained maxBytes pc empty closed =>
    refine plain.shift rfl rfl rfl rfl (.inl rfl) (wire (by rw [pc]; nofun) _) fun _ => ?_
    rw [Child.takeOutput_eq_none empty]
    exact ⟨closed, rfl⟩
  | wait maxBytes pc | lost maxBytes pc | woken maxBytes pc =>
    exact plain.shift rfl rfl rfl rfl (.inl rfl) (wire (by rw [pc]; nofun) _) nofun
  | late bytes closed pc | last bytes pc =>
    exact plain.shift rfl rfl rfl rfl (.inl rfl) (wire (by rw [pc]; nofun) _) (ending pc rfl)
  | lock bytes closed pc =>
    exact plain.shift rfl rfl rfl rfl (.inl rfl) (fun _ => .inr ⟨_, _, rfl⟩) (ending pc rfl)
  | grant bytes closed pc => exact plain.shift rfl rfl rfl rfl (.inl rfl) nofun (ending pc rfl)
  | abandon =>
    have down := finish_parent c
    rw [finish_eq] at down ⊢
    exact plain.shift rfl rfl rfl rfl (.inr down) (by rintro ⟨⟩) (by rintro ⟨⟩)
  | _ =>
    rename_i pc
    exact plain.shift rfl rfl rfl rfl (.inl rfl) (wire (by rw [pc]; nofun) _) nofun

theorem remove_done (c : Client) : c.remove.child.done = (c.child.done || c.live) := by
  unfold Client.remove
  split
  · rename_i live
    rw [live, Bool.or_true]
    rfl
  · rename_i gone
    rw [not_eq_true] at gone
    rw [gone, Bool.or_false]

/-- The stream is removed, and nothing more comes for it. -/
theorem plain_of_remove (plain : Plain c) (err : Option ErrorCode) (wireMu : Bool)
    (wire : wireMu = true → ∃ bytes closed, c.reader = .update bytes closed) :
    Plain { c.remove with terminalErr := err, wireMu := wireMu, monitor := .idle } := by
  have closing : c.remove.child.closing = c.child.closing := by
    unfold Client.remove
    split <;> rfl
  refine ⟨closing.trans plain.closing, by simp, fun _ => remove_listed c, ?_, ?_, by simp, ?_⟩
  · rintro (h | ⟨_, _, h⟩) <;> cases h
  · intro held
    rw [remove_reader]
    exact .inr (wire held)
  · rw [remove_reader, remove_queue]
    intro h
    obtain ⟨hdone, empty⟩ := plain.ends h
    refine ⟨?_, empty⟩
    rw [remove_done, hdone, Bool.true_or]

/-- Outside of its own ack, the monitor leaves `wireMu` to the reader. -/
theorem Plain.holder (plain : Plain c) (free : c.monitor ≠ .ack) (held : c.wireMu = true) :
    ∃ bytes closed, c.reader = .update bytes closed :=
  (plain.wire held).resolve_left free

/-- The monitor gives up. -/
theorem plain_of_end (plain : Plain c) (free : c.monitor ≠ .ack) :
    Plain { c.finish with monitor := .ended } := by
  have down := finish_parent c
  rw [finish_eq] at down ⊢
  refine ⟨plain.closing, by simp, plain.listed, ?_, fun held => .inr (plain.holder free held),
    fun _ => down, plain.ends⟩
  rintro (h | ⟨_, _, h⟩) <;> cases h

theorem plain_of_handled {m : Message} (plain : Plain c) (idle : c.monitor = .idle)
    (handled : Handled .download c m c') : Plain c' := by
  have wire := plain.holder (by simp [idle])
  cases handled with
  | accepted _ child live hchild =>
    obtain ⟨-, -, -, queue, -, -, -, closing, hdone⟩ := Child.accept_eq_some hchild
    refine plain.shift closing hdone rfl rfl (.inl rfl) plain.wire fun h => ?_
    rw [queue, hdone]
    exact plain.ends h
  | data _ child listed _ _ hchild =>
    obtain ⟨-, -, -, -, -, -, closing, hdone⟩ := Child.receiveData_eq_some hchild
    refine plain.shift closing hdone rfl rfl (.inl rfl) plain.wire fun h => ?_
    cases listed.symm.trans (plain.listed (plain.ends h).1)
  | update _ child live upload hchild =>
    obtain ⟨-, -, queue, -, -, -, closing, hdone⟩ := Child.receiveUpdate_eq_some hchild
    refine plain.shift closing hdone rfl rfl (.inl rfl) plain.wire fun h => ?_
    rw [queue, hdone]
    exact plain.ends h
  | uploadClose listed upload => cases upload
  | downloadClose _ listed =>
    refine ⟨plain.closing, ?_, plain.listed, ?_, ?_, by rintro ⟨⟩, plain.ends⟩
    · intro reason' closing h
      cases h
      exact plain.closing
    · intro _
      refine eq_false_iff.mpr fun hdone => ?_
      cases listed.symm.trans (plain.listed hdone)
    · intro held
      exact .inr (wire held)
  | error code =>
    have removed := plain_of_remove plain (some (c.terminalErr.getD code)) c.wireMu wire
    have same : (c.setError code).remove = { c.remove with
        terminalErr := some (c.terminalErr.getD code)
        wireMu := c.wireMu
        monitor := .idle } := by
      simp [remove_eq, Client.setError, ← idle]
    exact same ▸ removed

theorem plain_of_monitor {e : Event} (plain : Plain c) (monitored : Monitored c e c' out) :
    Plain c' := by
  cases monitored with
  | keep pc => cases plain.close _ _ pc
  | acked pc => cases plain.close _ _ pc
  | refuse _ _ pc => exact plain_of_end plain (by simp [pc])
  | lock pc =>
    refine ⟨plain.closing, by simp, plain.listed, fun _ => ?_, fun _ => .inl rfl, by simp,
      plain.ends⟩
    exact plain.busy (.inr ⟨_, _, pc⟩)
  | ack =>
    have removed := plain_of_remove plain c.terminalErr false (by rintro ⟨⟩)
    have same : ({ c.remove with wireMu := false, monitor := .idle } : Client) =
        { c.remove with terminalErr := c.terminalErr, wireMu := false, monitor := .idle } := by
      simp [remove_eq]
    exact same ▸ removed
  | ackFailed =>
    have down := finish_parent c
    rw [finish_eq] at down ⊢
    refine ⟨plain.closing, by simp, plain.listed, ?_, by simp, fun _ => down, plain.ends⟩
    rintro (h | ⟨_, _, h⟩) <;> cases h

/-- The steps of a handle that nobody cancels, on a session that is not torn down -/
def usual : Act → Bool
  | .beginRead _ => true
  | .lockRead _ => true
  | .read _ => true
  | .deliver _ => true
  | .monitor _ => true
  | _ => false

theorem plain_of_usual {a : Act} (plain : Plain c) (plainly : usual a = true)
    (h : step .download c a = some (c', out)) : Plain c' := by
  cases step_stepped h with
  | oversize => exact plain
  | queues => exact plain.shift rfl rfl rfl rfl (.inl rfl) plain.wire plain.ends
  | locks free =>
    refine plain.shift rfl rfl rfl rfl (.inl rfl) (fun held => ?_) (by rintro ⟨⟩)
    exact (plain.wire held).imp id fun ⟨bytes, closed, h⟩ => nomatch free.symm.trans h
  | reads reads => exact plain_of_read plain reads
  | handles idle found => exact plain_of_handled plain idle (handleFrame_handled found)
  | refuses idle => exact plain_of_end plain (by simp [idle])
  | monitors monitored => exact plain_of_monitor plain monitored
  | begins begins => cases begins <;> cases plainly
  | _ => cases plainly

end Plain

/-- What a handle keeps besides: there are bytes in every chunk, the holders of `wireMu` exclude
each other, and a download that ends without an error was accepted. -/
structure Steady (c : Client) : Prop where
  filled : ∀ chunk ∈ c.child.outputQueue, chunk ≠ []
  locked : ∀ bytes closed, c.reader = .update bytes closed →
    c.wireMu = true ∧ c.monitor ≠ .ack ∧ (c.terminalErr = none → c.child.done = false)
  acking : c.monitor = .ack → c.wireMu = true
  opened : c.terminalErr = none → (c.monitor = .ack ∨
    (∃ reason closing, c.monitor = .close reason closing) ∨ c.child.done = true) →
      c.child.acceptedOK = true

section Steady

variable {c c' : Client} {out : Output}

theorem steady_new : Steady Client.new := by
  refine ⟨fun _ member => absurd member not_mem_nil, nofun, nofun, ?_⟩
  rintro - (h | ⟨_, _, h⟩ | h) <;> cases h

/-- A step of the reader that leaves `wireMu` alone. -/
theorem Steady.shift (steady : Steady c) (filled : ∀ chunk ∈ c'.child.outputQueue, chunk ≠ [])
    (unlocked : ∀ bytes closed, c'.reader ≠ .update bytes closed) (wire : c'.wireMu = c.wireMu)
    (monitor : c'.monitor = c.monitor) (terminalErr : c'.terminalErr = c.terminalErr)
    (accepted : c'.child.acceptedOK = c.child.acceptedOK)
    (hdone : c'.child.done = c.child.done) : Steady c' := by
  refine ⟨filled, fun bytes closed pc => absurd pc (unlocked bytes closed), ?_, ?_⟩
  · rw [monitor, wire]
    exact steady.acking
  · rw [monitor, terminalErr, accepted, hdone]
    exact steady.opened

/-- What is left of a queue of filled chunks is filled. -/
theorem filled_of_dequeues {m : Nat} {queue left : List Bytes} {bytes : Bytes}
    (filled : ∀ chunk ∈ queue, chunk ≠ []) (taken : Child.Dequeues m queue bytes left) :
    ∀ chunk ∈ left, chunk ≠ [] := by
  obtain ⟨chunk, rest, rfl, ⟨-, -, rfl⟩ | ⟨cut, -, rfl⟩⟩ := taken
  · exact fun other member => filled other (mem_cons_of_mem _ member)
  · intro other member
    rcases mem_cons.mp member with rfl | member
    · exact ne_nil_of_length_pos (by rw [length_drop]; omega)
    · exact filled other (mem_cons_of_mem _ member)

theorem steady_of_read {e : Event} (steady : Steady c) (reads : Reads c e c' out) : Steady c' := by
  have unacked : ∀ {bytes closed}, c.reader = .update bytes closed → c.monitor ≠ .ack :=
    fun pc => (steady.locked _ _ pc).2.1
  cases reads with
  | take _ bytes closed _ pc taken =>
    obtain ⟨-, -, -, -, -, accepted, -, hdone⟩ := Child.takeOutput_spec taken
    refine steady.shift (filled_of_dequeues steady.filled (Child.takeOutput_dequeues taken)) ?_
      rfl rfl rfl accepted hdone
    split <;> exact nofun
  | lock bytes closed pc free open_ =>
    have unlocked : c.monitor ≠ .ack := fun acks => nomatch free.symm.trans (steady.acking acks)
    exact ⟨steady.filled, fun _ _ _ => ⟨rfl, unlocked, fun _ => open_⟩, fun _ => rfl, steady.opened⟩
  | grant bytes closed pc =>
    exact ⟨steady.filled, by simp, fun acks => absurd acks (unacked pc), steady.opened⟩
  | abandon bytes closed pc =>
    rw [finish_eq]
    exact ⟨steady.filled, by simp, fun acks => absurd acks (unacked pc), steady.opened⟩
  | _ => exact steady.shift steady.filled (by simp) rfl rfl rfl rfl rfl

theorem steady_of_handled {m : Message} (steady : Steady c)
    (handled : Handled .download c m c') : Steady c' := by
  cases handled with
  | accepted _ child live hchild =>
    obtain ⟨-, -, -, queue, -, -, accepted, -, hdone⟩ := Child.accept_eq_some hchild
    refine ⟨?_, ?_, steady.acking, fun _ _ => accepted⟩
    · rw [queue]
      exact steady.filled
    · rw [hdone]
      exact steady.locked
  | data _ child listed download valid hchild =>
    obtain ⟨-, -, queue, -, -, accepted, -, hdone⟩ := Child.receiveData_eq_some hchild
    refine ⟨?_, ?_, steady.acking, ?_⟩
    · rw [queue]
      intro chunk member
      rcases mem_append.mp member with old | new
      · exact steady.filled chunk old
      · cases mem_singleton.mp new
        exact ne_nil_of_length_pos (of_decide_eq_true valid).1
    · rw [hdone]
      exact steady.locked
    · rw [accepted, hdone]
      exact steady.opened
  | update bytes child live upload hchild =>
    obtain ⟨-, -, queue, -, -, accepted, -, hdone⟩ := Child.receiveUpdate_eq_some hchild
    refine ⟨?_, ?_, steady.acking, ?_⟩
    · rw [queue]
      exact steady.filled
    · rw [hdone]
      exact steady.locked
    · rw [accepted, hdone]
      exact steady.opened
  | uploadClose listed upload => cases upload
  | downloadClose _ listed download accepted =>
    refine ⟨steady.filled, ?_, by rintro ⟨⟩, fun _ _ => accepted⟩
    intro bytes closed pc
    obtain ⟨held, -, open_⟩ := steady.locked bytes closed pc
    exact ⟨held, by rintro ⟨⟩, open_⟩
  | error =>
    rw [remove_eq]
    refine ⟨?_, ?_, steady.acking, by rintro ⟨⟩⟩
    · intro chunk member
      refine steady.filled chunk ?_
      split at member
      · exact member
      · exact member
    · intro bytes closed pc
      obtain ⟨held, unacked, -⟩ := steady.locked bytes closed pc
      exact ⟨held, unacked, by rintro ⟨⟩⟩

theorem steady_of_end (steady : Steady c) : Steady { c.finish with monitor := .ended } := by
  rw [finish_eq]
  refine ⟨steady.filled, ?_, by rintro ⟨⟩, ?_⟩
  · intro bytes closed pc
    obtain ⟨held, -, open_⟩ := steady.locked bytes closed pc
    exact ⟨held, by rintro ⟨⟩, open_⟩
  · rintro well (h | ⟨_, _, h⟩ | hdone)
    · cases h
    · cases h
    · exact steady.opened well (.inr (.inr hdone))

theorem steady_of_monitor {e : Event} (plain : Plain c) (steady : Steady c)
    (monitored : Monitored c e c' out) : Steady c' := by
  -- what was known of an end is known after the monitor has left its handler
  have opened : ∀ {monitor : Monitor} {child : Child}, monitor ≠ .ack →
      (∀ reason closing, monitor ≠ .close reason closing) → child.done = c.child.done →
      child.acceptedOK = c.child.acceptedOK → c.terminalErr = none → (monitor = .ack ∨
        (∃ reason closing, monitor = .close reason closing) ∨ child.done = true) →
      child.acceptedOK = true := by
    rintro monitor child unacked unclosed hdone accepted well (h | ⟨_, _, h⟩ | h)
    · exact absurd h unacked
    · exact absurd h (unclosed _ _)
    · exact accepted.trans (steady.opened well (.inr (.inr (hdone.symm.trans h))))
  cases monitored with
  | keep pc => cases plain.close _ _ pc
  | acked pc => cases plain.close _ _ pc
  | refuse =>
    rw [finish_eq]
    refine ⟨steady.filled, ?_, by simp, opened (by simp) (by simp) rfl rfl⟩
    intro bytes closed reader
    obtain ⟨held, -, open_⟩ := steady.locked bytes closed reader
    exact ⟨held, by rintro ⟨⟩, open_⟩
  | lock pc free =>
    refine ⟨steady.filled, ?_, fun _ => rfl, ?_⟩
    · intro bytes closed reader
      cases free.symm.trans (steady.locked bytes closed reader).1
    · exact fun well _ => steady.opened well (.inr (.inl ⟨_, _, pc⟩))
  | ack pc =>
    rw [remove_eq]
    refine ⟨?_, ?_, by rintro ⟨⟩, ?_⟩
    · intro chunk member
      refine steady.filled chunk ?_
      split at member
      · exact member
      · exact member
    · intro bytes closed reader
      exact absurd pc (steady.locked bytes closed reader).2.1
    intro well _
    have accepted := steady.opened well (.inl pc)
    split
    · exact accepted
    · exact accepted
  | ackFailed pc =>
    rw [finish_eq]
    refine ⟨steady.filled, ?_, by simp, opened (by simp) (by simp) rfl rfl⟩
    intro bytes closed reader
    exact absurd pc (steady.locked bytes closed reader).2.1

theorem steady_of_usual {a : Act} (plain : Plain c) (steady : Steady c)
    (plainly : usual a = true) (h : step .download c a = some (c', out)) :
    Steady c' := by
  cases step_stepped h with
  | oversize => exact steady
  | queues => exact ⟨steady.filled, steady.locked, steady.acking, steady.opened⟩
  | locks => exact steady.shift steady.filled (by simp) rfl rfl rfl rfl rfl
  | reads reads => exact steady_of_read steady reads
  | handles _ found => exact steady_of_handled steady (handleFrame_handled found)
  | refuses => exact steady_of_end steady
  | monitors monitored => exact steady_of_monitor plain steady monitored
  | begins begins => cases begins <;> cases plainly
  | _ => cases plainly

end Steady

/-- What the `Read` that holds `readMu` was asked for, or has in hand, is within the size, and it
has taken no empty chunk. -/
def Sized (m : Nat) : Reader → Prop
  | .free => False
  | .take maxBytes => maxBytes = m
  | .park maxBytes => maxBytes = m
  | .wire bytes _ => bytes ≠ [] ∧ bytes.length ≤ m
  | .update bytes _ => bytes ≠ [] ∧ bytes.length ≤ m
  | .written bytes _ => bytes ≠ [] ∧ bytes.length ≤ m
  | .conclude bytes => bytes.length ≤ m

section Sized

variable {c c' : Client} {out : Output} {m : Nat}

theorem taken_sized {child child' : Child} {bytes : Bytes} {closed : Bool} (size : 1 ≤ m)
    (filled : ∀ chunk ∈ child.outputQueue, chunk ≠ [])
    (taken : child.takeOutput m = some (bytes, closed, child')) :
    bytes ≠ [] ∧ bytes.length ≤ m := by
  obtain ⟨chunk, rest, queue, ⟨fits, rfl, -⟩ | ⟨cut, rfl, -⟩⟩ := Child.takeOutput_dequeues taken
  · refine ⟨filled bytes ?_, fits⟩
    rw [queue]
    exact mem_cons_self
  · have length : (chunk.take m).length = m := by
      rw [length_take]
      exact Nat.min_eq_left (Nat.le_of_lt cut)
    exact ⟨ne_nil_of_length_pos (by omega), Nat.le_of_eq length⟩

/-- `Read` goes on within its size, or hands out a result and is over. -/
theorem sized_of_read {e : Event} (steady : Steady c) (size : 1 ≤ m) (reads : Reads c e c' out)
    (sized : Sized m c.reader) : (Sized m c'.reader ∧ ∀ r, out ≠ .read r) ∨
      (c'.reader = .free ∧ ∃ r, out = .read r ∧ r.out.length ≤ m ∧
        (r.err = none → r.out ≠ [] ∨ r.done = true)) := by
  cases reads with
  | take maxBytes bytes closed _ pc taken =>
    rw [pc] at sized
    subst sized
    have taken_ := taken_sized size steady.filled taken
    refine .inl ⟨?_, by simp⟩
    rw [if_neg taken_.1]
    exact taken_
  | drained => exact .inl ⟨Nat.zero_le m, by simp⟩
  | wait maxBytes pc | woken maxBytes pc | notified maxBytes pc | late bytes closed pc
  | lock bytes closed pc | grant bytes closed pc =>
    rw [pc] at sized
    exact .inl ⟨sized, by simp⟩
  | last bytes pc =>
    rw [pc] at sized
    exact .inl ⟨sized.2, by simp⟩
  | abandon bytes closed pc =>
    rw [pc] at sized
    exact .inr ⟨rfl, _, rfl, sized.2, by rintro ⟨⟩⟩
  | return_ bytes pc =>
    rw [pc] at sized
    exact .inr ⟨rfl, _, rfl, sized.2, fun _ => .inl sized.1⟩
  | conclude bytes pc =>
    rw [pc] at sized
    exact .inr ⟨rfl, _, rfl, sized, fun _ => .inr rfl⟩
  | _ => exact .inr ⟨rfl, _, rfl, Nat.zero_le m, by rintro ⟨⟩⟩

end Sized

/-- Nothing more will be queued, and nothing is. -/
def Drained (c : Client) : Prop := c.child.done = true ∧ c.child.outputQueue.flatten = []

/-- `Done` is closed, and the download has not failed. -/
def Settled (c : Client) : Prop := c.child.done = true ∧ c.terminalErr = none

/-- The bytes that no `Read` has handed out: those in hand, then those of the queue -/
def pending (c : Client) : Bytes := held c.reader ++ c.child.outputQueue.flatten

/-- The bytes that a step hands to a caller without an error -/
def handed : Output → Bytes
  | .read ⟨bytes, _, none⟩ => bytes
  | _ => []

section Reads

variable {c c' : Client} {e : Event} {out : Output}

theorem queued_of_read (reads : Reads c e c' out) : c'.queued = c.queued := by
  cases reads <;> try rfl
  rw [finish_eq]

theorem done_of_read (reads : Reads c e c' out) : c'.child.done = c.child.done := by
  cases reads with
  | take _ _ _ _ _ taken => exact (Child.takeOutput_spec taken).2.2.2.2.2.2.2
  | abandon => rw [finish_eq]
  | _ => rfl

theorem terminalErr_of_read (reads : Reads c e c' out) : c'.terminalErr = c.terminalErr := by
  cases reads <;> try rfl
  rw [finish_eq]

theorem settled_of_read (settled : Settled c) (reads : Reads c e c' out) : Settled c' :=
  ⟨(done_of_read reads).trans settled.1, (terminalErr_of_read reads).trans settled.2⟩

/-- A drained handle with nothing in hand stays so. -/
theorem drained_of_read (reads : Reads c e c' out) (drained : Drained c)
    (empty : held c.reader = []) : Drained c' ∧ held c'.reader = [] := by
  have hdone := (done_of_read reads).trans drained.1
  cases reads with
  | take _ bytes closed child pc taken =>
    have parts : bytes = [] ∧ child.outputQueue.flatten = [] :=
      append_eq_nil_iff.mp ((Child.takeOutput_spec taken).1.symm.trans drained.2)
    refine ⟨⟨hdone, parts.2⟩, ?_⟩
    rw [if_pos parts.1]
    exact parts.1
  | abandon =>
    rw [finish_eq]
    exact ⟨drained, rfl⟩
  | late bytes closed pc | lock bytes closed pc | grant bytes closed pc | last bytes pc =>
    rw [pc] at empty
    exact ⟨drained, empty⟩
  | _ => exact ⟨drained, rfl⟩

/-- A result without an error is the end only when nothing is left. -/
theorem drained_of_result {r : ReadResult} (plain : Plain c) (reads : Reads c e c' (.read r))
    (well : r.err = none) (last : r.done = true) : Drained c' := by
  generalize hout : Output.read r = out at reads
  cases reads with
  | expired => cases hout; cases well
  | lost => cases hout; cases well
  | abandon => cases hout; cases well
  | return_ => cases hout; cases last
  | conclude _ pc => exact plain.ends (by rw [pc]; rfl)
  | _ => cases hout

/-- After the end no byte is lost on the way to the caller, and `Read` fails only where it waited
since before. -/
theorem handed_of_read (steady : Steady c) (settled : Settled c) (reads : Reads c e c' out) :
    pending c = handed out ++ pending c' ∧ (∀ m, c'.reader ≠ .park m) ∧
      ((∀ m, c.reader ≠ .park m) → ∀ r, out = .read r → r.err = none) := by
  obtain ⟨closed, well⟩ := settled
  cases reads with
  | take maxBytes bytes ends_ _ pc taken =>
    refine ⟨?_, ?_, by simp⟩
    · rw [pending, pc, (Child.takeOutput_spec taken).1, pending]
      split <;> rfl
    · intro m
      split <;> rintro ⟨⟩
  | wait maxBytes pc _ open_ => cases closed.symm.trans open_
  | lock bytes ends_ pc _ open_ => cases closed.symm.trans open_
  | grant bytes ends_ pc | abandon bytes ends_ pc =>
    cases closed.symm.trans ((steady.locked _ _ pc).2.2 well)
  | drained maxBytes pc | woken maxBytes pc | notified maxBytes pc | late bytes ends_ pc
  | last bytes pc =>
    exact ⟨by rw [pending, pc]; rfl, by simp, by simp⟩
  | expired maxBytes pc | lost maxBytes pc =>
    exact ⟨by rw [pending, pc]; rfl, by simp, fun unparked => absurd pc (unparked maxBytes)⟩
  | return_ bytes pc =>
    refine ⟨by rw [pending, pc]; rfl, by simp, fun _ r same => ?_⟩
    cases same
    rfl
  | conclude bytes pc =>
    refine ⟨by rw [pending, pc, well]; rfl, by simp, fun _ r same => ?_⟩
    cases same
    rw [well]
    rfl

/-- How many steps the `Read` that holds `readMu` still takes after the end -/
def stepsLeft : Reader → Nat
  | .free => 0
  | .park _ => 5
  | .take _ => 4
  | .wire _ _ => 3
  | .update _ _ => 3
  | .written _ _ => 2
  | .conclude _ => 1

theorem stepsLeft_of_read (settled : Settled c) (reads : Reads c e c' out) :
    stepsLeft c'.reader < stepsLeft c.reader := by
  cases reads with
  | take maxBytes bytes ends_ _ pc =>
    rw [pc]
    split <;> simp [stepsLeft]
  | wait maxBytes pc _ open_ => cases settled.1.symm.trans open_
  | lock bytes ends_ pc _ open_ => cases settled.1.symm.trans open_
  | drained maxBytes pc => simp [pc, stepsLeft]
  | lost maxBytes pc => simp [pc, stepsLeft]
  | woken maxBytes pc => simp [pc, stepsLeft]
  | late bytes ends_ pc => simp [pc, stepsLeft]
  | _ =>
    rename_i pc
    simp [pc, stepsLeft]

/-- After the end `Read` can always go on. -/
theorem read_enabled {m : Nat} (plain : Plain c) (steady : Steady c) (settled : Settled c)
    (sized : Sized m c.reader) : ∃ e c' out, readStep c e = some (c', out) := by
  obtain ⟨closed, well⟩ := settled
  cases hr : c.reader with
  | free =>
    rw [hr] at sized
    exact sized.elim
  | take =>
    refine ⟨.run, ?_⟩
    simp only [readStep, hr]
    split
    · exact ⟨_, _, rfl⟩
    · rw [if_pos closed]
      exact ⟨_, _, rfl⟩
  | park => exact ⟨.childDone, _, _, by simp only [readStep, hr, if_pos closed]; rfl⟩
  | wire =>
    have free : c.wireMu = false := by
      refine eq_false_iff.mpr fun locked => ?_
      rcases plain.wire locked with acks | ⟨_, _, updates⟩
      · cases closed.symm.trans (plain.busy (.inl acks))
      · cases hr.symm.trans updates
    refine ⟨.run, ?_⟩
    simp only [readStep, hr, free, if_pos closed]
    exact ⟨_, _, rfl⟩
  | update => cases closed.symm.trans ((steady.locked _ _ hr).2.2 well)
  | written =>
    refine ⟨.run, ?_⟩
    simp only [readStep, hr]
    split
    · exact ⟨_, _, rfl⟩
    · exact ⟨_, _, rfl⟩
  | conclude => exact ⟨.run, _, _, by simp only [readStep, hr]; rfl⟩

end Reads

/-- What a step of the monitor leaves to the calls; after the end nothing is queued or fails. -/
structure Aside (c c' : Client) : Prop where
  queued : c'.queued = c.queued
  reader : c'.reader = c.reader
  closed : c.child.done = true → c'.child.done = true
  queue : c.child.done = true → c'.child.outputQueue = c.child.outputQueue
  terminalErr : c.child.done = true → c'.terminalErr = c.terminalErr

section Aside

variable {c c' : Client} {e : Event} {out : Output}

theorem Aside.drained (aside : Aside c c') (drained : Drained c) : Drained c' :=
  ⟨aside.closed drained.1, (congrArg _ (aside.queue drained.1)).trans drained.2⟩

theorem Aside.settled (aside : Aside c c') (settled : Settled c) : Settled c' :=
  ⟨aside.closed settled.1, (aside.terminalErr settled.1).trans settled.2⟩

theorem Aside.pending (aside : Aside c c') (closed : c.child.done = true) :
    DownloadHandle.pending c' = DownloadHandle.pending c := by
  rw [DownloadHandle.pending, aside.reader, aside.queue closed]
  rfl

theorem aside_handled {m : Message} (plain : Plain c) (handled : Handled .download c m c') :
    Aside c c' := by
  cases handled with
  | accepted _ child live hchild =>
    obtain ⟨-, -, -, queue, -, -, -, -, hdone⟩ := Child.accept_eq_some hchild
    exact ⟨rfl, rfl, hdone.trans, fun _ => queue, fun _ => rfl⟩
  | data _ child listed =>
    have open_ : c.child.done ≠ true := by
      intro hdone
      cases listed.symm.trans (plain.listed hdone)
    exact ⟨rfl, rfl, (absurd · open_), (absurd · open_), (absurd · open_)⟩
  | update _ child live upload hchild =>
    obtain ⟨-, -, queue, -, -, -, -, hdone⟩ := Child.receiveUpdate_eq_some hchild
    exact ⟨rfl, rfl, hdone.trans, fun _ => queue, fun _ => rfl⟩
  | uploadClose listed upload => cases upload
  | downloadClose => exact ⟨rfl, rfl, id, fun _ => rfl, fun _ => rfl⟩
  | error _ listed =>
    have open_ : c.child.done ≠ true := by
      intro hdone
      cases listed.symm.trans (plain.listed hdone)
    refine ⟨?_, ?_, (absurd · open_), (absurd · open_), (absurd · open_)⟩
    · rw [remove_eq]
      rfl
    · rw [remove_reader]
      rfl

/-- The monitor is in no handler of a close after the end. -/
theorem aside_monitor (plain : Plain c) (monitored : Monitored c e c' out) : Aside c c' := by
  have handling : c.monitor = .ack ∨ ∃ reason closing, c.monitor = .close reason closing := by
    cases monitored with
    | ack pc => exact .inl pc
    | ackFailed pc => exact .inl pc
    | _ =>
      rename_i pc _
      exact .inr ⟨_, _, pc⟩
  have open_ := eq_false_iff.mp (plain.busy handling)
  have frame : c'.queued = c.queued ∧ c'.reader = c.reader := by
    cases monitored with
    | keep => exact ⟨rfl, rfl⟩
    | acked => rw [remove_eq]; exact ⟨rfl, rfl⟩
    | lock => exact ⟨rfl, rfl⟩
    | ack => rw [remove_eq]; exact ⟨rfl, rfl⟩
    | _ => rw [finish_eq]; exact ⟨rfl, rfl⟩
  exact ⟨frame.1, frame.2, (absurd · open_), (absurd · open_), (absurd · open_)⟩

end Aside

end DownloadHandle
