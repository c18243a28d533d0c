import WeDecent.FileLink

/-!
# The frames a download's client writes

`wireMu` of a managed file orders the frames of `Read`, of `cancelFile` and of the
monitor's acknowledgement, and `closing` and `done` tell the next holder what the
last one has written. They do so as long as no one acts on a `closing` that it read
before it got the lock, and no one writes after a cancellation that it could see.
-/

namespace DownloadClient

open Bool List FileClient FileLink MuxChild StreamProtocol Weights

def readerLocks : Reader → Nat
  | .update _ _ => 1
  | _ => 0

def callLocks : Call → Nat
  | .cancelFrame => 1
  | _ => 0

def monitorLocks : Monitor → Nat
  | .ack => 1
  | _ => 0

/-- How many goroutines are between taking and releasing `wireMu`. -/
def holders (c : Client) : Nat :=
  readerLocks c.reader + weight callLocks c.calls + monitorLocks c.monitor

/-- `Read` and `cancelFile` leave a stream alone that is being cancelled, and the monitor
finds `closing` as it has read it. -/
def heeds (c : Client) : FileClient.Act → Bool
  | .read .run =>
    match c.reader with
    | .wire _ _ => c.child.done || !c.child.closing
    | _ => true
  | .call i .run =>
    match c.calls[i]? with
    | some .cancel => c.child.done || !c.child.closing
    | _ => true
  | .monitor .run =>
    match c.monitor with
    | .close _ closing => closing == c.child.closing
    | _ => true
  | _ => true

/-- No write fails, no context ends while a call waits for its peer, and nothing outside
the stream ends the parent. -/
def undisturbed : FileClient.Act → Bool
  | .read .writeFailed => false
  | .call _ .writeFailed => false
  | .call _ .ctxDone => false
  | .monitor .writeFailed => false
  | .readFailed => false
  | .finish => false
  | _ => true

/-- The client expects what it gets from the peer. -/
def Expected (c : Client) : FileClient.Act → Prop
  | .deliver m => handleFrame .download c m ≠ none
  | .monitor .run => ∀ reason closing, c.monitor = .close reason closing →
      reason = .downloadComplete ∨ reason = .peerClose ∧ closing = true
  | _ => True

structure Disciplined (w : Writer) : Prop where
  up : w.client.parent = .up
  watching : w.client.monitor ≠ .ended
  busy : w.client.monitor ≠ .idle → w.client.listed = true
  tables : w.client.live = w.client.listed ∧ w.client.child.done = !w.client.listed
  locked : holders w.client ≤ w.client.wireMu.toNat
  unended : w.client.wireMu = true → ended w.written = false
  marked : .cancelFrame ∈ w.client.calls → w.client.child.closing = true
  cancels : cancelled w.written = true → w.client.child.closing = true
  completes : ended w.written = true → cancelled w.written = false → w.client.listed = false
  once : w.written.countP Message.ends ≤ 1

theorem disciplined_new : Disciplined ⟨Client.new, []⟩ :=
  ⟨rfl, nofun, fun h => absurd rfl h, ⟨rfl, rfl⟩, Nat.le_refl _, nofun, nofun, nofun, nofun,
    Nat.zero_le _⟩

/-- Who is between taking and releasing `wireMu` holds it. -/
theorem Disciplined.held {w : Writer} (disciplined : Disciplined w)
    (holds : 0 < holders w.client) : w.client.wireMu = true := by
  have locked := disciplined.locked
  by_contra h
  rw [not_eq_true] at h
  rw [h] at locked
  simp only [toNat_false] at locked
  omega

theorem Disciplined.held_of_ack {w : Writer} (disciplined : Disciplined w)
    (pc : w.client.monitor = .ack) : w.client.wireMu = true := by
  refine disciplined.held ?_
  simp only [holders, pc, monitorLocks]
  omega

theorem countP_of_open {frames : List Message} (h : ended frames = false) :
    frames.countP Message.ends = 0 :=
  countP_eq_zero.mpr fun m hm => by simpa using List.any_eq_false.mp h m hm

section Steps

variable {w : Writer} {c : Client}

section

variable (disciplined : Disciplined w)

include disciplined

/-- A step that has to do neither with `wireMu` nor with the tables. -/
theorem Disciplined.aside (parent : c.parent = w.client.parent)
    (wireMu : c.wireMu = w.client.wireMu)
    (tables : c.listed = w.client.listed ∧ c.live = w.client.live)
    (child : c.child.closing = w.client.child.closing ∧ c.child.done = w.client.child.done)
    (watching : c.monitor ≠ .ended) (busy : c.monitor ≠ .idle → c.listed = true)
    (fewer : holders c ≤ holders w.client)
    (marked : .cancelFrame ∈ c.calls → .cancelFrame ∈ w.client.calls) :
    Disciplined ⟨c, w.written ++ []⟩ := by
  rw [append_nil]
  refine ⟨?_, watching, busy, ?_, ?_, ?_, ?_, ?_, ?_, disciplined.once⟩
  · exact parent.trans disciplined.up
  · dsimp only
    rw [tables.1, tables.2, child.2]
    exact disciplined.tables
  · dsimp only
    rw [wireMu]
    exact Nat.le_trans fewer disciplined.locked
  · dsimp only
    rw [wireMu]
    exact disciplined.unended
  · dsimp only
    rw [child.1]
    exact fun h => disciplined.marked (marked h)
  · dsimp only
    rw [child.1]
    exact disciplined.cancels
  · dsimp only
    rw [tables.1]
    exact disciplined.completes

/-- Who takes `wireMu` of an open stream that is not being cancelled finds it unended. -/
theorem Disciplined.acquire (free : w.client.wireMu = false)
    (open_ : w.client.child.done = false) (undecided : w.client.child.closing = false)
    (parent : c.parent = w.client.parent)
    (tables : c.listed = w.client.listed ∧ c.live = w.client.live ∧
      c.child.done = w.client.child.done)
    (watching : c.monitor ≠ .ended) (wireMu : c.wireMu = true)
    (one : holders c ≤ holders w.client + 1)
    (marked : .cancelFrame ∈ c.calls → c.child.closing = true) :
    Disciplined ⟨c, w.written ++ []⟩ := by
  rw [append_nil]
  obtain ⟨hlive, hdone⟩ := disciplined.tables
  have listed : w.client.listed = true := by
    rw [open_] at hdone
    simpa using hdone.symm
  have uncancelled : cancelled w.written = false := by
    by_contra h
    rw [not_eq_false] at h
    rw [disciplined.cancels h] at undecided
    cases undecided
  have unended : ended w.written = false := by
    by_contra h
    rw [not_eq_false] at h
    rw [disciplined.completes h uncancelled] at listed
    cases listed
  refine ⟨parent.trans disciplined.up, watching, ?_, ?_, ?_, fun _ => unended, marked, ?_, ?_,
    disciplined.once⟩
  · exact fun _ => tables.1.trans listed
  · dsimp only
    rw [tables.1, tables.2.1, tables.2.2]
    exact disciplined.tables
  · have none := disciplined.locked
    rw [free] at none
    dsimp only
    rw [wireMu]
    exact Nat.le_trans one (Nat.succ_le_succ none)
  · dsimp only
    rw [uncancelled]
    rintro ⟨⟩
  · dsimp only
    rw [unended]
    rintro ⟨⟩

/-- The holder of `wireMu` writes its frame and releases it. -/
theorem Disciplined.release (m : Message)
    (one : holders c + 1 ≤ holders w.client) (parent : c.parent = w.client.parent)
    (tables : c.live = c.listed ∧ c.child.done = !c.listed)
    (watching : c.monitor ≠ .ended) (busy : c.monitor ≠ .idle → c.listed = true)
    (wireMu : c.wireMu = false) (marked : .cancelFrame ∈ c.calls → c.child.closing = true)
    (cancels : (∃ code, m = .streamError code) → c.child.closing = true)
    (completes : m.ends = true → (∀ code, m ≠ .streamError code) → c.listed = false) :
    Disciplined ⟨c, w.written ++ [m]⟩ := by
  have locked := disciplined.locked
  have held : w.client.wireMu = true := disciplined.held (by omega)
  have unended := disciplined.unended held
  rw [held] at locked
  simp only [toNat_true] at locked
  refine ⟨parent.trans disciplined.up, watching, busy, tables, ?_, ?_, marked, ?_, ?_, ?_⟩
  · dsimp only
    rw [wireMu]
    simp only [toNat_false]
    omega
  · dsimp only
    rw [wireMu]
    rintro ⟨⟩
  · dsimp only
    rw [cancelled_open unended]
    intro h
    cases m with
    | streamError code => exact cancels ⟨code, rfl⟩
    | _ => cases h
  · dsimp only
    rw [cancelled_open unended, ended_append, unended, Bool.false_or, ended_cons, ended_nil,
      Bool.or_false]
    intro hends uncancelled
    refine completes hends ?_
    rintro code rfl
    cases uncancelled
  · dsimp only
    rw [countP_append, countP_of_open unended, Nat.zero_add]
    exact countP_le_length

/-- The monitor takes the stream from both tables. -/
theorem Disciplined.removes (listed : w.client.listed = true)
    (parent : c.parent = w.client.parent) (wireMu : c.wireMu = w.client.wireMu)
    (tables : c.listed = false ∧ c.live = false)
    (child : c.child = if w.client.live then w.client.child.close else w.client.child)
    (idle : c.monitor = .idle) (calls : c.calls = w.client.calls)
    (fewer : holders c ≤ holders w.client) : Disciplined ⟨c, w.written ++ []⟩ := by
  rw [append_nil]
  have live : w.client.live = true := disciplined.tables.1.trans listed
  rw [live, if_pos rfl] at child
  refine ⟨parent.trans disciplined.up, ?_, ?_, ?_, ?_, ?_, ?_, ?_, fun _ _ => tables.1,
    disciplined.once⟩
  · rw [idle]
    rintro ⟨⟩
  · exact fun h => absurd idle h
  · dsimp only
    rw [tables.1, tables.2, child]
    exact ⟨rfl, rfl⟩
  · dsimp only
    rw [wireMu]
    exact Nat.le_trans fewer disciplined.locked
  · dsimp only
    rw [wireMu]
    exact disciplined.unended
  · dsimp only
    rw [calls, child]
    exact disciplined.marked
  · dsimp only
    rw [child]
    exact disciplined.cancels

/-- The steps of `Read` that leave `wireMu` alone. -/
theorem Disciplined.reads {reader : Reader} {child : Child}
    (before : readerLocks w.client.reader = 0) (after : readerLocks reader = 0)
    (same : child.closing = w.client.child.closing ∧ child.done = w.client.child.done) :
    Disciplined ⟨{ w.client with reader := reader, child := child }, w.written ++ []⟩ := by
  refine disciplined.aside rfl rfl ⟨rfl, rfl⟩ same disciplined.watching disciplined.busy ?_ id
  simp [holders, before, after]

theorem reads_disciplined {e : Event} {o : Output} (reads : Reads w.client e c o) (heed :
    heeds w.client (.read e) = true)
    (calm : undisturbed (.read e) = true) : Disciplined ⟨c, w.written ++ o.frames⟩ := by
  cases reads with
  | take maxBytes out closed child pc taken =>
    obtain ⟨-, -, -, -, -, -, hclosing, hdone⟩ := Child.takeOutput_spec taken
    refine disciplined.reads (congrArg readerLocks pc) ?_ ⟨hclosing, hdone⟩
    split <;> rfl
  | drained maxBytes pc | wait maxBytes pc | lost maxBytes pc | woken maxBytes pc
  | late out closed pc =>
    exact disciplined.reads (congrArg readerLocks pc) rfl ⟨rfl, rfl⟩
  | lock out closed pc free open_ =>
    simp only [heeds, pc, open_, Bool.false_or, not_eq_true'] at heed
    refine disciplined.acquire free open_ heed rfl ⟨rfl, rfl, rfl⟩ disciplined.watching rfl ?_
      disciplined.marked
    simp only [holders, pc, readerLocks]
    omega
  | grant out closed pc =>
    refine disciplined.release _ ?_ rfl disciplined.tables disciplined.watching disciplined.busy
      rfl disciplined.marked ?_ (by rintro ⟨⟩)
    · simp only [holders, pc, readerLocks]
      omega
    · rintro ⟨code, h⟩
      cases h
  | abandon => cases calm
  | _ =>
    rename_i pc
    exact disciplined.reads (congrArg readerLocks pc) rfl ⟨rfl, rfl⟩

end

theorem holders_set {i : Nat} {call : Call} (next : Call)
    (hcall : w.client.calls[i]? = some call) (frame : CallFrame w.client c)
    (calls : c.calls = w.client.calls.set i next) :
    holders c + callLocks call = holders w.client + callLocks next := by
  have moved := weight_set callLocks next hcall
  simp only [holders, frame.reader, frame.monitor, calls]
  omega

section

variable (disciplined : Disciplined w)

include disciplined

theorem called_disciplined {i : Nat} {call : Call} {e : Event} {o : Output} (sound :
    Sound .download w.client)
    (hcall : w.client.calls[i]? = some call) (called : Called w.client i call e c o)
    (heed : heeds w.client (.call i e) = true) (calm : undisturbed (.call i e) = true) :
    Disciplined ⟨c, w.written ++ o.frames⟩ := by
  have frame := called.frame
  have valid := sound.calls call (mem_of_getElem? hcall)
  cases called with
  | leave call e out unlocked unwritten failed =>
    have silent : o.frames = [] := by
      rcases failed with rfl | ⟨err, rfl⟩ <;> rfl
    have moved := holders_set .returned hcall frame rfl
    rw [silent]
    refine disciplined.aside rfl rfl ⟨rfl, rfl⟩ ⟨rfl, rfl⟩ disciplined.watching disciplined.busy
      ?_ ?_
    · simp only [callLocks] at moved
      omega
    · intro hmem
      rcases mem_or_eq_of_mem_set hmem with hold | hnew
      · exact hold
      · cases hnew
  | abandon call e out unlocked cut => rcases cut with rfl | rfl <;> cases calm
  | commit => cases valid
  | complete => cases valid
  | wake => cases valid
  | conclude => cases valid
  | cancel free open_ =>
    have moved := holders_set .cancelFrame hcall frame rfl
    simp only [heeds, hcall, open_, Bool.false_or, not_eq_true'] at heed
    exact disciplined.acquire free open_ heed rfl ⟨rfl, rfl, rfl⟩ disciplined.watching rfl
      (Nat.le_of_eq moved) fun _ => rfl
  | cancelled =>
    have moved := holders_set .cancelWait hcall frame rfl
    have hclosing := disciplined.marked (mem_of_getElem? hcall)
    refine disciplined.release _ ?_ rfl disciplined.tables disciplined.watching disciplined.busy
      rfl (fun _ => hclosing) (fun _ => hclosing) ?_
    · simp only [callLocks] at moved
      omega
    · exact fun _ other => absurd rfl (other _)
  | release => cases calm
  | _ => cases valid.1

theorem handled_disciplined {m : Message} (idle : w.client.monitor = .idle) (handled :
    Handled .download w.client m c) :
    Disciplined ⟨c, w.written ++ []⟩ := by
  cases handled with
  | accepted window child live h =>
    obtain ⟨-, -, -, -, -, -, -, hclosing, hdone⟩ := Child.accept_eq_some h
    exact disciplined.aside rfl rfl ⟨rfl, rfl⟩ ⟨hclosing, hdone⟩ disciplined.watching
      disciplined.busy (Nat.le_refl _) id
  | data payload child listed download valid h =>
    obtain ⟨-, -, -, -, -, -, hclosing, hdone⟩ := Child.receiveData_eq_some h
    exact disciplined.aside rfl rfl ⟨rfl, rfl⟩ ⟨hclosing, hdone⟩ disciplined.watching
      disciplined.busy (Nat.le_refl _) id
  | update bytes child live upload h =>
    obtain ⟨-, -, -, -, -, -, hclosing, hdone⟩ := Child.receiveUpdate_eq_some h
    exact disciplined.aside rfl rfl ⟨rfl, rfl⟩ ⟨hclosing, hdone⟩ disciplined.watching
      disciplined.busy (Nat.le_refl _) id
  | uploadClose listed upload => cases upload
  | downloadClose reason listed =>
    refine disciplined.aside rfl rfl ⟨rfl, rfl⟩ ⟨rfl, rfl⟩ (by rintro ⟨⟩) (fun _ => listed) ?_ id
    simp [holders, idle, monitorLocks]
  | error code listed =>
    rw [remove_eq]
    exact disciplined.removes listed rfl rfl ⟨rfl, rfl⟩ rfl idle rfl (Nat.le_refl _)

theorem monitored_disciplined {e : Event} {o : Output} (monitored : Monitored w.client e c o)
    (heed : heeds w.client (.monitor e) = true)
    (calm : undisturbed (.monitor e) = true) (expected : Expected w.client (.monitor e)) :
    Disciplined ⟨c, w.written ++ o.frames⟩ := by
  have listed := disciplined.busy monitored.busy.1
  cases monitored with
  | keep pc =>
    refine disciplined.aside rfl rfl ⟨rfl, rfl⟩ ⟨rfl, rfl⟩ nofun (fun h => absurd rfl h) ?_ id
    simp [holders, pc, monitorLocks]
  | acked pc =>
    rw [remove_eq]
    refine disciplined.removes listed rfl rfl ⟨rfl, rfl⟩ rfl rfl rfl ?_
    simp [holders, pc, monitorLocks]
  | refuse reason closing pc unexpected =>
    rcases expected reason closing pc with rfl | ⟨rfl, rfl⟩
    · exact absurd rfl unexpected.1
    · exact absurd rfl (unexpected.2 rfl)
  | lock pc free =>
    have open_ : w.client.child.done = false := by
      rw [disciplined.tables.2, listed]
      rfl
    simp only [heeds, pc, beq_iff_eq] at heed
    refine disciplined.acquire free open_ heed.symm rfl ⟨rfl, rfl, rfl⟩ (by rintro ⟨⟩) rfl ?_
      disciplined.marked
    simp only [holders, pc, monitorLocks]
    omega
  | ack pc =>
    have live : w.client.live = true := disciplined.tables.1.trans listed
    rw [remove_eq]
    refine disciplined.release _ ?_ rfl ⟨rfl, ?_⟩ (by rintro ⟨⟩) (fun h => absurd rfl h) rfl ?_ ?_
      fun _ _ => rfl
    · simp only [holders, pc, monitorLocks]
      omega
    · simp [live, Child.close]
    · simp only [live, if_true]
      exact disciplined.marked
    · rintro ⟨code, h⟩
      cases h
  | ackFailed => cases calm

/-- A call that begins holds no lock. -/
theorem Disciplined.begins {call : Call}
    (unlocked : callLocks call = 0) (other : call ≠ .cancelFrame) :
    Disciplined ⟨{ w.client with calls := w.client.calls ++ [call] }, w.written ++ []⟩ := by
  refine disciplined.aside rfl rfl ⟨rfl, rfl⟩ ⟨rfl, rfl⟩ disciplined.watching disciplined.busy ?_ ?_
  · simp [holders, weight_append, weight_cons, weight_nil, unlocked]
  · intro hmem
    rcases mem_append.mp hmem with hold | hnew
    · exact hold
    · exact absurd (mem_singleton.mp hnew).symm other

theorem disciplined_step {a : FileClient.Act} {o : Output} (sound : Sound .download w.client)
    (h : FileClient.step .download w.client a = some (c, o))
    (heed : heeds w.client a = true) (calm : undisturbed a = true)
    (expected : Expected w.client a) : Disciplined ⟨c, w.written ++ o.frames⟩ := by
  cases step_stepped h with
  | oversize | queues =>
    exact disciplined.aside rfl rfl ⟨rfl, rfl⟩ ⟨rfl, rfl⟩ disciplined.watching disciplined.busy
      (Nat.le_refl _) id
  | locks free =>
    refine disciplined.aside rfl rfl ⟨rfl, rfl⟩ ⟨rfl, rfl⟩ disciplined.watching
      disciplined.busy ?_ id
    simp [holders, free, readerLocks]
  | reads reads => exact reads_disciplined disciplined reads heed calm
  | begins begins =>
    cases begins with
    | cancel => exact disciplined.begins rfl (by rintro ⟨⟩)
    | _ =>
      rename_i upload
      cases upload
  | calls at_i called => exact called_disciplined disciplined sound at_i called heed calm
  | handles idle found => exact handled_disciplined disciplined idle (handleFrame_handled found)
  | refuses _ refused => exact absurd refused expected
  | monitors monitored => exact monitored_disciplined disciplined monitored heed calm expected
  | childless ending => cases disciplined.up.symm.trans ending
  | closes childless => cases disciplined.up.symm.trans childless
  | _ => cases calm

end

/-- A download's client writes its frames under `wireMu`. -/
theorem writes_locked {a : FileClient.Act} {c' : Client} {o : Output} (sound : Sound .download c)
    (h : FileClient.step .download c a = some (c', o))
    (wrote : a = .read .wrote ∨ (∃ i, a = .call i .wrote) ∨ a = .monitor .wrote) :
    0 < holders c := by
  rcases wrote with rfl | ⟨i, rfl⟩ | rfl
  · cases readStep_reads h with
    | grant out closed pc =>
      simp only [holders, pc, readerLocks]
      omega
  · simp only [FileClient.step] at h
    split at h
    · rename_i call hcall
      have member := mem_of_getElem? hcall
      have valid := sound.calls call member
      cases callStep_called h with
      | leave call e out unlocked unwritten => exact absurd rfl unwritten
      | abandon call e out unlocked cut => rcases cut with cut | cut <;> cases cut
      | data => cases valid.1
      | complete => cases valid
      | cancelled =>
        have one := le_weight callLocks member
        simp only [callLocks] at one
        simp only [holders]
        omega
    · cases h
  · cases monitorStep_monitored h with
    | ack pc =>
      simp only [holders, pc, monitorLocks]
      omega

end Steps

end DownloadClient
