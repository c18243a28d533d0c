import WeDecent.FileLink

/-!
# What a successful Commit says

`ManagedFileUpload.Commit` waits for the child's `done` and returns the recorded error.
The peer closes the stream with the same `peer_close` after a commit and after a
cancellation, and `finish` closes `done` without a word from the peer. So `nil` says
that the server has committed as long as the frame that ends the stream is the
`upload_complete`, and the parent is not lost while a `Commit` waits.
-/

namespace UploadCommit

open Bool List Option StreamProtocol StreamRegistry MuxChild FileClient FileLink

/-- A `Commit` that has found the child open and not returned yet. -/
def pending : Call → Bool
  | .commitFrame => true
  | .commitWait => true
  | .commitResult => true
  | _ => false

def committing (c : Client) : Bool := c.calls.any pending

/-- A cancellation is written first only when no `Commit` is waiting, no `Commit` begins
to wait after it, and the children are closed only when no `Commit` is left that does
not know better. -/
def careful (w : Writer) (committed : Bool) : FileClient.Act → Bool
  | .call i .wrote =>
    match w.client.calls[i]? with
    | some .cancelFrame => ended w.written || !committing w.client
    | _ => true
  | .call i .run =>
    match w.client.calls[i]? with
    | some .commit => w.client.child.done || !cancelled w.written
    | _ => true
  | .finishChildren =>
    committed || w.client.terminalErr.isSome || w.client.child.done || !committing w.client
  | _ => true

def answers (l : Link) : FileLink.Act → Bool
  | .left a => careful l.left l.right.child.committed a
  | .right _ => true

/-- What the client's side keeps; `committed` is the server's. -/
structure Waiting (w : Writer) (committed : Bool) : Prop where
  uncancelled : committing w.client = true → cancelled w.written = false
  resulted : .commitResult ∈ w.client.calls → w.client.child.done = true
  settled : w.client.child.done = true → committing w.client = true →
    committed = true ∨ w.client.terminalErr.isSome = true
  watching : w.client.monitor = .idle ∨ w.client.monitor = .ended

theorem committing_iff {c : Client} : committing c = true ↔ ∃ call ∈ c.calls, pending call = true :=
  List.any_eq_true

/-- Only a StreamError can be the cancellation. -/
theorem cancelled_other {frames : List Message} {m : Message}
    (other : ∀ code, m ≠ .streamError code) : cancelled (frames ++ [m]) = cancelled frames := by
  by_cases h : ended frames = true
  · exact cancelled_append h
  rw [not_eq_true] at h
  rw [cancelled_open h, cancelled_of_open h]
  cases m with
  | streamError code => exact absurd rfl (other code)
  | _ => rfl

/-- An upload has no reader. -/
theorem upload_not_read {c c' : Client} {e : Event} {o : Output} (sound : Sound .upload c) :
    ¬Reads c e c' o := by
  have free : c.reader = .free := by
    have reader := sound.reader
    cases pc : c.reader with
    | free => rfl
    | _ =>
      rw [pc] at reader
      simp [Reader.Sound] at reader
  intro reads
  cases reads <;> simp_all

theorem upload_not_queued {c : Client} {i n : Nat} (sound : Sound .upload c) :
    c.queued[i]? ≠ some n := by
  intro at_i
  cases sound.queued (ne_nil_of_mem (mem_of_getElem? at_i))

section Client

variable {w : Writer} {committed : Bool} {c : Client}

section

variable (waiting : Waiting w committed)

include waiting

/-- A step that leaves the calls alone, and knows why when it closes the child. -/
theorem Waiting.aside (calls : c.calls = w.client.calls)
    (stays : w.client.child.done = true → c.child.done = true)
    (known : c.child.done = true → committing w.client = true →
      committed = true ∨ c.terminalErr.isSome = true)
    (watching : c.monitor = .idle ∨ c.monitor = .ended) :
    Waiting ⟨c, w.written ++ []⟩ committed := by
  have same : committing c = committing w.client := congrArg (List.any · pending) calls
  refine ⟨?_, ?_, ?_, watching⟩
  · dsimp only
    rw [same, append_nil]
    exact waiting.uncancelled
  · dsimp only
    rw [calls]
    exact fun h => stays (waiting.resulted h)
  · dsimp only
    rw [same]
    exact known

/-- A step that does not concern the outcome. -/
theorem Waiting.same (calls : c.calls = w.client.calls)
    (hdone : c.child.done = w.client.child.done) (err : c.terminalErr = w.client.terminalErr)
    (watching : c.monitor = .idle ∨ c.monitor = .ended) :
    Waiting ⟨c, w.written ++ []⟩ committed := by
  refine waiting.aside calls (fun h => hdone ▸ h) ?_ watching
  rw [hdone, err]
  exact waiting.settled

/-- A call goes on to `next` and writes `frames`. -/
theorem Waiting.call {i : Nat} {call : Call}
    (hcall : w.client.calls[i]? = some call) (frame : CallFrame w.client c) (next : Call)
    (calls : c.calls = w.client.calls.set i next) (frames : List Message)
    (joins : pending next = true → pending call = true ∨
      cancelled (w.written ++ frames) = false ∧ w.client.child.done = false)
    (closed : next = .commitResult → w.client.child.done = true)
    (harmless : committing w.client = true →
      cancelled (w.written ++ frames) = cancelled w.written) :
    Waiting ⟨c, w.written ++ frames⟩ committed := by
  have waits : committing c = true → committing w.client = true ∨
      cancelled (w.written ++ frames) = false ∧ w.client.child.done = false := by
    intro h
    obtain ⟨other, hmem, hpending⟩ := committing_iff.mp h
    rw [calls] at hmem
    rcases mem_or_eq_of_mem_set hmem with hold | rfl
    · exact .inl (committing_iff.mpr ⟨other, hold, hpending⟩)
    · refine (joins hpending).imp_left fun hcallPending => ?_
      exact committing_iff.mpr ⟨call, mem_of_getElem? hcall, hcallPending⟩
  refine ⟨?_, ?_, ?_, ?_⟩
  · intro h
    rcases waits h with hwaits | ⟨uncancelled, -⟩
    · rw [harmless hwaits]
      exact waiting.uncancelled hwaits
    · exact uncancelled
  · intro h
    rw [frame.done]
    rw [calls] at h
    rcases mem_or_eq_of_mem_set h with hold | hnext
    · exact waiting.resulted hold
    · exact closed hnext.symm
  · rw [frame.done, frame.terminalErr]
    intro hdone h
    rcases waits h with hwaits | ⟨-, open_⟩
    · exact waiting.settled hdone hwaits
    · rw [open_] at hdone
      cases hdone
  · rw [frame.monitor]
    exact waiting.watching

theorem waiting_called {i : Nat} {call : Call} {e : Event} {o : Output} (hcall :
    w.client.calls[i]? = some call)
    (called : Called w.client i call e c o) (kept : careful w committed (.call i e) = true) :
    Waiting ⟨c, w.written ++ o.frames⟩ committed := by
  have frame := called.frame
  have unwritten : committing w.client = true →
      cancelled (w.written ++ []) = cancelled w.written := by
    intro _
    rw [append_nil]
  cases called with
  | leave call e out unlocked other failed =>
    have silent : o.frames = [] := by
      rcases failed with rfl | ⟨err, rfl⟩ <;> rfl
    rw [silent]
    exact waiting.call hcall frame .returned rfl [] (by rintro ⟨⟩) (by rintro ⟨⟩) unwritten
  | abandon call e out unlocked cut failed =>
    have silent : o.frames = [] := by
      rcases failed with rfl | ⟨err, rfl⟩ <;> rfl
    rw [silent]
    refine waiting.call hcall frame .returned ?_ [] (by rintro ⟨⟩) (by rintro ⟨⟩) unwritten
    simp [Client.setCall, finish_calls]
  | data chunk rest =>
    have idle : pending (afterWrite rest) = false ∧ afterWrite rest ≠ .commitResult := by
      unfold afterWrite
      split <;> exact ⟨rfl, by rintro ⟨⟩⟩
    refine waiting.call hcall frame _ rfl _ ?_ (fun h => absurd h idle.2) ?_
    · rw [idle.1]
      rintro ⟨⟩
    · exact fun _ => cancelled_other (by simp)
  | commit open_ =>
    refine waiting.call hcall frame _ rfl [] ?_ ?_ unwritten
    · -- a `Commit` that begins to wait finds no cancellation
      simp only [careful, hcall, open_, Bool.false_or, not_eq_true'] at kept
      rw [append_nil]
      exact fun _ => .inr ⟨kept, open_⟩
    · split <;> rintro ⟨⟩
  | complete =>
    exact waiting.call hcall frame _ rfl _ (fun _ => .inl rfl) (by rintro ⟨⟩)
      fun _ => cancelled_other (by simp)
  | wake closed =>
    exact waiting.call hcall frame _ rfl [] (fun _ => .inl rfl) (fun _ => closed) unwritten
  | cancelled =>
    refine waiting.call hcall frame _ rfl _ (by rintro ⟨⟩) (by rintro ⟨⟩) ?_
    intro waits
    simp only [careful, hcall, waits, Bool.not_true, Bool.or_false] at kept
    exact cancelled_append kept
  | release =>
    refine waiting.call hcall frame .returned ?_ [] (by rintro ⟨⟩) (by rintro ⟨⟩) unwritten
    simp [Client.setCall, finish_calls]
  | _ =>
    exact waiting.call hcall frame _ rfl [] (by rintro ⟨⟩) (by rintro ⟨⟩) unwritten

/-- The monitor hands on what the peer said: after its `peer_close` the child is closed,
and whoever still waits then had completed the upload. -/
theorem waiting_handled {m : Message} (idle : w.client.monitor = .idle) (handled :
    Handled .upload w.client m c)
    (answered : m = .streamClose (some .peerClose) →
      committed = true ∨ cancelled w.written = true) : Waiting ⟨c, w.written ++ []⟩ committed := by
  cases handled with
  | accepted window child live h =>
    obtain ⟨-, -, -, -, -, -, -, -, hdone⟩ := Child.accept_eq_some h
    exact waiting.same rfl hdone rfl (.inl idle)
  | data payload child listed download => cases download
  | update bytes child live upload h =>
    obtain ⟨-, -, -, -, -, -, -, hdone⟩ := Child.receiveUpdate_eq_some h
    exact waiting.same rfl hdone rfl (.inl idle)
  | uploadClose =>
    rw [remove_eq]
    refine waiting.aside rfl ?_ ?_ (.inl idle)
    · intro h
      dsimp only
      split
      · rfl
      · exact h
    · intro _ waits
      refine .inl ((answered rfl).resolve_right ?_)
      rw [waiting.uncancelled waits]
      rintro ⟨⟩
  | downloadClose reason listed download => cases download
  | error =>
    rw [remove_eq]
    refine waiting.aside rfl ?_ (fun _ _ => .inr rfl) (.inl idle)
    intro h
    dsimp only
    split
    · rfl
    · exact h

theorem waiting_step {a : FileClient.Act} {o : Output} (sound : Sound .upload w.client) (h :
    FileClient.step .upload w.client a = some (c, o))
    (kept : careful w committed a = true)
    (answered : a.input = some (.streamClose (some .peerClose)) →
      committed = true ∨ cancelled w.written = true) :
    Waiting ⟨c, w.written ++ o.frames⟩ committed := by
  have ends : ∀ c' : Client, c' = w.client.finish →
      Waiting ⟨{ c' with monitor := .ended }, w.written ++ []⟩ committed := by
    rintro c' rfl
    rw [finish_eq]
    exact waiting.same rfl rfl rfl (.inr rfl)
  have joins : ∀ call : Call, pending call = false → call ≠ .commitResult →
      Waiting ⟨{ w.client with calls := w.client.calls ++ [call] }, w.written ++ []⟩ committed := by
    intro call idle other
    have same : committing { w.client with calls := w.client.calls ++ [call] } =
        committing w.client := by
      simp [committing, idle]
    refine ⟨?_, ?_, ?_, waiting.watching⟩
    · dsimp only
      rw [same, append_nil]
      exact waiting.uncancelled
    · intro hmem
      rcases mem_append.mp hmem with hold | hnew
      · exact waiting.resulted hold
      · exact absurd (mem_singleton.mp hnew).symm other
    · dsimp only
      rw [same]
      exact waiting.settled
  cases step_stepped h with
  | oversize => cases h
  | queues => cases h
  | locks _ at_i => exact absurd at_i (upload_not_queued sound)
  | reads reads => exact absurd reads (upload_not_read sound)
  | begins begins => cases begins <;> exact joins _ rfl (by rintro ⟨⟩)
  | calls at_i called => exact waiting_called waiting at_i called kept
  | handles idle found =>
    exact waiting_handled waiting idle (handleFrame_handled found)
      fun hm => answered (congrArg some hm)
  | refuses => exact ends _ rfl
  | monitors monitored =>
    rcases waiting.watching with idle | ended
    · exact absurd idle monitored.busy.1
    · exact absurd ended monitored.busy.2
  | breaks => exact ends _ rfl
  | finishes =>
    rw [finish_eq]
    exact waiting.same rfl rfl rfl waiting.watching
  | childless =>
    refine waiting.aside rfl (fun h => or_eq_true_iff.mpr (.inl h)) ?_ waiting.watching
    intro _ waits
    simp only [careful, waits, Bool.not_true, Bool.or_false, or_eq_true] at kept
    rcases kept with (hcommitted | herr) | hdone
    · exact .inl hcommitted
    · exact .inr herr
    · exact waiting.settled hdone waits
  | closes => exact waiting.same rfl rfl rfl waiting.watching

end

end Client

/-- The upload was committed, or the client's first frame that ends it cancels it. -/
def answered (l : Link) : Prop :=
  l.right.child.committed = true ∨ cancelled l.left.written = true

/-- `Handle` is about to acknowledge the end of the stream. -/
def acking : FileServer.Handle → Bool
  | .closeChild .ack => true
  | .closeDone .ack => true
  | .endWrite .ack => true
  | _ => false

structure Acknowledged (l : Link) : Prop where
  unstarted : l.right.forward = .unstarted
  acks : acking l.right.handle = true → answered l
  sent : .streamClose (some .peerClose) ∈ l.toLeft → answered l

section Server

variable {l l' : Link} {out : List Message}

/-- `Handle` goes on without acknowledging more than it did. -/
theorem Acknowledged.onward (acknowledged : Acknowledged l) {s' : FileServer.Server}
    (right : l'.right = s') (left : l'.left = l.left) (toLeft : l'.toLeft = l.toLeft ++ out)
    (forward : s'.forward = l.right.forward)
    (committed : s'.child.committed = l.right.child.committed)
    (acks : acking s'.handle = true → answered l)
    (sends : .streamClose (some .peerClose) ∈ out → answered l) : Acknowledged l' := by
  have same : answered l → answered l' := by
    unfold answered
    rw [right, left, committed]
    exact id
  refine ⟨?_, ?_, ?_⟩
  · rw [right, forward]
    exact acknowledged.unstarted
  · rw [right]
    exact fun h => same (acks h)
  rw [toLeft]
  intro hmem
  rcases mem_append.mp hmem with hold | hnew
  · exact same (acknowledged.sent hold)
  · exact same (sends hnew)

theorem acking_remove {s : FileServer.Server} {after : FileServer.After}
    (h : acking (s.remove after).handle = true) : after = .ack := by
  rcases FileServer.remove_handle s after with hpc | hpc
  · rw [hpc] at h
    cases after with
    | ack => rfl
    | _ => cases h
  · rw [hpc] at h
    cases after with
    | ack => rfl
    | _ => cases h

theorem Acknowledged.removes (acknowledged : Acknowledged l) (after : FileServer.After)
    (right : l'.right = l.right.remove after) (left : l'.left = l.left)
    (toLeft : l'.toLeft = l.toLeft ++ []) (acks : after = .ack → answered l) :
    Acknowledged l' :=
  acknowledged.onward right left toLeft (FileServer.remove_forward _ _)
    (congrArg FileServer.Child.committed (FileServer.remove_child _ _))
    (fun h => acks (acking_remove h)) (by rintro ⟨⟩)

theorem handle_acknowledged {ok : Bool} (heard : Heard l) (acknowledged : Acknowledged l)
    (served : FileServer.Served .upload l.right ok l'.right out) (left : l'.left = l.left)
    (toLeft : l'.toLeft = l.toLeft ++ out) : Acknowledged l' := by
  generalize hright : l'.right = s' at served
  cases served with
  | update ok n c pc download => cases download
  | commit =>
    have committed : answered l' := .inl (by rw [hright])
    refine ⟨?_, fun _ => committed, fun _ => committed⟩
    rw [hright]
    exact acknowledged.unstarted
  | peerClose ok pc download => cases download
  | peerError ok pc =>
    have cancels : answered l := .inr (heard.cancelling (.inr pc))
    exact acknowledged.onward hright left toLeft rfl rfl (fun _ => cancels) (by rintro ⟨⟩)
  | wrote | restore | signal | raise =>
    exact acknowledged.onward hright left toLeft rfl rfl nofun nofun
  | writeFailed | overflow => exact acknowledged.removes _ hright left toLeft (by rintro ⟨⟩)
  | grant =>
    refine acknowledged.onward hright left toLeft rfl rfl (by rintro ⟨⟩) ?_
    intro hmem
    cases mem_singleton.mp hmem
  | remove ok after pc =>
    refine acknowledged.removes _ hright left toLeft ?_
    rintro rfl
    exact acknowledged.acks (congrArg acking pc)
  | close ok after pc =>
    refine acknowledged.onward hright left toLeft rfl rfl ?_ (by rintro ⟨⟩)
    intro h
    refine acknowledged.acks ?_
    rw [pc]
    cases after <;> exact h
  | finish ok after pc =>
    refine acknowledged.onward hright left toLeft rfl rfl (by rintro ⟨⟩) ?_
    intro hmem
    refine acknowledged.acks ?_
    rw [pc]
    cases after with
    | ack => rfl
    | report => cases mem_singleton.mp hmem
    | _ => cases hmem
  | _ =>
    exact acknowledged.onward hright left toLeft rfl rfl (by rintro ⟨⟩) (by rintro ⟨⟩)

theorem server_acknowledged {a : FileServer.Act} (heard : Heard l) (acknowledged : Acknowledged l)
    (moves : Duplex.RightMoves (serverParty .upload) l a out l') : Acknowledged l' := by
  have stepped : FileServer.Stepped .upload l.right a l'.right out :=
    FileServer.step_stepped moves.step
  generalize hright : l'.right = s' at stepped
  cases stepped with
  | receive m =>
    have routed : acking (FileServer.route l.right m) = false := by
      unfold FileServer.route
      split
      · split
        · split <;> rfl
        · split <;> rfl
        · split <;> rfl
        · split <;> rfl
        · rfl
      · rfl
    refine acknowledged.onward hright moves.left moves.toLeft rfl rfl ?_ (by rintro ⟨⟩)
    dsimp only
    rw [routed]
    rintro ⟨⟩
  | handle ok s' out served =>
    exact handle_acknowledged heard acknowledged (hright ▸ served) moves.left moves.toLeft
  | forward a s' out silent forwarded =>
    exact absurd acknowledged.unstarted forwarded.started

theorem client_acknowledged {a : FileClient.Act} (acknowledged : Acknowledged l)
    (moves : Duplex.LeftMoves (clientParty .upload) l a out l') : Acknowledged l' := by
  obtain ⟨o, -, -, hwritten⟩ := client_step moves
  have hserver := moves.right
  have mono : answered l → answered l' := by
    unfold answered
    rw [hserver, hwritten]
    exact fun h => h.imp_right (cancelled_mono out)
  refine ⟨?_, ?_, ?_⟩
  · rw [hserver]
    exact acknowledged.unstarted
  · rw [hserver]
    exact fun h => mono (acknowledged.acks h)
  · intro hmem
    refine mono (acknowledged.sent ?_)
    rw [moves.toLeft]
    exact mem_append_right _ hmem

end Server

/-- What a careful run keeps. -/
structure Truthful (l : Link) : Prop where
  accounted : Accounted .upload l
  heard : Heard l
  acknowledged : Acknowledged l
  waiting : Waiting l.left l.right.child.committed

theorem truthful_start : Truthful (start .upload 0) := by
  refine ⟨accounted_start .upload 0, heard_start .upload 0, ⟨rfl, by rintro ⟨⟩, ?_⟩,
    ⟨by rintro ⟨⟩, by rintro ⟨⟩, by rintro ⟨⟩, .inl rfl⟩⟩
  intro hmem
  cases mem_singleton.mp hmem

theorem truthful_step (l : Link) (act : FileLink.Act) (l' : Link) (truthful : Truthful l)
    (kept : answers l act = true) (hs : FileLink.step .upload l act = some l') :
    Truthful l' := by
  obtain ⟨accounted, heard, acknowledged, waiting⟩ := truthful
  have accounted' := accounted_step accounted hs
  have heard' := heard_step heard hs
  cases act with
  | left a =>
    obtain ⟨out, moves⟩ := Duplex.step_left hs
    obtain ⟨o, hstep, rfl, hwritten⟩ := client_step moves
    refine ⟨accounted', heard', client_acknowledged acknowledged moves, ?_⟩
    have waits : Waiting ⟨l'.left.client, l.left.written ++ o.frames⟩ l.right.child.committed := by
      refine waiting_step waiting accounted.sound hstep kept ?_
      intro hinput
      refine acknowledged.sent ?_
      have htoLeft : l.toLeft = a.input.toList ++ l'.toLeft := moves.toLeft
      rw [htoLeft, hinput]
      exact mem_cons_self
    rw [moves.right]
    rwa [← hwritten] at waits
  | right =>
    obtain ⟨out, moves⟩ := Duplex.step_right hs
    refine ⟨accounted', heard', server_acknowledged heard acknowledged moves, ?_⟩
    have committed := FileServer.committed_stays moves.step
    rw [moves.left]
    refine ⟨waiting.uncancelled, waiting.resulted, ?_, waiting.watching⟩
    exact fun hdone waits => (waiting.settled hdone waits).imp_left committed

/-- Only the end of a `Commit` returns `nil` to one. -/
theorem returns_commit {c c' : Client} {a : FileClient.Act} (sound : Sound .upload c)
    (h : FileClient.step .upload c a = some (c', .commit none)) :
    .commitResult ∈ c.calls ∧ c.terminalErr = none := by
  generalize hout : Output.commit none = o at h
  cases step_stepped h with
  | calls at_i called =>
    cases called with
    | leave call e out unlocked unwritten failed | abandon call e out unlocked cut failed =>
      subst hout
      rcases failed with hfailed | ⟨err, hfailed⟩ <;> cases hfailed
    | conclude =>
      refine ⟨mem_of_getElem? at_i, ?_⟩
      have hnone : none = c.terminalErr.map CallError.stream := Output.commit.inj hout
      exact map_eq_none_iff.mp hnone.symm
    | _ => cases hout
  | reads reads => exact absurd reads (upload_not_read sound)
  | monitors monitored => cases monitored <;> cases hout
  | _ => cases hout

/-- In a careful run a `Commit` that returns `nil` has been executed by the server. -/
theorem commit_truthful (acts : List FileLink.Act) (a : FileClient.Act) {l : Link} {c : Client}
    (meets : Runs.Meets (FileLink.step .upload) (fun l a => answers l a = true) (start .upload 0)
      acts)
    (run : Runs.exec (FileLink.step .upload) (start .upload 0) acts = some l)
    (nil : FileClient.step .upload l.left.client a = some (c, .commit none)) :
    l.right.child.committed = true := by
  have truthful : Truthful l :=
    Runs.exec_invariant Truthful truthful_step truthful_start meets run
  obtain ⟨concluding, unfailed⟩ := returns_commit truthful.accounted.sound nil
  have hdone := truthful.waiting.resulted concluding
  have waits : committing l.left.client = true :=
    committing_iff.mpr ⟨.commitResult, concluding, rfl⟩
  refine (truthful.waiting.settled hdone waits).resolve_right ?_
  rw [unfailed]
  rintro ⟨⟩

/-- The peer's acceptance reaches the client, which begins a `Commit` and a `Cancel`. -/
def bothBegin : List FileLink.Act := [
  .left (.deliver (.streamAccepted (some FileServer.typedFileReceiveWindow))),
  .left .beginCommit, .left .beginCancel]

/-- `Commit` ends the upload and the server commits it. -/
def committedUpload : List FileLink.Act := bothBegin ++ [
  .left (.call 0 .run), .left (.call 0 .wrote),
  .right (.receive (.streamClose (some .uploadComplete))), .right (.handle true),
  .right (.handle true), .right (.handle true), .right (.handle true), .right (.handle true),
  .left (.deliver (.streamClose (some .peerClose))), .left (.call 0 .childDone)]

theorem commit_truthful_answered :
    ∃ l c, Runs.exec (FileLink.step .upload) (start .upload 0) committedUpload = some l ∧
      FileClient.step .upload l.left.client (.call 0 .run) = some (c, .commit none) ∧
      l.right.child.committed = true :=
  ⟨_, _, rfl, rfl, commit_truthful committedUpload (.call 0 .run) (by decide) rfl rfl⟩

/-- In any run, a `peer_close` on its way says that the upload is committed or was cancelled. -/
theorem peer_close_justified (acts : List FileLink.Act) {l : Link}
    (run : Runs.exec (FileLink.step .upload) (start .upload 0) acts = some l)
    (sent : .streamClose (some .peerClose) ∈ l.toLeft) :
    l.right.child.committed = true ∨ cancelled l.left.written = true := by
  have kept : Heard l ∧ Acknowledged l := by
    refine Runs.reachable_invariant (fun l => Heard l ∧ Acknowledged l) ?_
      ⟨truthful_start.heard, truthful_start.acknowledged⟩ ⟨acts, run⟩
    intro l act l' kept hs
    refine ⟨heard_step kept.1 hs, ?_⟩
    cases act with
    | left =>
      obtain ⟨_, moves⟩ := Duplex.step_left hs
      exact client_acknowledged kept.2 moves
    | right =>
      obtain ⟨_, moves⟩ := Duplex.step_right hs
      exact server_acknowledged kept.1 kept.2 moves
  exact kept.2.sent sent

theorem peer_close_justified_commit : ∃ l,
    Runs.exec (FileLink.step .upload) (start .upload 0) (committedUpload.take 11) = some l ∧
      (l.right.child.committed = true ∨ cancelled l.left.written = true) :=
  ⟨_, rfl, peer_close_justified (committedUpload.take 11) rfl (by decide)⟩

/-- `Cancel` sets `closing` and writes its StreamError; `Commit` writes nothing and takes
the answer for its own. -/
def cancelledUpload : List FileLink.Act := bothBegin ++ [
  .left (.call 1 .run), .left (.call 0 .run), .left (.call 1 .wrote),
  .right (.receive (.streamError (some .clientCancelled))), .right (.handle true),
  .right (.handle true), .right (.handle true), .right (.handle true), .right (.handle true),
  .left (.deliver (.streamClose (some .peerClose))), .left (.call 0 .childDone)]

theorem cancelled_upload_reported_committed :
    ∃ l c, Runs.exec (FileLink.step .upload) (start .upload 0) cancelledUpload = some l ∧
      FileClient.step .upload l.left.client (.call 0 .run) = some (c, .commit none) ∧
      l.right.child.committed = false :=
  ⟨_, _, rfl, rfl, rfl⟩

end UploadCommit
