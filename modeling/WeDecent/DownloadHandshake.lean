import WeDecent.DownloadClient
import WeDecent.DownloadServer

/-!
# The end of a download

A download ends with the server's `download_complete` and the client's `peer_close`,
or with the client's cancellation and the server's `peer_close`, and the two may cross.
Both sides agree on the end when each of the five goroutines acts on what is still
true at the moment it acts. What the monitor has read and not yet answered counts as
unread below: it is the first frame of the `inbox`.
-/

namespace DownloadHandshake

open Bool List Option

open StreamProtocol StreamRegistry MuxChild FileClient FileLink FileIsolation DownloadClient
  DownloadServer

def downloadComplete : Message := .streamClose (some .downloadComplete)

def peerClose : Message := .streamClose (some .peerClose)

/-- The client writes only while the server has the stream open. -/
def reaches (s : FileServer.Server) : FileClient.Act → Bool
  | .read .wrote => s.isOpen
  | .call _ .wrote => s.isOpen
  | .monitor .wrote => s.isOpen
  | _ => true

def conforms (l : Link) : FileLink.Act → Bool
  | .left a => heeds l.left.client a && undisturbed a && reaches l.right a
  | .right b => serverHeeds l.right l.toRight b

/-- The frame that the monitor has read and is about to answer. -/
def heldFrame : Monitor → List Message
  | .close reason _ => [.streamClose (some reason)]
  | .ack => [downloadComplete]
  | _ => []

def inbox (l : Link) : List Message := heldFrame l.left.client.monitor ++ l.toLeft

/-- Nothing follows a `peer_close` or a StreamError, and at most a `peer_close` follows a
`download_complete`. -/
def Farewell : List Message → Prop
  | [] => True
  | m :: rest => (m = peerClose ∨ (∃ code, m = .streamError code) → rest = []) ∧
      (m = downloadComplete → rest = [] ∨ rest = [peerClose]) ∧ Farewell rest

theorem Farewell.of_append {first second : List Message} (h : Farewell (first ++ second)) :
    Farewell second := by
  induction first with
  | nil => exact h
  | cons m _ ih => exact ih h.2.2

theorem Farewell.append {frames : List Message} {m : Message} (farewell : Farewell frames)
    (plain : ∀ f ∈ frames, f.ends = false ∨ f = downloadComplete ∧ m = peerClose) :
    Farewell (frames ++ [m]) := by
  induction frames with
  | nil => exact ⟨fun _ => rfl, fun _ => .inl rfl, trivial⟩
  | cons f _ ih =>
    obtain ⟨-, completes, later⟩ := farewell
    have tail := ih later fun g hg => plain g (mem_cons_of_mem f hg)
    rcases plain f mem_cons_self with open_ | ⟨rfl, rfl⟩
    · refine ⟨?_, ?_, tail⟩
      · rintro (rfl | ⟨code, rfl⟩) <;> cases open_
      · rintro rfl
        cases open_
    · refine ⟨?_, fun _ => ?_, tail⟩
      · rintro (h | ⟨code, h⟩) <;> cases h
      rcases completes rfl with rfl | rfl
      · exact .inr rfl
      · rcases plain peerClose (mem_cons_of_mem _ mem_cons_self) with h | ⟨h, -⟩
        · cases h
        · cases h

def accepts : Message → Bool
  | .streamAccepted _ => true
  | _ => false

/-- The acceptance of the stream is the first frame, and no one calls before it. -/
def Intake (c : Client) (frames : List Message) : Prop :=
  (c.child.acceptedOK = true ∧ ∀ m ∈ frames, accepts m = false) ∨
    (c.child.acceptedOK = false ∧ c.calls = [] ∧ c.child.closing = false ∧
      ∃ window rest, frames = .streamAccepted window :: rest ∧ ∀ m ∈ rest, accepts m = false)

/-- The whole file is sent and acknowledged. -/
structure Completed (l : Link) : Prop where
  returned : l.right.forward = .returned
  whole : l.right.child.remaining = 0
  ended : ended l.left.written = true
  uncancelled : cancelled l.left.written = false

structure Agreed (l : Link) : Prop where
  spoken : ∀ m ∈ inbox l, speaks m = true
  order : Farewell (inbox l)
  intake : Intake l.left.client l.toLeft
  completed : downloadComplete ∈ inbox l → l.right.forward = .returned ∧ l.right.child.remaining = 0
  acked : peerClose ∈ inbox l → cancelled l.left.written = true ∧ Spent l.right
  failed : ∀ code, .streamError code ∈ inbox l → Spent l.right
  gone : l.left.client.listed = false → inbox l = [] ∧ (Spent l.right ∨ Completed l)

theorem agreed_start (size : Nat) : Agreed (start .download size) := by
  have accepted : inbox (start .download size) = [.streamAccepted (some 1)] := rfl
  refine ⟨?_, ?_, ?_, ?_, ?_, ?_, by rintro ⟨⟩⟩
  · rw [accepted]
    intro m hm
    rw [mem_singleton.mp hm]
    rfl
  · rw [accepted]
    exact ⟨fun _ => rfl, fun _ => .inl rfl, trivial⟩
  · exact .inr ⟨rfl, rfl, rfl, some 1, [], rfl, forall_mem_nil _⟩
  · rw [accepted]
    intro hm
    cases mem_singleton.mp hm
  · rw [accepted]
    intro hm
    cases mem_singleton.mp hm
  · rw [accepted]
    intro code hm
    cases mem_singleton.mp hm

section Server

variable {l l' : Link} {out : List Message}

/-- A server step that writes nothing. -/
theorem Agreed.silent (agreed : Agreed l) (left : l'.left = l.left) (toLeft : l'.toLeft = l.toLeft)
    (returned : l.right.forward = .returned → l'.right.forward = .returned ∧
      l'.right.child.remaining = l.right.child.remaining)
    (spent : Spent l.right → Spent l'.right) : Agreed l' := by
  have same : inbox l' = inbox l := by
    unfold inbox
    rw [left, toLeft]
  have completes : l.right.forward = .returned ∧ l.right.child.remaining = 0 →
      l'.right.forward = .returned ∧ l'.right.child.remaining = 0 := by
    rintro ⟨hreturned, whole⟩
    exact (returned hreturned).imp_right fun h => h.trans whole
  refine ⟨?_, ?_, ?_, ?_, ?_, ?_, ?_⟩
  · rw [same]
    exact agreed.spoken
  · rw [same]
    exact agreed.order
  · rw [left, toLeft]
    exact agreed.intake
  · rw [same]
    exact fun hm => completes (agreed.completed hm)
  · rw [same, left]
    exact fun hm => (agreed.acked hm).imp_right spent
  · rw [same]
    exact fun code hm => spent (agreed.failed code hm)
  rw [same, left]
  intro unlisted
  refine (agreed.gone unlisted).imp_right fun past => ?_
  rcases past with hspent | complete
  · exact .inl (spent hspent)
  · obtain ⟨hreturned, whole⟩ := completes ⟨complete.returned, complete.whole⟩
    exact .inr ⟨hreturned, whole, left ▸ complete.ended, left ▸ complete.uncancelled⟩

/-- A server step that writes `m` to a client that still lists the stream. -/
theorem Agreed.sends (agreed : Agreed l) (m : Message) (left : l'.left = l.left)
    (toLeft : l'.toLeft = l.toLeft ++ [m]) (listed : l.left.client.listed = true)
    (valid : speaks m = true) (fresh : accepts m = false)
    (plain : ∀ f ∈ inbox l, f.ends = false ∨ f = downloadComplete ∧ m = peerClose)
    (completed : m = downloadComplete ∨ downloadComplete ∈ inbox l →
      l'.right.forward = .returned ∧ l'.right.child.remaining = 0)
    (acked : m = peerClose → cancelled l.left.written = true ∧ Spent l'.right)
    (failed : ∀ code, m = .streamError code → Spent l'.right) : Agreed l' := by
  have grown : inbox l' = inbox l ++ [m] := by
    unfold inbox
    rw [left, toLeft, append_assoc]
  -- what ends the stream in the inbox is at most the `download_complete`
  have other (f : Message) (hends : f.ends = true) (hne : f ≠ downloadComplete)
      (hm : f ∈ inbox l') : f = m := by
    rw [grown] at hm
    rcases mem_append.mp hm with hold | hnew
    · rcases plain f hold with h | h
      · rw [hends] at h
        cases h
      · exact absurd h.1 hne
    · exact mem_singleton.mp hnew
  refine ⟨?_, ?_, ?_, ?_, ?_, ?_, ?_⟩
  · rw [grown]
    intro f hf
    rcases mem_append.mp hf with hold | hnew
    · exact agreed.spoken f hold
    · rw [mem_singleton.mp hnew]
      exact valid
  · rw [grown]
    exact agreed.order.append plain
  · rw [left, toLeft]
    rcases agreed.intake with ⟨accepted, later⟩ | ⟨unaccepted, calls, closing, window, rest, hrest,
      later⟩
    · refine .inl ⟨accepted, ?_⟩
      intro f hf
      rcases mem_append.mp hf with hold | hnew
      · exact later f hold
      · rw [mem_singleton.mp hnew]
        exact fresh
    · refine .inr ⟨unaccepted, calls, closing, window, rest ++ [m], ?_, ?_⟩
      · rw [hrest, cons_append]
      intro f hf
      rcases mem_append.mp hf with hold | hnew
      · exact later f hold
      · rw [mem_singleton.mp hnew]
        exact fresh
  · rw [grown]
    intro hm
    refine completed ?_
    rcases mem_append.mp hm with hold | hnew
    · exact .inr hold
    · exact .inl (mem_singleton.mp hnew).symm
  · rw [left]
    exact fun hm => acked (other peerClose rfl (by rintro ⟨⟩) hm).symm
  · exact fun code hm => failed code (other (.streamError code) rfl (by rintro ⟨⟩) hm).symm
  · rw [left, listed]
    rintro ⟨⟩

/-- As long as `forwardDownload` is not at its end and the server not spent, the stream is
listed and nothing it waits for ends it. -/
theorem Agreed.unended (agreed : Agreed l) (going : l.right.forward ≠ .returned)
    (unspent : ¬ Spent l.right) :
    l.left.client.listed = true ∧ ∀ f ∈ inbox l, f.ends = false := by
  constructor
  · by_contra unlisted
    rw [not_eq_true] at unlisted
    rcases (agreed.gone unlisted).2 with h | h
    · exact unspent h
    · exact going h.returned
  · intro f hf
    have valid := agreed.spoken f hf
    cases f with
    | streamClose reason =>
      cases reason with
      | none => cases valid
      | some =>
        rcases of_decide_eq_true valid with rfl | rfl
        · exact absurd (agreed.completed hf).1 going
        · exact absurd (agreed.acked hf).2 unspent
    | streamError code => exact absurd (agreed.failed code hf) unspent
    | _ => rfl

theorem forward_agreed {a : FileServer.Act} (agreed : Agreed l)
    (serving : Serving (cancelled l.left.written) l.right)
    (forwarded : FileServer.Forwarded l.right a l'.right out) (left : l'.left = l.left)
    (toLeft : l'.toLeft = l.toLeft ++ out) : Agreed l' := by
  have spent : Spent l.right → Spent l'.right := fun h => (h.forward forwarded).1
  have valid := (sized_forward serving.sized forwarded).2
  have unspent (h : hushed l.right.child.remaining l.right.forward = false) : ¬ Spent l.right := by
    intro hspent
    rw [hspent.hush] at h
    cases h
  have returned : l.right.forward ≠ .returned := forwarded.unreturned
  have silent (quiet : out = []) : Agreed l' := by
    rw [quiet, append_nil] at toLeft
    exact agreed.silent left toLeft (fun h => absurd h returned) spent
  generalize hright : l'.right = s' at forwarded spent
  cases forwarded with
  | write _ _ _ pc =>
    obtain ⟨listed, plain⟩ := agreed.unended returned (unspent (by rw [pc]; rfl))
    refine agreed.sends _ left toLeft listed (valid _ mem_cons_self) rfl
      (fun f hf => .inl (plain f hf)) ?_ nofun nofun
    rintro (h | h)
    · cases h
    · exact absurd (agreed.completed h).1 returned
  | complete pc =>
    obtain ⟨listed, plain⟩ := agreed.unended returned (unspent (by rw [pc]; rfl))
    refine agreed.sends _ left toLeft listed rfl rfl (fun f hf => .inl (plain f hf)) ?_ ?_ nofun
    · have whole := serving.sized
      rw [pc] at whole
      rw [hright]
      exact fun _ => ⟨rfl, whole⟩
    · intro h
      cases h
  | fail pc =>
    obtain ⟨listed, plain⟩ := agreed.unended returned (unspent (by rw [pc]; rfl))
    obtain ⟨gone, still⟩ := serving.failing (by rw [pc]; rfl)
    refine agreed.sends _ left toLeft listed rfl rfl (fun f hf => .inl (plain f hf)) ?_ nofun ?_
    · rintro (h | h)
      · cases h
      · exact absurd (agreed.completed h).1 returned
    · rw [hright]
      exact fun _ _ => ⟨gone, serving.failed pc, rfl, still⟩
  | _ => exact silent rfl

theorem handle_agreed {ok : Bool} (agreed : Agreed l) (heard : Heard l)
    (serving : Serving (cancelled l.left.written) l.right) (suited : suits .download l.right.handle)
    (served : FileServer.Served .download l.right ok l'.right out)
    (running : l'.right.handle.failed = false) (left : l'.left = l.left)
    (toLeft : l'.toLeft = l.toLeft ++ out) : Agreed l' := by
  have frame := served.frame
  have spent : Spent l.right → Spent l'.right := fun h => (h.serve served running).1
  have silent (quiet : out = []) : Agreed l' := by
    rw [quiet, append_nil] at toLeft
    exact agreed.silent left toLeft (fun h => ⟨frame.forward.trans h, frame.remaining⟩) spent
  generalize hright : l'.right = s' at served spent frame
  cases served with
  | grant ok n pc =>
    rw [pc] at suited
    cases suited
  | finish ok after pc =>
    rcases serving.answering after (by rw [pc]; rfl) with rfl | ⟨rfl, cancels⟩
    · exact silent rfl
    have unspent : ¬ Spent l.right := by
      intro hspent
      have := hspent.still
      rw [pc] at this
      cases this
    have spent' : Spent l'.right := by
      have closed := serving.finished _ pc
      rw [hright]
      refine ⟨heard.gone (congrArg removed pc), closed, ?_, rfl⟩
      refine (serving.dormant closed).resolve_right fun hfail => ?_
      have := (serving.failing (by rw [hfail]; rfl)).2
      rw [pc] at this
      cases this
    refine agreed.sends peerClose left toLeft ?_ rfl rfl ?_ ?_ ?_ nofun
    · by_contra unlisted
      rw [not_eq_true] at unlisted
      rcases (agreed.gone unlisted).2 with h | h
      · exact unspent h
      · rw [h.uncancelled] at cancels
        cases cancels
    · intro f hf
      have valid := agreed.spoken f hf
      cases f with
      | streamClose reason =>
        cases reason with
        | none => cases valid
        | some =>
          rcases of_decide_eq_true valid with rfl | rfl
          · exact .inr ⟨rfl, rfl⟩
          · exact absurd (agreed.acked hf).2 unspent
      | streamError code => exact absurd (agreed.failed code hf) unspent
      | _ => exact .inl rfl
    · rintro (h | h)
      · cases h
      · obtain ⟨returned, whole⟩ := agreed.completed h
        rw [hright]
        exact ⟨returned, whole⟩
    · exact fun _ => ⟨cancels, spent'⟩
  | _ => exact silent rfl

end Server

section Client

variable {l l' : Link} {out : List Message}

/-- A client step that takes `read` from the inbox and keeps the stream listed, if it is. -/
theorem Agreed.takes (agreed : Agreed l) (read : List Message) (right : l'.right = l.right)
    (written : l'.left.written = l.left.written ++ out) (took : inbox l = read ++ inbox l')
    (listed : l'.left.client.listed = l.left.client.listed)
    (intake : Intake l'.left.client l'.toLeft) : Agreed l' := by
  have fewer {m : Message} (hm : m ∈ inbox l') : m ∈ inbox l := by
    rw [took]
    exact mem_append_right read hm
  refine ⟨fun m hm => agreed.spoken m (fewer hm), ?_, intake, ?_, ?_, ?_, ?_⟩
  · have order := agreed.order
    rw [took] at order
    exact order.of_append
  · rw [right]
    exact fun hm => agreed.completed (fewer hm)
  · rw [right, written]
    exact fun hm => (agreed.acked (fewer hm)).imp_left (cancelled_mono out)
  · rw [right]
    exact fun code hm => agreed.failed code (fewer hm)
  rw [listed, right]
  intro unlisted
  obtain ⟨empty, past⟩ := agreed.gone unlisted
  rw [took] at empty
  refine ⟨(append_eq_nil_iff.mp empty).2, past.imp_right fun complete => ?_⟩
  refine ⟨right ▸ complete.returned, right ▸ complete.whole, ?_, ?_⟩
  · rw [written, ended_append, complete.ended, Bool.true_or]
  · rw [written, cancelled_append complete.ended]
    exact complete.uncancelled

/-- The client takes the stream from its tables after the last frame. -/
theorem agreed_removed (empty : inbox l' = []) (past : Spent l'.right ∨ Completed l')
    (intake : Intake l'.left.client l'.toLeft) : Agreed l' := by
  refine ⟨?_, ?_, intake, ?_, ?_, ?_, fun _ => ⟨empty, past⟩⟩
  · rw [empty]
    exact forall_mem_nil _
  · rw [empty]
    trivial
  · rw [empty]
    rintro ⟨⟩
  · rw [empty]
    rintro ⟨⟩
  · rw [empty]
    exact nofun

/-- The calls of the client leave the monitor and the tables alone, and there are none
before the stream is accepted. -/
structure Aside (c c' : Client) : Prop where
  monitor : c'.monitor = c.monitor
  listed : c'.listed = c.listed
  acceptedOK : c'.child.acceptedOK = c.child.acceptedOK
  uncalled : c.child.acceptedOK = false → c.calls = [] →
    c'.calls = [] ∧ c'.child.closing = c.child.closing

theorem step_aside {c c' : Client} {a : FileClient.Act} {o : Output}
    (h : FileClient.step .download c a = some (c', o)) (up : c.parent = .up)
    (calm : undisturbed a = true) (unread : a.input = none) (other : ∀ e, a ≠ .monitor e) :
    Aside c c' := by
  cases step_stepped h with
  | reads reads =>
    have frame := reads.frame
    exact ⟨frame.monitor, frame.listed, frame.acceptedOK,
      fun _ empty => ⟨frame.calls.trans empty, frame.closing⟩⟩
  | begins _ accepted =>
    refine ⟨rfl, rfl, rfl, fun unaccepted _ => ?_⟩
    rw [accepted] at unaccepted
    cases unaccepted
  | calls at_i called =>
    have frame := called.frame
    refine ⟨frame.monitor, frame.listed, frame.acceptedOK, fun _ empty => ?_⟩
    rw [empty] at at_i
    cases at_i
  | handles => cases unread
  | refuses => cases unread
  | monitors => exact absurd rfl (other _)
  | breaks => cases calm
  | finishes => cases calm
  | childless ending => cases up.symm.trans ending
  | closes childless => cases up.symm.trans childless
  | _ => exact ⟨rfl, rfl, rfl, fun _ empty => ⟨empty, rfl⟩⟩

theorem Aside.agreed (agreed : Agreed l) (aside : Aside l.left.client l'.left.client)
    (right : l'.right = l.right) (written : l'.left.written = l.left.written ++ out)
    (toLeft : l'.toLeft = l.toLeft) : Agreed l' := by
  refine agreed.takes [] right written ?_ aside.listed ?_
  · unfold inbox
    rw [aside.monitor, toLeft, nil_append]
  rw [toLeft]
  rcases agreed.intake with ⟨accepted, later⟩ | ⟨unaccepted, empty, closing, first⟩
  · exact .inl ⟨aside.acceptedOK.trans accepted, later⟩
  · obtain ⟨empty', closing'⟩ := aside.uncalled unaccepted empty
    exact .inr ⟨aside.acceptedOK.trans unaccepted, empty', closing'.trans closing, first⟩

/-- A stream with something in its inbox is in the client's tables. -/
theorem Agreed.listed (agreed : Agreed l) (waiting : inbox l ≠ []) :
    l.left.client.listed = true := by
  by_contra unlisted
  rw [not_eq_true] at unlisted
  exact waiting (agreed.gone unlisted).1

/-- The frame that the client reads next is one it can take. -/
theorem deliver_expected {m : Message} {rest : List Message} (agreed : Agreed l)
    (disciplined : Disciplined l.left) (accounted : Accounted .download l)
    (next : l.toLeft = m :: rest) : handleFrame .download l.left.client m ≠ none := by
  have hm : m ∈ inbox l := by
    unfold inbox
    rw [next]
    exact mem_append_right _ mem_cons_self
  have listed := agreed.listed (ne_nil_of_mem hm)
  have live : l.left.client.live = true := disciplined.tables.1.trans listed
  have valid := agreed.spoken m hm
  -- only the acceptance comes before the stream is accepted
  have accepted (other : accepts m = false) : l.left.client.child.acceptedOK = true := by
    rcases agreed.intake with ⟨h, -⟩ | ⟨-, -, -, window, rest', first, -⟩
    · exact h
    · rw [next] at first
      obtain ⟨rfl, -⟩ := List.cons.inj first
      cases other
  cases m with
  | streamAccepted window =>
    cases window with
    | none => cases valid
    | some window =>
      have fresh : l.left.client.child.acceptedOK = false ∧
          l.left.client.child.closing = false := by
        rcases agreed.intake with ⟨-, later⟩ | ⟨unaccepted, -, closing, -⟩
        · rw [next] at later
          cases later _ mem_cons_self
        · exact ⟨unaccepted, closing⟩
      have valid' : validateStreamAccepted window = true := valid
      simp [handleFrame, valid', live, Child.accept, fresh.1, fresh.2]
  | streamData payload =>
    have open_ : l.left.client.child.done = false := by
      rw [disciplined.tables.2, listed]
      rfl
    have flight : payload.length ≤ (downlink l).flight := by
      simp only [downlink, ServerLedger.downLoop, next, load_cons, Message.load]
      omega
    have fits : payload.length + l.left.client.held ≤ managedMuxReceiveWindow :=
      CreditLoop.flight_fits accounted.down flight
    have window := accounted.windowed open_
    have returned := l.left.client.reader.unreturned_le
    simp only [Client.held, managedMuxReceiveWindow] at fits window
    have some_ : (l.left.client.child.receiveData payload).isSome := by
      refine Child.receiveData_isSome.mpr ⟨accepted rfl, ?_, ?_⟩
      · omega
      · unfold managedTerminalOutputLimit
        omega
    obtain ⟨child, hchild⟩ := isSome_iff_exists.mp some_
    have valid' : validateStreamData payload = true := valid
    simp [handleFrame, listed, valid', hchild]
  | streamClose reason =>
    cases reason with
    | none => cases valid
    | some reason =>
      have valid' : validateStreamClose reason = true := by
        rcases of_decide_eq_true valid with rfl | rfl <;> rfl
      simp [handleFrame, listed, valid', accepted rfl]
  | streamError code =>
    cases code with
    | none => cases valid
    | some code =>
      obtain rfl : code = .downloadReadFailed := of_decide_eq_true valid
      simp [handleFrame, listed, validateStreamError]
  | _ => cases valid

theorem handled_agreed {m : Message} (agreed : Agreed l)
    (idle : l.left.client.monitor = .idle) (next : l.toLeft = m :: l'.toLeft)
    (handled : Handled .download l.left.client m l'.left.client) (right : l'.right = l.right)
    (written : l'.left.written = l.left.written ++ []) : Agreed l' := by
  have before : inbox l = m :: l'.toLeft := by
    unfold inbox
    rw [idle, next]
    rfl
  have after (same : l'.left.client.monitor = .idle) : inbox l' = l'.toLeft := by
    unfold inbox
    rw [same]
    rfl
  -- what is left is accepted if the stream is
  have later (other : accepts m = false)
      (accepted : l'.left.client.child.acceptedOK = l.left.client.child.acceptedOK) :
      Intake l'.left.client l'.toLeft := by
    have intake := agreed.intake
    rw [next] at intake
    rcases intake with ⟨h, later⟩ | ⟨-, -, -, window, rest, first, -⟩
    · exact .inl ⟨accepted.trans h, fun f hf => later f (mem_cons_of_mem m hf)⟩
    · obtain ⟨rfl, -⟩ := List.cons.inj first
      cases other
  generalize hclient : l'.left.client = c at handled
  cases handled with
  | accepted window child _ h =>
    obtain ⟨-, -, -, -, -, -, accepted, -, -⟩ := Child.accept_eq_some h
    have same : l'.left.client.monitor = .idle := by
      rw [hclient]
      exact idle
    refine agreed.takes [.streamAccepted (some window)] right written ?_ (by rw [hclient]) ?_
    · rw [before, after same]
      rfl
    have intake := agreed.intake
    rw [next] at intake
    rcases intake with ⟨-, later⟩ | ⟨-, -, -, window', rest, first, later⟩
    · cases later _ mem_cons_self
    · obtain ⟨-, rfl⟩ := List.cons.inj first
      exact .inl ⟨by rw [hclient]; exact accepted, later⟩
  | data payload child listed _ valid h =>
    obtain ⟨-, -, -, -, -, accepted, -, -⟩ := Child.receiveData_eq_some h
    have same : l'.left.client.monitor = .idle := by
      rw [hclient]
      exact idle
    refine agreed.takes [.streamData payload] right written ?_ (by rw [hclient])
      (later rfl (by rw [hclient]; exact accepted))
    rw [before, after same]
    rfl
  | update bytes =>
    -- a download's server grants nothing
    have valid := agreed.spoken (.streamWindowUpdate (some bytes)) (by rw [before]; exact
      mem_cons_self)
    cases valid
  | uploadClose listed upload => cases upload
  | downloadClose =>
    refine agreed.takes [] right written ?_ (by rw [hclient]) (later rfl (by rw [hclient]))
    rw [before]
    unfold inbox
    rw [hclient]
    rfl
  | error code =>
    have same : l'.left.client.monitor = .idle := by
      rw [hclient, remove_eq]
      exact idle
    have order := agreed.order
    have failed := agreed.failed (some code) (by rw [before]; exact mem_cons_self)
    rw [before] at order
    refine agreed_removed ?_ (.inl (right ▸ failed)) (later rfl ?_)
    · rw [after same]
      exact order.1 (.inr ⟨_, rfl⟩)
    · rw [hclient, remove_eq]
      split <;> rfl

theorem monitored_agreed {e : Event} {o : Output} (agreed : Agreed l)
    (disciplined : Disciplined l.left) (monitored : Monitored l.left.client e l'.left.client o)
    (calm : undisturbed (.monitor e) = true)
    (expected : Expected l.left.client (.monitor e)) (right : l'.right = l.right)
    (written : l'.left.written = l.left.written ++ o.frames) (toLeft : l'.toLeft = l.toLeft) :
    Agreed l' := by
  -- the tables change, the acceptance does not
  have intake (accepted : l'.left.client.child.acceptedOK = l.left.client.child.acceptedOK)
      (calls : l'.left.client.calls = l.left.client.calls)
      (closing : l'.left.client.child.closing = l.left.client.child.closing) :
      Intake l'.left.client l'.toLeft := by
    unfold Intake
    rw [accepted, calls, closing, toLeft]
    exact agreed.intake
  have after (same : l'.left.client.monitor = .idle) : inbox l' = l.toLeft := by
    unfold inbox
    rw [same, toLeft]
    rfl
  generalize hclient : l'.left.client = c at monitored
  cases monitored with
  | keep pc =>
    refine agreed.takes [downloadComplete] right written ?_ (by rw [hclient])
      (intake (by rw [hclient]) (by rw [hclient]) (by rw [hclient]))
    rw [after (by rw [hclient])]
    unfold inbox
    rw [pc]
    rfl
  | acked pc =>
    have before : inbox l = peerClose :: l.toLeft := by
      unfold inbox
      rw [pc]
      rfl
    have order := agreed.order
    have acked := agreed.acked (by rw [before]; exact mem_cons_self)
    rw [before] at order
    rw [remove_eq] at hclient
    refine agreed_removed ?_ (.inl (right ▸ acked.2)) (intake ?_ ?_ ?_)
    · rw [after (by rw [hclient])]
      exact order.1 (.inl rfl)
    · rw [hclient]
      split <;> rfl
    · rw [hclient]
    · rw [hclient]
      split <;> rfl
  | refuse reason closing pc unexpected =>
    rcases expected reason closing pc with rfl | ⟨rfl, rfl⟩
    · exact absurd rfl unexpected.1
    · exact absurd rfl (unexpected.2 rfl)
  | lock pc =>
    refine agreed.takes [] right written ?_ (by rw [hclient])
      (intake (by rw [hclient]) (by rw [hclient]) (by rw [hclient]))
    unfold inbox
    rw [hclient, pc, toLeft]
    rfl
  | ack pc =>
    have before : inbox l = downloadComplete :: l.toLeft := by
      unfold inbox
      rw [pc]
      rfl
    have unended := disciplined.unended (disciplined.held_of_ack pc)
    have order := agreed.order
    obtain ⟨returned, whole⟩ := agreed.completed (by rw [before]; exact mem_cons_self)
    rw [before] at order
    rw [remove_eq] at hclient
    refine agreed_removed ?_ (.inr ⟨right ▸ returned, right ▸ whole, ?_, ?_⟩) (intake ?_ ?_ ?_)
    · rw [after (by rw [hclient])]
      refine (order.2.1 rfl).resolve_right fun crossed => ?_
      -- a `peer_close` behind it would answer a cancellation
      have behind : peerClose ∈ inbox l := by
        rw [before, crossed]
        exact mem_cons_of_mem downloadComplete mem_cons_self
      have cancels := (agreed.acked behind).1
      rw [cancelled_of_open unended] at cancels
      cases cancels
    · rw [written, ended_append, unended]
      rfl
    · rw [written, cancelled_open unended]
      rfl
    · rw [hclient]
      split <;> rfl
    · rw [hclient]
    · rw [hclient]
      split <;> rfl
  | ackFailed => cases calm

end Client

/-- What a conforming run keeps. -/
structure Handshake (l : Link) : Prop where
  isolated : Isolated .download l
  disciplined : Disciplined l.left
  serving : Serving (cancelled l.left.written) l.right
  agreed : Agreed l

theorem handshake_start (size : Nat) : Handshake (start .download size) :=
  ⟨isolated_start .download size, disciplined_new, serving_active size _, agreed_start size⟩

section Steps

variable {l l' : Link}

section

variable (handshake : Handshake l)

include handshake

/-- Frames are written by a holder of `wireMu`, so before the stream is ended. -/
theorem client_orderly {a : FileClient.Act} {c : Client} {o : Output} (h :
    FileClient.step .download l.left.client a = some (c, o))
    (reach : reaches l.right a = true) : clientOrderly l a = true := by
  have writes (wrote : a = .read .wrote ∨ (∃ i, a = .call i .wrote) ∨ a = .monitor .wrote)
      (hopen : l.right.isOpen = true) : (l.right.isOpen && !ended l.left.written) = true := by
    have holds := writes_locked handshake.isolated.accounted.sound h wrote
    rw [hopen, handshake.disciplined.unended (handshake.disciplined.held holds)]
    rfl
  unfold clientOrderly
  split
  · exact writes (.inl rfl) reach
  · exact writes (.inr (.inl ⟨_, rfl⟩)) reach
  · exact writes (.inr (.inr rfl)) reach
  · rfl

theorem server_orderly {b : FileServer.Act} (heed : serverHeeds l.right l.toRight b = true) :
    serverOrderly l b = true := by
  cases b with
  | handle =>
    unfold serverOrderly
    dsimp only
    split
    · rename_i pc
      have suited := handshake.isolated.suited
      rw [pc] at suited
      cases suited
    · rfl
  | forward =>
    unfold serverOrderly
    dsimp only
    split
    · rename_i pc
      simp only [serverHeeds, pc, and_eq_true] at heed
      obtain ⟨⟨-, empty⟩, still⟩ := heed
      have found : awaitsChild l.right.handle = false := by
        generalize l.right.handle = handle at still
        cases handle with
        | openChild => cases still
        | _ => rfl
      rw [empty, found]
      simp
    · rfl
  | _ => rfl

/-- What the client gets from the peer is what it expects. -/
theorem client_expected {a : FileClient.Act} (toLeft : l.toLeft = a.input.toList ++ l'.toLeft)
    (heed : heeds l.left.client a = true) :
    Expected l.left.client a := by
  obtain ⟨isolated, disciplined, -, agreed⟩ := handshake
  cases a with
  | deliver => exact deliver_expected agreed disciplined isolated.accounted toLeft
  | monitor e =>
    cases e with
    | run =>
      intro reason closing pc
      have held : .streamClose (some reason) ∈ inbox l := by
        unfold inbox
        rw [pc]
        exact mem_cons_self
      rcases of_decide_eq_true (agreed.spoken _ held) with rfl | rfl
      · exact .inl rfl
      -- a `peer_close` answers a cancellation, whose `closing` the monitor has seen
      simp only [heeds, pc, beq_iff_eq] at heed
      refine .inr ⟨rfl, ?_⟩
      rw [heed]
      exact disciplined.cancels (agreed.acked held).1
    | _ => trivial
  | _ => trivial

theorem client_handshake {a : FileClient.Act} {out : List Message} (isolated' :
    Isolated .download l')
    (moves : Duplex.LeftMoves (clientParty .download) l a out l')
    (heed : heeds l.left.client a = true) (calm : undisturbed a = true) : Handshake l' := by
  obtain ⟨o, hstep, rfl, written⟩ := client_step moves
  have right := moves.right
  have toLeft : l.toLeft = a.input.toList ++ l'.toLeft := moves.toLeft
  have expected := client_expected handshake toLeft heed
  obtain ⟨isolated, disciplined, serving, agreed⟩ := handshake
  have disciplined' : Disciplined l'.left := by
    have := disciplined_step disciplined isolated.accounted.sound hstep heed calm expected
    rwa [← written] at this
  have serving' : Serving (cancelled l'.left.written) l'.right := by
    rw [right, written]
    refine { serving with answering := fun after h => ?_ }
    exact (serving.answering after h).imp_right fun ⟨ack, cancels⟩ =>
      ⟨ack, cancelled_mono _ cancels⟩
  refine ⟨isolated', disciplined', serving', ?_⟩
  cases a with
  | deliver =>
    generalize hleft : l'.left.client = c at hstep
    cases step_stepped hstep with
    | handles idle found =>
      exact handled_agreed agreed idle toLeft (hleft ▸ handleFrame_handled found) right written
    | refuses _ refused => exact absurd refused expected
    | begins begins => cases begins
  | monitor =>
    exact monitored_agreed agreed disciplined (monitorStep_monitored hstep) calm expected right
      written toLeft.symm
  | _ =>
    exact (step_aside hstep disciplined.up calm rfl (by simp)).agreed agreed right written
      toLeft.symm

/-- The client's close acknowledges the whole file. -/
theorem close_completes (pc : l.right.handle = .serve .close) : l.right.child.remaining = 0 := by
  obtain ⟨isolated, disciplined, -, agreed⟩ := handshake
  obtain ⟨hended, uncancelled⟩ := isolated.heard.closing (.inr pc)
  rcases (agreed.gone (disciplined.completes hended uncancelled)).2 with spent | complete
  · have still := spent.still
    rw [pc] at still
    cases still
  · exact complete.whole

theorem receive_handshake {m : Message} {out : List Message} (isolated' : Isolated .download l')
    (moves : Duplex.RightMoves (serverParty .download) l (.receive m) out l')
    (right : l'.right = { l.right with handle := FileServer.route l.right m })
    (quiet : out = []) : Handshake l' := by
  obtain ⟨isolated, disciplined, serving, agreed⟩ := handshake
  have left := moves.left
  have toRight : l.toRight = m :: l'.toRight := moves.toRight
  have toLeft : l'.toLeft = l.toLeft := by
    rw [moves.toLeft, quiet, append_nil]
  have hopen : l.right.isOpen = true := isolated.arriving (by rw [toRight]; rintro ⟨⟩)
  obtain ⟨req, hreq, -, -⟩ := route_uttered hopen
    (isolated.uttered m (by rw [toRight]; exact mem_cons_self))
  rw [hreq] at right
  refine ⟨isolated', left ▸ disciplined, ?_, ?_⟩
  · rw [left, right]
    exact serving.receive hopen req
  refine agreed.silent left toLeft ?_ ?_
  · rw [right]
    exact fun returned => ⟨returned, rfl⟩
  · intro spent
    have live := live_of_open hopen
    rw [spent.gone] at live
    cases live

theorem server_handshake {b : FileServer.Act} {out : List Message} (isolated' :
    Isolated .download l')
    (moves : Duplex.RightMoves (serverParty .download) l b out l')
    (heed : serverHeeds l.right l.toRight b = true) : Handshake l' := by
  have left := moves.left
  have disciplined' : Disciplined l'.left := left ▸ handshake.disciplined
  have stepped : FileServer.Stepped .download l.right b l'.right out :=
    FileServer.step_stepped moves.step
  generalize hright : l'.right = s' at stepped
  cases stepped with
  | receive => exact receive_handshake handshake isolated' moves hright rfl
  | handle _ s' out served =>
    have running := running_of_suited isolated'.suited
    obtain ⟨isolated, disciplined, serving, agreed⟩ := handshake
    rw [← hright] at served
    refine ⟨isolated', disciplined', ?_, ?_⟩
    · rw [left]
      refine serving.serve served isolated.suited running ?_ ?_ ?_
      · rintro (pc | pc)
        · simpa [serverHeeds, pc] using heed
        · simpa [serverHeeds, pc] using heed
      · exact close_completes ⟨isolated, disciplined, serving, agreed⟩
      · exact fun pc => isolated.heard.cancelling (.inr pc)
    · exact handle_agreed agreed isolated.heard serving isolated.suited served running left
        moves.toLeft
  | forward b s' out _ forwarded =>
    obtain ⟨isolated, disciplined, serving, agreed⟩ := handshake
    rw [← hright] at forwarded
    refine ⟨isolated', disciplined', ?_, ?_⟩
    · rw [left]
      exact serving.forward forwarded heed
    · exact forward_agreed agreed serving forwarded left moves.toLeft

end

theorem handshake_step (l : Link) (act : FileLink.Act) (l' : Link) (handshake : Handshake l)
    (conforming : conforms l act = true) (hs : FileLink.step .download l act = some l') :
    Handshake l' := by
  cases act with
  | left a =>
    simp only [conforms, and_eq_true] at conforming
    obtain ⟨⟨heed, calm⟩, reach⟩ := conforming
    obtain ⟨out, moves⟩ := Duplex.step_left hs
    obtain ⟨o, hstep, -, -⟩ := client_step moves
    have isolated' := isolated_step l (.left a) l' handshake.isolated
      (client_orderly handshake hstep reach) hs
    exact client_handshake handshake isolated' moves heed calm
  | right b =>
    obtain ⟨out, moves⟩ := Duplex.step_right hs
    have isolated' := isolated_step l (.right b) l' handshake.isolated
      (server_orderly handshake conforming) hs
    exact server_handshake handshake isolated' moves conforming

end Steps

/-- In a conforming run the client ends the stream at most once, what it has written
finds the stream open, nothing reaches a stream it has removed, and neither side ends
the parent. -/
theorem download_end_agreed (size : Nat) (acts : List FileLink.Act) {l : Link}
    (meets : Runs.Meets (FileLink.step .download) (fun l a => conforms l a = true)
      (start .download size) acts)
    (run : Runs.exec (FileLink.step .download) (start .download size) acts = some l) :
    l.left.written.countP Message.ends ≤ 1 ∧
      (l.toRight ≠ [] → l.right.isOpen = true) ∧ (∀ e, l.right.handle ≠ .returned e) ∧
      (l.left.client.listed = false → l.toLeft = []) ∧ l.left.client.parent = .up := by
  have handshake : Handshake l :=
    Runs.exec_invariant Handshake handshake_step (handshake_start size) meets run
  obtain ⟨isolated, disciplined, -, agreed⟩ := handshake
  refine ⟨disciplined.once, isolated.arriving, ?_, ?_, disciplined.up⟩
  · intro e failed
    have suited := isolated.suited
    rw [failed] at suited
    exact suited
  · intro unlisted
    exact (append_eq_nil_iff.mp (agreed.gone unlisted).1).2

/-- An empty file: the server is done with it at once, and the client wants to cancel. -/
def emptyFile : List FileLink.Act := [
  .left (.deliver (.streamAccepted (some 1))), .left .beginCancel, .right .forward,
  .right .forward]

/-- The cancellation is written before the monitor reads `download_complete`. -/
def crossing : List FileLink.Act := emptyFile ++ [
  .left (.call 0 .run), .left (.call 0 .wrote), .left (.deliver downloadComplete),
  .left (.monitor .run), .right (.receive (.streamError (some .clientCancelled))),
  .right (.handle true), .right (.handle true), .right (.handle true), .right (.handle true),
  .right (.handle true), .left (.deliver peerClose), .left (.monitor .run)]

theorem download_end_agreed_crossing :
    ∃ l, Runs.exec (FileLink.step .download) (start .download 0) crossing = some l ∧
      l.left.client.listed = false ∧ l.left.written.countP Message.ends ≤ 1 ∧
      (l.toRight ≠ [] → l.right.isOpen = true) ∧ (∀ e, l.right.handle ≠ .returned e) ∧
      (l.left.client.listed = false → l.toLeft = []) ∧ l.left.client.parent = .up :=
  ⟨_, rfl, rfl, download_end_agreed 0 crossing (by decide) rfl⟩

/-- In a conforming run, once the client has removed the download the server has ended it too, or
it has sent the whole file and the client has written its acknowledgement. -/
theorem removed_download_over (size : Nat) (acts : List FileLink.Act) {l : Link}
    (meets : Runs.Meets (FileLink.step .download) (fun l a => conforms l a = true)
      (start .download size) acts)
    (run : Runs.exec (FileLink.step .download) (start .download size) acts = some l)
    (removed : l.left.client.listed = false) : Spent l.right ∨ Completed l := by
  have handshake : Handshake l :=
    Runs.exec_invariant Handshake handshake_step (handshake_start size) meets run
  exact (handshake.agreed.gone removed).2

theorem removed_download_over_crossing :
    ∃ l, Runs.exec (FileLink.step .download) (start .download 0) crossing = some l ∧
      (Spent l.right ∨ Completed l) :=
  ⟨_, rfl, removed_download_over 0 crossing (by decide) rfl rfl⟩

/-- The monitor has read `closing` when the cancellation gets `wireMu` before it. -/
def overtaken : List FileLink.Act := emptyFile ++ [
  .left (.deliver downloadComplete), .left (.call 0 .run), .left (.call 0 .wrote),
  .left (.monitor .run), .left (.monitor .wrote),
  .right (.receive (.streamError (some .clientCancelled))), .right (.handle true),
  .right (.handle true), .right (.handle true), .right (.handle true), .right (.handle true),
  .right (.receive peerClose)]

theorem stale_closing_ends_twice :
    ∃ l, Runs.exec (FileLink.step .download) (start .download 0) overtaken = some l ∧
      l.left.written.countP Message.ends = 2 ∧
      l.right.handle = .returned .typedStreamProtocol ∧
      l.left.client.listed = false ∧ l.toLeft = [peerClose] :=
  ⟨_, rfl, rfl, rfl, rfl, rfl⟩

end DownloadHandshake
