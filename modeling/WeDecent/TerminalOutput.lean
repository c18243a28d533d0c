import WeDecent.Library.Runs
import WeDecent.TerminalClient

/-!
# Output of a terminal and the consumer that reads it

One consumer calls `ReadTerminalStream` again and again until it gets `closed` or
an error, while the monitor delivers the stream's frames. The parent stays up: the
monitor accepts what arrives, contexts do not end and the WindowUpdates are
written. `Session` adds to the client the bytes accepted, the bytes the consumer
got, and whether it has stopped.

Seen from outside, `View`, the stream is a queue that a call may enter only while
the table has the child. A call that is inside when the StreamClose arrives takes
one more chunk; every later call is refused.
-/

namespace TerminalOutput

open Bool List Option StreamProtocol MuxChild TerminalClient

structure Session where
  client : Client
  accepted : Bytes
  got : Bytes
  stopped : Bool

def Session.new : Session := ⟨Client.new, [], [], false⟩

inductive Act where
  | call (maxBytes : Nat)
  | lock
  | read (e : Event)
  | deliver (m : Message)

def Act.client : Act → TerminalClient.Act
  | .call maxBytes => .beginRead maxBytes
  | .lock => .lockRead 0
  | .read e => .read e
  | .deliver m => .deliver m

/-- The bytes an action brings to the client. -/
def Act.payload : Act → Bytes
  | .deliver (.streamData payload) => payload
  | _ => []

/-- The consumer is not inside a call. -/
def Session.idle (s : Session) : Bool :=
  match s.client.reader with
  | .free => s.client.queued.isEmpty
  | _ => false

def Session.allows (s : Session) : Act → Bool
  | .call maxBytes =>
    s.idle && !s.stopped && decide (0 < maxBytes ∧ maxBytes ≤ managedTerminalChunkLimit)
  | .lock => true
  | .read .ctxDone => false
  | .read .writeFailed => false
  | .read _ => true
  | .deliver m => (handleFrame s.client m).isSome

/-- What the consumer sees of a step. -/
def Session.note (s : Session) : Output → Session
  | .result r => { s with got := s.got ++ r.out, stopped := r.closed || r.err.isSome }
  | _ => s

def step (s : Session) (a : Act) : Option Session :=
  if s.allows a then
    (TerminalClient.step s.client a.client).map fun r =>
      { s.note r.2 with client := r.1, accepted := s.accepted ++ a.payload }
  else none

/-- A call is past its lookup and has taken nothing, or holds what it will return. -/
inductive Phase where
  | outside
  | inside (maxBytes : Nat)
  | holding (out : Bytes) (closed : Bool)

structure View where
  phase : Phase
  queue : List Bytes
  live : Bool
  accepted : Bytes
  got : Bytes
  stopped : Bool

def phaseOf : Reader → List Nat → Phase
  | .free, [] => .outside
  | .free, maxBytes :: _ => .inside maxBytes
  | .take maxBytes, _ => .inside maxBytes
  | .park maxBytes, _ => .inside maxBytes
  | .update out closed, _ => .holding out closed
  | .restore out closed, _ => .holding out closed

def Session.view (s : Session) : View where
  phase := phaseOf s.client.reader s.client.queued
  queue := s.client.child.outputQueue
  live := s.client.live
  accepted := s.accepted
  got := s.got
  stopped := s.stopped

inductive Moves (v : View) : View → Prop
  | stay : Moves v v
  | enter (maxBytes : Nat) (pos : 0 < maxBytes) (outside : v.phase = .outside)
      (live : v.live = true) : Moves v { v with phase := .inside maxBytes }
  | refuse (outside : v.phase = .outside) (gone : v.live = false) :
      Moves v { v with stopped := true }
  | dequeue (maxBytes : Nat) (out : Bytes) (left : List Bytes)
      (inside : v.phase = .inside maxBytes) (taken : Child.Dequeues maxBytes v.queue out left) :
      Moves v { v with phase := .holding out (!v.live && left.isEmpty), queue := left }
  | finish (maxBytes : Nat) (inside : v.phase = .inside maxBytes) (empty : v.queue = [])
      (gone : v.live = false) : Moves v { v with phase := .outside, stopped := true }
  | hand (out : Bytes) (closed : Bool) (holding : v.phase = .holding out closed) :
      Moves v { v with phase := .outside, got := v.got ++ out, stopped := closed }
  | arrive (payload : Bytes) (filled : payload ≠ []) (live : v.live = true) :
      Moves v { v with
        queue := v.queue ++ [payload], accepted := v.accepted ++ payload }
  | close (live : v.live = true) : Moves v { v with live := false }

def Phase.held : Phase → Bytes
  | .holding out _ => out
  | _ => []

/-- The bytes accepted are those the consumer got, those its call holds and those
queued, in this order. -/
structure Kept (v : View) : Prop where
  order : v.accepted = v.got ++ v.phase.held ++ v.queue.flatten
  filled : ∀ chunk ∈ v.queue, chunk ≠ []
  sized : ∀ maxBytes, v.phase = .inside maxBytes → 0 < maxBytes
  told : ∀ out, v.phase = .holding out true → v.live = false
  going : v.live = true → v.stopped = false
  paused : v.stopped = true → v.phase = .outside

variable {maxBytes : Nat} {left : List Bytes}

theorem dequeues_bytes {queue : List Bytes} {out : Bytes}
    (taken : Child.Dequeues maxBytes queue out left) : queue.flatten = out ++ left.flatten := by
  obtain ⟨-, -, rfl, ⟨-, rfl, rfl⟩ | ⟨-, rfl, rfl⟩⟩ := taken
  · rfl
  · rw [flatten_cons, flatten_cons, ← append_assoc, take_append_drop]

theorem dequeues_filled {queue : List Bytes} {out : Bytes}
    (taken : Child.Dequeues maxBytes queue out left) (filled : ∀ chunk ∈ queue, chunk ≠ []) :
    ∀ chunk ∈ left, chunk ≠ [] := by
  obtain ⟨first, rest, rfl, ⟨-, -, rfl⟩ | ⟨cut, -, rfl⟩⟩ := taken
  · exact fun chunk hmem => filled chunk (mem_cons_of_mem first hmem)
  intro chunk hmem
  rcases mem_cons.mp hmem with rfl | hrest
  · intro empty
    have := drop_eq_nil_iff.mp empty
    omega
  · exact filled chunk (mem_cons_of_mem first hrest)

theorem dequeues_nonempty {queue : List Bytes} {out : Bytes}
    (taken : Child.Dequeues maxBytes queue out left) (filled : ∀ chunk ∈ queue, chunk ≠ [])
    (pos : 0 < maxBytes) : out ≠ [] := by
  obtain ⟨chunk, rest, rfl, ⟨-, rfl, -⟩ | ⟨-, rfl, -⟩⟩ := taken
  · exact filled out mem_cons_self
  · intro empty
    rcases take_eq_nil_iff.mp empty with hzero | hnil
    · omega
    · exact filled chunk mem_cons_self hnil

variable {v : View}

theorem Moves.kept {v' : View} (moves : Moves v v') (kept : Kept v) : Kept v' := by
  obtain ⟨order, filled, sized, told, going, paused⟩ := kept
  cases moves with
  | stay => exact ⟨order, filled, sized, told, going, paused⟩
  | enter maxBytes pos outside live =>
    rw [outside] at order
    refine ⟨order, filled, ?_, by simp, going, ?_⟩
    · rintro m ⟨⟩
      exact pos
    · intro stopped
      rw [going live] at stopped
      cases stopped
  | refuse outside gone =>
    refine ⟨order, filled, sized, told, ?_, fun _ => outside⟩
    intro live
    rw [gone] at live
    cases live
  | dequeue maxBytes out _ inside taken =>
    rw [inside] at order
    refine ⟨?_, dequeues_filled taken filled, by simp, ?_, going, ?_⟩
    · rw [order, dequeues_bytes taken]
      simp [Phase.held]
    · intro out' h
      injection h with _ closed
      rw [and_eq_true, not_eq_true'] at closed
      exact closed.1
    · intro stopped
      rw [paused stopped] at inside
      cases inside
  | finish maxBytes inside _ gone =>
    rw [inside] at order
    refine ⟨order, filled, by simp, by simp, ?_, fun _ => rfl⟩
    intro live
    rw [gone] at live
    cases live
  | hand out closed holding =>
    rw [holding] at order
    refine ⟨?_, filled, by simp, by simp, ?_, fun _ => rfl⟩
    · rw [order]
      simp [Phase.held]
    intro live
    cases closed with
    | false => rfl
    | true =>
      rw [told out holding] at live
      cases live
  | arrive _ nonempty =>
    refine ⟨?_, ?_, sized, told, going, paused⟩
    · dsimp only
      rw [order, flatten_append, flatten_singleton, append_assoc]
    intro chunk hmem
    rcases mem_append.mp hmem with hold | hnew
    · exact filled chunk hold
    · rw [mem_singleton.mp hnew]
      exact nonempty
  | close => exact ⟨order, filled, sized, fun out h => rfl, by rintro ⟨⟩, paused⟩

/-- Nothing is queued, or all of it goes to the call that is inside. -/
def drained (v : View) : Bool :=
  match v.phase, v.queue with
  | _, [] => true
  | .inside maxBytes, [chunk] => decide (chunk.length ≤ maxBytes)
  | _, _ => false

theorem drained_empty (empty : v.queue = []) : drained v = true := by
  unfold drained
  rw [empty]

theorem drained_outside (busy : ∀ maxBytes, v.phase ≠ .inside maxBytes) :
    drained v = v.queue.isEmpty := by
  unfold drained
  split
  · rename_i empty
    rw [empty]
    rfl
  · rename_i inside _
    exact absurd inside (busy _)
  · rename_i more _
    cases hqueue : v.queue with
    | nil => exact absurd hqueue more
    | cons => rfl

theorem drained_inside {out : Bytes} (inside : v.phase = .inside maxBytes)
    (taken : Child.Dequeues maxBytes v.queue out left) :
    drained v = left.isEmpty := by
  obtain ⟨chunk, rest, hqueue, ⟨fits, -, rfl⟩ | ⟨cut, -, rfl⟩⟩ := taken
  · unfold drained
    rw [inside, hqueue]
    cases left with
    | nil => exact decide_eq_true fits
    | cons => rfl
  · unfold drained
    rw [inside, hqueue]
    cases rest with
    | nil => exact decide_eq_false (Nat.not_le_of_lt cut)
    | cons => rfl

/-- Once the stream has left the table, nothing changes whether all of it is read. -/
theorem Moves.drained_eq {v' : View} (moves : Moves v v') (gone : v.live = false) :
    drained v' = drained v ∧ v'.live = false := by
  cases moves with
  | stay => exact ⟨rfl, gone⟩
  | refuse outside =>
    refine ⟨?_, gone⟩
    rw [drained_outside, drained_outside]
    · rw [outside]
      exact fun _ => (by rintro ⟨⟩)
    · dsimp only
      rw [outside]
      exact fun _ => (by rintro ⟨⟩)
  | dequeue maxBytes out left inside taken =>
    refine ⟨?_, gone⟩
    rw [drained_inside inside taken]
    exact drained_outside fun _ => (by rintro ⟨⟩)
  | finish maxBytes inside empty =>
    refine ⟨?_, gone⟩
    rw [drained_empty empty]
    exact drained_empty empty
  | hand out _ holding =>
    refine ⟨?_, gone⟩
    rw [drained_outside, drained_outside]
    · rw [holding]
      exact fun _ => (by rintro ⟨⟩)
    · exact fun _ => (by rintro ⟨⟩)
  | _ =>
    rename_i live
    rw [gone] at live
    cases live

/-- A consumer that has stopped got everything exactly if nothing was left behind. -/
theorem Kept.got_iff (kept : Kept v) (stopped : v.stopped = true) :
    v.got = v.accepted ↔ drained v = true := by
  have outside := kept.paused stopped
  have order := kept.order
  rw [outside] at order
  simp only [Phase.held, append_nil] at order
  rw [drained_outside (by rw [outside]; exact fun _ => (by rintro ⟨⟩)), List.isEmpty_iff, order,
    self_eq_append_right, flatten_eq_nil_iff]
  constructor
  · intro empty
    by_contra more
    obtain ⟨chunk, hmem⟩ := exists_mem_of_ne_nil _ more
    exact kept.filled chunk hmem (empty chunk hmem)
  · intro empty chunk hmem
    rw [empty] at hmem
    cases hmem

structure Sound (s : Session) : Prop where
  parent : s.client.done = false ∧ s.client.closed = false ∧ s.client.monitorEnded = false
  shut : s.client.child.done = !s.client.live
  single : s.client.queued.length ≤ 1
  alone : s.client.reader ≠ .free → s.client.queued = []

theorem sound_new : Sound Session.new :=
  ⟨⟨rfl, rfl, rfl⟩, rfl, Nat.zero_le 1, fun _ => rfl⟩

theorem kept_new : Kept Session.new.view :=
  ⟨rfl, nofun, nofun, nofun, fun _ => rfl, nofun⟩

theorem moves_to {v' w : View} (moves : Moves v w) (same : v' = w) : Moves v v' := same ▸ moves

variable {s : Session}

theorem idle_iff :
    s.idle = true ↔ s.client.reader = .free ∧ s.client.queued = [] := by
  unfold Session.idle
  split
  · rename_i free
    rw [List.isEmpty_iff]
    exact ⟨fun h => ⟨free, h⟩, fun h => h.2⟩
  · rename_i busy
    exact ⟨by rintro ⟨⟩, fun h => absurd h.1 busy⟩

theorem outputBytes_eq_zero {c : Child} (filled : ∀ chunk ∈ c.outputQueue, chunk ≠ []) :
    decide (c.outputBytes = 0) = c.outputQueue.isEmpty := by
  rw [c.counted, Bool.eq_iff_iff, decide_eq_true_iff, List.isEmpty_iff, Weights.weight_eq_zero]
  constructor
  · intro empty
    by_contra more
    obtain ⟨chunk, hmem⟩ := exists_mem_of_ne_nil _ more
    exact filled chunk hmem (eq_nil_of_length_eq_zero (empty chunk hmem))
  · intro empty chunk hmem
    rw [empty] at hmem
    cases hmem

theorem step_eq_some {s' : Session} {a : Act} (h : step s a = some s') :
    s.allows a = true ∧ ∃ c o, TerminalClient.step s.client a.client = some (c, o) ∧
      s' = { s.note o with client := c, accepted := s.accepted ++ a.payload } := by
  unfold step at h
  split at h
  · rename_i allowed
    obtain ⟨⟨c, o⟩, hstep, rfl⟩ := map_eq_some_iff.mp h
    exact ⟨allowed, c, o, hstep, rfl⟩
  · cases h

theorem beginRead_gone {c : Client} (up : c.done = false) (gone : c.live = false) :
    beginRead c maxBytes = (c, .result ⟨[], true, some .unavailable⟩) := by
  unfold beginRead
  rw [if_neg (by rw [up]; rintro ⟨⟩), if_pos (by rw [gone]; rfl)]

theorem beginRead_live {c : Client} (up : c.done = false) (live : c.live = true)
    (pos : 0 < maxBytes) (small : maxBytes ≤ managedTerminalChunkLimit) :
    beginRead c maxBytes = ({ c with queued := c.queued ++ [maxBytes] }, .nothing) := by
  unfold beginRead
  rw [if_neg (by rw [up]; rintro ⟨⟩), if_neg (by rw [live]; rintro ⟨⟩),
    if_neg (Nat.ne_of_gt pos)]
  exact if_neg (Nat.not_lt_of_le small)

section Refinement

variable {s s' : Session} (sound : Sound s)

include sound

theorem call_refines {maxBytes : Nat} (h : step s (.call maxBytes) = some s') :
    Moves s.view s'.view ∧ Sound s' := by
  obtain ⟨allowed, c, o, hstep, rfl⟩ := step_eq_some h
  simp only [Session.allows, and_eq_true, decide_eq_true_eq] at allowed
  obtain ⟨⟨idle, -⟩, pos, small⟩ := allowed
  obtain ⟨free, unqueued⟩ := idle_iff.mp idle
  have outside : s.view.phase = .outside := by
    simp [Session.view, free, unqueued, phaseOf]
  have hbegin : beginRead s.client maxBytes = (c, o) := Option.some.inj hstep
  cases hlive : s.client.live with
  | false =>
    rw [beginRead_gone sound.parent.1 hlive] at hbegin
    obtain ⟨rfl, rfl⟩ := Prod.mk.inj hbegin
    refine ⟨moves_to (.refuse outside hlive) ?_, sound.parent, sound.shut, sound.single,
      sound.alone⟩
    simp [Session.view, Session.note, Act.payload]
  | true =>
    rw [beginRead_live sound.parent.1 hlive pos small] at hbegin
    obtain ⟨rfl, rfl⟩ := Prod.mk.inj hbegin
    refine ⟨moves_to (.enter maxBytes pos outside hlive) ?_, sound.parent, sound.shut, ?_,
      fun busy => absurd free busy⟩
    · simp [Session.view, Session.note, Act.payload, free, unqueued, phaseOf]
    · dsimp only
      rw [unqueued]
      exact Nat.le_refl 1

theorem lock_refines (h : step s .lock = some s') : Moves s.view s'.view ∧ Sound s' := by
  obtain ⟨-, c, o, hstep, rfl⟩ := step_eq_some h
  simp only [Act.client, TerminalClient.step, lockRead] at hstep
  split at hstep
  · rename_i maxBytes free first
    have single := sound.single
    cases hqueued : s.client.queued with
    | nil =>
      rw [hqueued] at first
      cases first
    | cons size rest =>
      rw [hqueued] at first single hstep
      obtain rfl : size = maxBytes := Option.some.inj first
      obtain rfl : rest = [] := eq_nil_of_length_eq_zero (Nat.le_zero.mp
        (Nat.le_of_succ_le_succ single))
      obtain ⟨rfl, rfl⟩ := Prod.mk.inj (Option.some.inj hstep)
      refine ⟨moves_to .stay ?_, sound.parent, sound.shut, Nat.zero_le 1, fun _ => rfl⟩
      simp [Session.view, Session.note, Act.payload, free, hqueued, phaseOf]
  · cases hstep

theorem read_refines {e : Event} (kept : Kept s.view) (h : step s (.read e) = some s') :
    Moves s.view s'.view ∧ Sound s' := by
  obtain ⟨allowed, c, o, hstep, rfl⟩ := step_eq_some h
  have hread : readStep s.client e = some (c, o) := hstep
  unfold readStep at hread
  split at hread
  · rename_i maxBytes htake
    have unqueued : s.client.queued = [] := sound.alone (by rw [htake]; rintro ⟨⟩)
    have inside : s.view.phase = .inside maxBytes := by
      simp [Session.view, htake, phaseOf]
    split at hread
    · rename_i out closed child taken
      have dequeues := Child.takeOutput_dequeues taken
      obtain ⟨-, -, hclosed, -, -, -, -, hdone⟩ := Child.takeOutput_spec taken
      have left := dequeues_filled dequeues kept.filled
      rw [if_neg (dequeues_nonempty dequeues kept.filled (kept.sized maxBytes inside))] at hread
      cases hread
      refine ⟨moves_to (.dequeue maxBytes out child.outputQueue inside dequeues) ?_,
        sound.parent, hdone.trans sound.shut, sound.single, fun _ => unqueued⟩
      rw [outputBytes_eq_zero left, sound.shut] at hclosed
      simp [Session.view, Session.note, Act.payload, hclosed, phaseOf]
    · rename_i none
      have empty := Child.takeOutput_eq_none none
      split at hread
      · rename_i hdone
        have gone : s.client.live = false := by
          rw [sound.shut, not_eq_true'] at hdone
          exact hdone
        cases hread
        refine ⟨moves_to (.finish maxBytes inside empty gone) ?_, sound.parent, sound.shut,
          sound.single, fun _ => unqueued⟩
        simp [Session.view, Session.note, Act.payload, unqueued, phaseOf]
      · cases hread
        refine ⟨moves_to .stay ?_, sound.parent, sound.shut, sound.single, fun _ => unqueued⟩
        simp [Session.view, Session.note, Act.payload, htake, phaseOf]
  · cases allowed
  · rename_i hpark
    rw [if_neg (by rw [sound.parent.1]; rintro ⟨⟩)] at hread
    cases hread
  · rename_i maxBytes hpark
    have unqueued : s.client.queued = [] := sound.alone (by rw [hpark]; rintro ⟨⟩)
    split at hread
    · cases hread
      refine ⟨moves_to .stay ?_, sound.parent, sound.shut, sound.single, fun _ => unqueued⟩
      simp [Session.view, Session.note, Act.payload, hpark, phaseOf]
    · cases hread
  · rename_i maxBytes hpark
    have unqueued : s.client.queued = [] := sound.alone (by rw [hpark]; rintro ⟨⟩)
    split at hread
    · cases hread
      refine ⟨moves_to .stay ?_, sound.parent, sound.shut, sound.single, fun _ => unqueued⟩
      simp [Session.view, Session.note, Act.payload, hpark, phaseOf]
    · cases hread
  · rename_i out closed hupdate
    have unqueued : s.client.queued = [] := sound.alone (by rw [hupdate]; rintro ⟨⟩)
    split at hread
    · cases hread
    · cases hread
      refine ⟨moves_to .stay ?_, sound.parent, sound.shut, sound.single, fun _ => unqueued⟩
      simp [Session.view, Session.note, Act.payload, hupdate, phaseOf]
  · cases allowed
  · rename_i out closed hrestore
    have unqueued : s.client.queued = [] := sound.alone (by rw [hrestore]; rintro ⟨⟩)
    have holding : s.view.phase = .holding out closed := by
      simp [Session.view, hrestore, phaseOf]
    cases hread
    refine ⟨moves_to (.hand out closed holding) ?_, sound.parent, sound.shut, sound.single,
      fun _ => unqueued⟩
    simp [Session.view, Session.note, Act.payload, unqueued, phaseOf]
  · cases hread

theorem handled_quiet {m : Message} {child : Child} (unloaded : (Act.deliver m).payload = [])
    (queue : child.outputQueue = s.client.child.outputQueue)
    (hdone : child.done = s.client.child.done)
    (hs : s' = { s with
      client := { s.client with child := child }
      accepted := s.accepted ++ (Act.deliver m).payload }) :
    Moves s.view s'.view ∧ Sound s' := by
  subst hs
  refine ⟨moves_to .stay ?_, sound.parent, hdone.trans sound.shut, sound.single, sound.alone⟩
  simp [Session.view, unloaded, queue]

theorem deliver_eq_some {m : Message} (h : step s (.deliver m) = some s') :
    ∃ c, handleFrame s.client m = some c ∧
      s' = { s with client := c, accepted := s.accepted ++ (Act.deliver m).payload } := by
  obtain ⟨allowed, c, o, hstep, hs⟩ := step_eq_some h
  obtain ⟨c', handled⟩ := isSome_iff_exists.mp allowed
  have hdeliver : deliver s.client m = c' := by
    unfold deliver
    rw [handled]
  simp only [Act.client, TerminalClient.step, sound.parent.2.1, sound.parent.2.2, Bool.or_self,
    false_eq_true, if_false, hdeliver] at hstep
  obtain ⟨rfl, rfl⟩ := Prod.mk.inj (Option.some.inj hstep)
  exact ⟨c', handled, hs⟩

theorem deliver_refines {m : Message} (h : step s (.deliver m) = some s') :
    Moves s.view s'.view ∧ Sound s' := by
  obtain ⟨c, found, hs⟩ := deliver_eq_some sound h
  obtain ⟨live, handled⟩ := handleFrame_live found
  cases handled with
  | accepts _ child accepted =>
    obtain ⟨-, -, -, queue, -, -, -, -, hdone⟩ := Child.accept_eq_some accepted
    exact handled_quiet sound rfl queue hdone hs
  | receives payload child received valid =>
    obtain ⟨-, -, queue, -, -, -, -, hdone⟩ := Child.receiveData_eq_some received
    have nonempty := ne_nil_of_length_pos (of_decide_eq_true valid).1
    subst hs
    refine ⟨moves_to (.arrive payload nonempty live) ?_, sound.parent, hdone.trans sound.shut,
      sound.single, sound.alone⟩
    simp [Session.view, Act.payload, queue]
  | updates _ child updated =>
    obtain ⟨-, -, queue, -, -, -, -, hdone⟩ := Child.receiveUpdate_eq_some updated
    exact handled_quiet sound rfl queue hdone hs
  | closes _ ends =>
    have unloaded : (Act.deliver m).payload = [] := by
      cases m with
      | streamData => cases ends
      | _ => rfl
    subst hs
    refine ⟨moves_to (.close live) ?_, sound.parent, rfl, sound.single, sound.alone⟩
    simp [Session.view, unloaded, Child.close]

/-- The client with its consumer refines the queue seen from outside. -/
theorem step_refines {a : Act} (kept : Kept s.view) (h : step s a = some s') :
    Moves s.view s'.view ∧ Sound s' := by
  cases a with
  | call => exact call_refines sound h
  | lock => exact lock_refines sound h
  | read => exact read_refines sound kept h
  | deliver => exact deliver_refines sound h

end Refinement

structure Good (s : Session) : Prop where
  sound : Sound s
  kept : Kept s.view

theorem good_step {s' : Session} {a : Act} (good : Good s) (h : step s a = some s') : Good s' :=
  have refines := step_refines good.sound good.kept h
  ⟨refines.2, refines.1.kept good.kept⟩

theorem good_run {s' : Session} {acts : List Act} (good : Good s)
    (run : Runs.exec step s acts = some s') : Good s' :=
  Runs.reachable_invariant Good (fun _ _ _ => good_step) good ⟨acts, run⟩

/-- Steps the consumer has left once the stream has gone from the table. -/
def toGo (s : Session) : Nat :=
  match s.client.reader, s.client.queued with
  | .free, [] => if s.stopped then 0 else 1
  | .free, _ :: _ => 5
  | .take _, _ => 4
  | .park _, _ => 5
  | .update _ _, _ => 3
  | .restore _ _, _ => 2

theorem toGo_idle (free : s.client.reader = .free) (unqueued : s.client.queued = []) :
    toGo s ≤ 1 := by
  simp only [toGo, free, unqueued]
  split <;> omega

theorem toGo_le (s : Session) : toGo s ≤ 5 := by
  unfold toGo
  split
  · split <;> omega
  all_goals omega

theorem read_toGo {c : Client} {o : Output} {e : Event} (sound : Sound s)
    (gone : s.client.live = false) (h : readStep s.client e = some (c, o)) :
    toGo { s.note o with client := c, accepted := s.accepted } < toGo s := by
  have hdone : s.client.child.done = true := by
    rw [sound.shut, gone]
    rfl
  have unqueued (busy : s.client.reader ≠ .free) : s.client.queued = [] := sound.alone busy
  unfold readStep at h
  split at h
  · rename_i maxBytes htake
    have hgo : toGo s = 4 := by simp only [toGo, htake]
    have idle := unqueued (by rw [htake]; rintro ⟨⟩)
    split at h
    · split at h
      · cases h
        exact Nat.lt_of_le_of_lt (toGo_idle rfl idle) (by omega)
      · cases h
        rw [hgo]
        exact Nat.lt_succ_self 3
    · rw [if_pos hdone] at h
      cases h
      exact Nat.lt_of_le_of_lt (toGo_idle rfl idle) (by omega)
  · rename_i hpark
    have hgo : toGo s = 5 := by simp only [toGo, hpark]
    cases h
    exact Nat.lt_of_le_of_lt
      (toGo_idle rfl (unqueued (by rw [hpark]; rintro ⟨⟩))) (by omega)
  · rw [if_neg (by rw [sound.parent.1]; rintro ⟨⟩)] at h
    cases h
  · rename_i maxBytes hpark
    have hgo : toGo s = 5 := by simp only [toGo, hpark]
    rw [if_pos hdone] at h
    cases h
    rw [hgo]
    exact Nat.lt_succ_self 4
  · rename_i maxBytes hpark
    have hgo : toGo s = 5 := by simp only [toGo, hpark]
    split at h
    · cases h
      rw [hgo]
      exact Nat.lt_succ_self 4
    · cases h
  · rename_i out closed hupdate
    have hgo : toGo s = 3 := by simp only [toGo, hupdate]
    split at h
    · cases h
    · cases h
      rw [hgo]
      exact Nat.lt_succ_self 2
  · rename_i out closed hupdate
    have hgo : toGo s = 3 := by simp only [toGo, hupdate]
    cases h
    exact Nat.lt_of_le_of_lt
      (toGo_idle rfl (unqueued (by rw [hupdate]; rintro ⟨⟩))) (by omega)
  · rename_i out closed hrestore
    have hgo : toGo s = 2 := by simp only [toGo, hrestore]
    cases h
    exact Nat.lt_of_le_of_lt
      (toGo_idle rfl (unqueued (by rw [hrestore]; rintro ⟨⟩))) (by omega)
  · cases h

theorem step_toGo {s' : Session} {a : Act} (sound : Sound s) (gone : s.client.live = false)
    (h : step s a = some s') : toGo s' < toGo s := by
  obtain ⟨allowed, c, o, hstep, rfl⟩ := step_eq_some h
  cases a with
  | call maxBytes =>
    simp only [Session.allows, and_eq_true, not_eq_true'] at allowed
    obtain ⟨⟨idle, going⟩, -⟩ := allowed
    obtain ⟨free, unqueued⟩ := idle_iff.mp idle
    have hbegin : beginRead s.client maxBytes = (c, o) := Option.some.inj hstep
    rw [beginRead_gone sound.parent.1 gone] at hbegin
    obtain ⟨rfl, rfl⟩ := Prod.mk.inj hbegin
    simp only [toGo, free, unqueued, Session.note, going, Bool.true_or, if_true,
      false_eq_true, if_false]
    omega
  | lock =>
    simp only [Act.client, TerminalClient.step, lockRead] at hstep
    split at hstep
    · rename_i maxBytes free first
      cases hqueued : s.client.queued with
      | nil =>
        rw [hqueued] at first
        cases first
      | cons =>
        cases hstep
        simp only [toGo, free, hqueued]
        omega
    · cases hstep
  | read =>
    exact read_toGo sound gone hstep
  | deliver =>
    obtain ⟨c', handled⟩ := isSome_iff_exists.mp allowed
    rw [(handleFrame_live handled).1] at gone
    cases gone

/-- While it has not stopped, the consumer can go on. -/
theorem not_stuck (sound : Sound s) (gone : s.client.live = false) (going : s.stopped = false) :
    ∃ a s', step s a = some s' := by
  have hdone : s.client.child.done = true := by
    rw [sound.shut, gone]
    rfl
  have enabled (a : Act) (allowed : s.allows a = true)
      (hstep : (TerminalClient.step s.client a.client).isSome = true) :
      ∃ a s', step s a = some s' := by
    obtain ⟨r, hr⟩ := isSome_iff_exists.mp hstep
    exact ⟨a, _, by unfold step; rw [if_pos allowed, hr]; rfl⟩
  cases hreader : s.client.reader with
  | free =>
    cases hqueued : s.client.queued with
    | nil =>
      refine enabled (.call 1) ?_ rfl
      simp only [Session.allows, idle_iff.mpr ⟨hreader, hqueued⟩, going]
      decide
    | cons =>
      refine enabled .lock rfl ?_
      simp [Act.client, TerminalClient.step, lockRead, hreader, hqueued]
  | take =>
    refine enabled (.read .run) rfl ?_
    simp only [Act.client, TerminalClient.step, readStep, hreader]
    split
    · split <;> rfl
    · split <;> rfl
  | park =>
    refine enabled (.read .childDone) rfl ?_
    simp [Act.client, TerminalClient.step, readStep, hreader, hdone]
  | update =>
    refine enabled (.read .wrote) rfl ?_
    simp [Act.client, TerminalClient.step, readStep, hreader, sound.parent.2.1]
  | restore =>
    refine enabled (.read .run) rfl ?_
    simp [Act.client, TerminalClient.step, readStep, hreader]

/-- After the StreamClose the consumer takes a few steps, and whether all is read
is settled already. -/
theorem run_gone {t : Session} {acts : List Act} (good : Good s) (gone : s.client.live = false)
    (run : Runs.exec step s acts = some t) :
    acts.length + toGo t ≤ toGo s ∧ drained t.view = drained s.view ∧ t.client.live = false := by
  induction acts generalizing s with
  | nil =>
    obtain rfl : s = t := Option.some.inj run
    exact ⟨by simp, rfl, gone⟩
  | cons a _ ih =>
    obtain ⟨s', hs, ht⟩ := Runs.exec_cons.mp run
    have less := step_toGo good.sound gone hs
    obtain ⟨same, gone'⟩ := (step_refines good.sound good.kept hs).1.drained_eq gone
    obtain ⟨bound, later, hlive⟩ := ih (good_step good hs) gone' ht
    refine ⟨?_, later.trans same, hlive⟩
    rw [length_cons]
    omega

/-- The consumer runs until the StreamClose; after it, it stops within five steps,
and has got all accepted bytes exactly if the stream was drained when the
StreamClose arrived: nothing queued, or one chunk that a call past its lookup takes
whole. -/
theorem output_whole_iff (before after : List Act) (reason : CloseReason) {t : Session}
    (run : Runs.exec step Session.new before = some s)
    (closed : Runs.exec step s (.deliver (.streamClose (some reason)) :: after) = some t) :
    s.stopped = false ∧ after.length ≤ 5 ∧
      (t.stopped = false → ∃ a t', step t a = some t') ∧
      (t.stopped = true → (t.got = t.accepted ↔ drained s.view = true)) := by
  obtain ⟨s', hs, ht⟩ := Runs.exec_cons.mp closed
  have good := good_run ⟨sound_new, kept_new⟩ run
  have good' := good_step good hs
  obtain ⟨live, gone, same⟩ : s.client.live = true ∧ s'.client.live = false ∧
      drained s'.view = drained s.view := by
    obtain ⟨c, found, rfl⟩ := deliver_eq_some good.sound hs
    obtain ⟨live, handled⟩ := handleFrame_live found
    cases handled with
    | closes => exact ⟨live, rfl, rfl⟩
  obtain ⟨bound, later, hlive⟩ := run_gone good' gone ht
  have good'' := good_run good' ht
  refine ⟨good.kept.going live, ?_, not_stuck good''.sound hlive, ?_⟩
  · have := toGo_le s'
    omega
  · intro stopped
    rw [← same, ← later]
    exact good''.kept.got_iff stopped

def acceptFrame : Message := .streamAccepted (some 262144)

def endFrame : Message := .streamClose (some .processExit)

/-- The byte is read before the StreamClose arrives. -/
theorem output_whole_iff_read :
    ∃ t, Runs.exec step Session.new [.deliver acceptFrame, .deliver (.streamData [1]), .call 8,
        .lock, .read .run, .read .wrote, .read .run, .deliver endFrame, .call 8] = some t ∧
      t.stopped = true ∧ t.got = t.accepted := by
  refine ⟨_, rfl, rfl, ?_⟩
  exact ((output_whole_iff [.deliver acceptFrame, .deliver (.streamData [1]), .call 8, .lock,
    .read .run, .read .wrote, .read .run] [.call 8] .processExit rfl rfl).2.2.2 rfl).mpr rfl

/-- The byte is queued when the StreamClose arrives, and the next call is refused. -/
theorem queued_output_lost :
    ∃ t, Runs.exec step Session.new [.deliver acceptFrame, .deliver (.streamData [1]),
        .deliver endFrame, .call 8] = some t ∧
      t.accepted = [1] ∧ t.stopped = true ∧ t.got = [] :=
  ⟨_, rfl, rfl, rfl, rfl⟩

end TerminalOutput
