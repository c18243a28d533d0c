import WeDecent.ForwarderSteps

/-!
# Tunnel transparency

The incoming link of `ServeRouteOpen` carries one control frame and then opaque bytes.
The control reader takes exactly the frame, in whatever pieces the link delivers it, and
what the tunnel writes on either side is a part of what the other side sent.
-/

namespace ForwarderTunnel

open Bool List Forwarder GoIO Mesh RouteControl

variable {World Progress Deed : Type}

/-- What the bytes of a call are about; the steps that only close links, look at contexts
or move on leave it alone. -/
structure Flow where
  kind : Kind
  sends : Bytes
  input : Bytes
  replies : Bytes
  control : Bytes
  toDestination : Copy UInt8
  toSource : Copy UInt8
  tunneled : Bool

def flow (op : Op Progress) : Flow :=
  ⟨op.kind, op.sends, op.input, op.replies, op.control, op.toDestination, op.toSource, op.tunneled⟩

def acceptance : Bytes := RouteOpenResponse.accepted.frame

namespace Flow

/-- The control frame has been read, and nothing after it. -/
def Intake (f : Flow) : Prop :=
  ∃ h body, h.length = routeControlHeaderSize ∧ readHeader h routeControlOpen = .ok body.length ∧
    f.sends = h ++ body ++ f.input

/-- Nothing has been copied. -/
def Idle (f : Flow) : Prop :=
  f.tunneled = false ∧ f.toDestination.sink = [] ∧ f.toSource.sink = []

/-- The tunnel copies what is left of the incoming stream, behind one acceptance frame. -/
def Through (f : Flow) : Prop :=
  f.Intake ∧ f.control = acceptance ∧ f.toDestination.source = f.input ∧
    f.toSource.source = f.replies

def Open (f : Flow) : Prop := f.tunneled = true ∧ (f.kind = .serve → f.Through)

def copyOf (f : Flow) : Direction → Copy UInt8
  | .destination => f.toDestination
  | .source => f.toSource

/-- The result is what was written to either side. -/
def Tells (f : Flow) (x : Exit) : Prop :=
  x.result = ⟨f.toDestination.sink.length, f.toSource.sink.length⟩

end Flow

def bytesOf (result : ForwardResult) : Direction → Int
  | .destination => result.bytesToDestination
  | .source => result.bytesToSource

/-- An outcome that has been received is final. -/
def Counted (f : Flow) (c : Collecting) : Prop :=
  ∀ d, if c.has d then (f.copyOf d).ended.isSome = true ∧
      bytesOf c.result d = (f.copyOf d).sink.length
    else bytesOf c.result d = 0

def exitOf : Leaving → Exit
  | .closeOutgoing x => x
  | .release x => x
  | .closeIncoming x => x
  | .returned x => x

/-- What is known of the bytes at each point of a call. -/
def Flows (f : Flow) : Pc Progress → Prop
  | .reading (.header buf) => f.Idle ∧ f.control = [] ∧ f.sends = buf ++ f.input
  | .reading (.payload size buf) => f.Idle ∧ f.control = [] ∧
      ∃ h, h.length = routeControlHeaderSize ∧ readHeader h routeControlOpen = .ok size ∧
        f.sends = h ++ buf ++ f.input
  | .reading (.ended (.ok _)) => f.Idle ∧ f.control = [] ∧ f.Intake
  | .reading (.ended (.error _)) => f.Idle
  | .reading (.failed _) => f.Idle
  | .preparing _ => f.Idle ∧ (f.kind = .serve → f.control = [] ∧ f.Intake)
  | .answering .accepted (.writing left) =>
      f.Idle ∧ f.Intake ∧ f.control ++ left.flatten = acceptance
  | .answering .accepted (.written false) => f.Idle ∧ f.Intake ∧ f.control = acceptance
  | .answering _ _ => f.Idle
  | .tunnel .beginning => f.Idle ∧ (f.kind = .serve → f.Intake ∧ f.control = acceptance)
  | .tunnel (.copying c) => f.Open ∧ Counted f c
  | .tunnel (.copied x) => f.Open ∧ f.Tells x
  | .leaving l => (f.Idle ∨ f.Open) ∧ f.Tells (exitOf l)

def Transparent (op : Op Progress) : Prop := Flows (flow op) op.pc

section Steps

variable {cfg : Config World Progress Deed} {s s' : Shared World} {op op' : Op Progress}

/-- A call that leaves before its tunnel. -/
theorem Flow.Idle.leaves {f : Flow} (idle : f.Idle) (err : ForwardError) :
    (f.Idle ∨ f.Open) ∧ f.Tells (.failed err) := by
  refine ⟨.inl idle, ?_⟩
  unfold Flow.Tells
  rw [idle.2.1, idle.2.2]
  rfl

theorem idle_of_reading {f : Flow} {r : Reading}
    (h : Flows f (.reading r : Pc Progress)) : f.Idle := by
  cases r with
  | ended request =>
    cases request with
    | ok => exact h.1
    | error => exact h
  | failed => exact h
  | _ => exact h.1

theorem unprepared_transparent (idle : (flow op).Idle) (err : ForwardError) :
    Transparent (op.unprepared err) := by
  unfold Op.unprepared
  cases op.kind with
  | forward => exact idle.leaves err
  | serve => exact idle

theorem prepared_transparent (idle : (flow op).Idle)
    (read : op.kind = .serve → op.control = [] ∧ (flow op).Intake) : Transparent op.prepared := by
  unfold Op.prepared
  cases hkind : op.kind with
  | forward =>
    refine ⟨idle, ?_⟩
    intro serves
    have forwards : (flow (op.moveTo (.tunnel .beginning))).kind = .forward := hkind
    rw [forwards] at serves
    cases serves
  | serve =>
    obtain ⟨silent, intake⟩ := read hkind
    refine ⟨idle, intake, ?_⟩
    change op.control ++ RouteOpenResponse.accepted.writes.flatten = acceptance
    rw [silent, writes_flatten]
    rfl

theorem reads_transparent {decode : Bytes → Option (Route × RouteAuthorization.Authorization)}
    {r : Reading} (h : Transparent op) (here : op.pc = .reading r) (reads : Reads decode op r op') :
    Transparent op' := by
  have before := h
  unfold Transparent at before
  rw [here] at before
  have idle := idle_of_reading before
  cases reads with
  | headerMore buf n =>
    refine ⟨idle, before.2.1, before.2.2.trans ?_⟩
    change buf ++ op.input = buf ++ op.input.take n ++ op.input.drop n
    rw [append_assoc, take_append_drop]
  | header buf n size length ok =>
    refine ⟨idle, before.2.1, buf ++ op.input.take n, length, ok, before.2.2.trans ?_⟩
    change buf ++ op.input = buf ++ op.input.take n ++ [] ++ op.input.drop n
    rw [append_nil, append_assoc, take_append_drop]
  | payloadMore size buf n =>
    obtain ⟨h, length, ok, sends⟩ := before.2.2
    refine ⟨idle, before.2.1, h, length, ok, sends.trans ?_⟩
    change h ++ buf ++ op.input = h ++ (buf ++ op.input.take n) ++ op.input.drop n
    rw [append_assoc, append_assoc, append_assoc, take_append_drop]
  | payload size buf n request length =>
    obtain ⟨h, hlength, ok, sends⟩ := before.2.2
    refine ⟨idle, before.2.1, h, buf ++ op.input.take n, hlength, ?_, sends.trans ?_⟩
    · rw [length]
      exact ok
    · change h ++ buf ++ op.input = h ++ (buf ++ op.input.take n) ++ op.input.drop n
      rw [append_assoc, append_assoc, append_assoc, take_append_drop]
  | request => exact ⟨idle, fun _ => before.2⟩
  | left => exact idle.leaves _
  | cut => exact h
  | _ => exact idle

theorem prepares_transparent {p : Preparing Progress} (h : Transparent op)
    (here : op.pc = .preparing p) (prepares : Prepares cfg s op p s' op') : Transparent op' := by
  unfold Transparent at h
  rw [here] at h
  cases prepares with
  | refused p err => exact unprepared_transparent h.1 err
  | prepared => exact prepared_transparent h.1 h.2
  | released err =>
    have idle : (flow { op with releases := op.releases + 1 }).Idle := h.1
    exact unprepared_transparent idle err
  | _ => exact h

theorem idle_of_answering {f : Flow} {after : After} {w : Answering}
    (h : Flows f (.answering after w : Pc Progress)) : f.Idle := by
  cases after with
  | accepted =>
    cases w with
    | writing => exact h.1
    | written failed =>
      cases failed with
      | false => exact h.1
      | true => exact h
  | _ => exact h

theorem answers_transparent {after : After} {w : Answering} (h : Transparent op)
    (here : op.pc = .answering after w) (answers : Answers op after w op') : Transparent op' := by
  have before := h
  unfold Transparent at before
  rw [here] at before
  have idle := idle_of_answering before
  cases answers with
  | more data rest n =>
    cases after with
    | accepted =>
      refine ⟨idle, before.2.1, Eq.trans ?_ before.2.2⟩
      change op.control ++ data.take n ++ (data.drop n :: rest).flatten =
        op.control ++ (data :: rest).flatten
      rw [flatten_cons, flatten_cons, append_assoc, ← append_assoc (data.take n), take_append_drop]
    | _ => exact idle
  | next data rest =>
    cases after with
    | accepted =>
      refine ⟨idle, before.2.1, Eq.trans ?_ before.2.2⟩
      change op.control ++ data ++ rest.flatten = op.control ++ (data :: rest).flatten
      rw [flatten_cons, append_assoc]
    | _ => exact idle
  | last data =>
    cases after with
    | accepted =>
      refine ⟨idle, before.2.1, Eq.trans ?_ before.2.2⟩
      change op.control ++ data = op.control ++ [data].flatten
      rw [flatten_singleton]
    | _ => exact idle
  | failed => cases after <;> exact idle
  | refused failed err => exact idle.leaves err
  | unaccepted => exact idle.leaves _
  | accepted accepted =>
    subst accepted
    exact ⟨idle, fun _ => before.2⟩
  | cut => exact h

theorem flow_withCopy (op : Op Progress) (d e : Direction) (c : Copy UInt8) :
    (flow (op.withCopy d c)).copyOf e = if e = d then c else (flow op).copyOf e := by
  cases d <;> cases e <;> rfl

/-- A copy that has not returned takes a step: what was received is not touched. -/
theorem copy_transparent {c : Collecting} {d : Direction} {copy : Copy UInt8}
    (h : Transparent op) (here : op.pc = .tunnel (.copying c))
    (running : (op.copyOf d).ended = none) (source : copy.source = (op.copyOf d).source) :
    Transparent (op.withCopy d copy) := by
  have before := h
  unfold Transparent at before
  rw [here] at before
  have there : (op.withCopy d copy).pc = .tunnel (.copying c) := by
    cases d <;> exact here
  unfold Transparent
  rw [there]
  constructor
  · cases d with
    | destination =>
      refine ⟨before.1.1, ?_⟩
      intro serves
      obtain ⟨intake, control, toDestination, toSource⟩ := before.1.2 serves
      exact ⟨intake, control, source.trans toDestination, toSource⟩
    | source =>
      refine ⟨before.1.1, ?_⟩
      intro serves
      obtain ⟨intake, control, toDestination, toSource⟩ := before.1.2 serves
      exact ⟨intake, control, toDestination, source.trans toSource⟩
  · intro e
    have counted := before.2 e
    rw [flow_withCopy]
    by_cases same : e = d
    · subst same
      have running' : ((flow op).copyOf e).ended = none := by
        cases e <;> exact running
      rw [running'] at counted
      cases hhas : c.has e with
      | true =>
        rw [hhas] at counted
        cases counted.1
      | false =>
        rw [hhas] at counted
        exact counted
    · rw [if_neg same]
      exact counted

theorem has_receive (c : Collecting) (d e : Direction) (bytes : Int) (how : CopyEnd) :
    (c.receive d bytes how).has e = (decide (e = d) || c.has e) := by
  cases d <;> cases e <;> rfl

theorem bytes_receive (c : Collecting) (d e : Direction) (bytes : Int) (how : CopyEnd) :
    bytesOf (c.receive d bytes how).result e = bytesOf c.result e + if e = d then bytes else 0 := by
  cases d <;> cases e <;> simp [bytesOf, Collecting.receive]

theorem counted_receive {f : Flow} {c : Collecting} {d : Direction} {how : CopyEnd}
    (counted : Counted f c) (new : c.has d = false) (ended : (f.copyOf d).ended = some how) :
    Counted f (c.receive d (f.copyOf d).sink.length how) := by
  intro e
  rw [has_receive, bytes_receive]
  by_cases same : e = d
  · subst same
    have zero := counted e
    rw [new] at zero
    have zero : bytesOf c.result e = 0 := zero
    rw [decide_eq_true rfl, Bool.true_or, if_pos rfl, if_pos rfl, zero, ended]
    exact ⟨rfl, Int.zero_add _⟩
  · rw [decide_eq_false same, Bool.false_or, if_neg same, Int.add_zero]
    exact counted e

theorem tells_of_counted {f : Flow} {c : Collecting} (counted : Counted f c)
    (destination : c.destination = true) (source : c.source = true) (err : Option ForwardError) :
    f.Tells ⟨c.result, err⟩ := by
  have first := counted .destination
  have second := counted .source
  have hasDestination : c.has .destination = true := destination
  have hasSource : c.has .source = true := source
  rw [if_pos hasDestination] at first
  rw [if_pos hasSource] at second
  have toDestination : c.result.bytesToDestination = f.toDestination.sink.length := first.2
  have toSource : c.result.bytesToSource = f.toSource.sink.length := second.2
  unfold Flow.Tells
  rw [← toDestination, ← toSource]

theorem tunnels_transparent {t : Tunnel} (h : Transparent op) (here : op.pc = .tunnel t)
    (tunnels : Tunnels s op t s' op') : Transparent op' := by
  have before := h
  unfold Transparent at before
  rw [here] at before
  cases tunnels with
  | begun =>
    refine ⟨⟨rfl, ?_⟩, ?_⟩
    · intro serves
      obtain ⟨intake, control⟩ := before.2 serves
      exact ⟨intake, control, rfl, rfl⟩
    · intro d
      cases d <;> rfl
  | moved c d taken written how copy moves =>
    exact copy_transparent h here (Copy.move_running moves) (Copy.move_source moves)
  | finished c d how copy finishes =>
    exact copy_transparent h here (Copy.finish_running finishes) (Copy.finish_source finishes)
  | collected c d how new ended =>
    refine ⟨before.1, ?_⟩
    have outcome : op.copyOf d = (flow op).copyOf d := by
      cases d <;> rfl
    rw [outcome] at ended ⊢
    exact counted_receive before.2 new ended
  | ctxDone => exact before
  | concluded c err destination source =>
    exact ⟨before.1, tells_of_counted before.2 destination source err⟩
  | recorded => exact ⟨.inr before.1, before.2⟩

theorem leaves_transparent {l : Leaving} (h : Transparent op) (here : op.pc = .leaving l)
    (leaves : Leaves s op l s' op') : Transparent op' := by
  unfold Transparent at h
  rw [here] at h
  cases leaves with
  | _ => exact h

theorem moves_transparent (s : Shared World) (op : Op Progress) (s' : Shared World)
    (op' : Op Progress) (h : Transparent op) (moves : Moves cfg s op s' op') :
    Transparent op' := by
  cases moves with
  | reads r op' here reads => exact reads_transparent h here reads
  | prepares p s' op' here prepares => exact prepares_transparent h here prepares
  | answers after w op' here answers => exact answers_transparent h here answers
  | tunnels t s' op' here tunnels => exact tunnels_transparent h here tunnels
  | leaves l s' op' here leaves => exact leaves_transparent h here leaves

theorem start_transparent (a : Start) : Transparent (a.op : Op Progress) := by
  have idle : (flow (a.op : Op Progress)).Idle := ⟨rfl, rfl, rfl⟩
  have begins : Begins a (a.op : Op Progress).pc := begins_start a
  unfold Transparent
  generalize (a.op : Op Progress).pc = pc at begins ⊢
  cases begins with
  | unlinked => exact idle.leaves _
  | forward forwards =>
    refine ⟨idle, ?_⟩
    intro serves
    have forwards : (flow (a.op : Op Progress)).kind = .forward := forwards
    rw [forwards] at serves
    cases serves
  | serve => exact ⟨idle, rfl, rfl⟩

end Steps

theorem transparent_reachable {cfg : Config World Progress Deed} {clock : Int}
    {policy : RouterPolicy} {world : World} {s : State World Progress}
    (reach : Runs.Reachable (step cfg) (.start clock policy world) s) :
    ∀ op ∈ s.ops, Transparent op := by
  refine Runs.reachable_invariant (fun s => ∀ op ∈ s.ops, Transparent op) ?_ ?_ reach
  · intro s a s' h stepped
    exact ops_invariant Transparent start_transparent moves_transparent s a s' h
      (steps_of_step stepped)
  · intro op member
    cases member

theorem idle_or_open {op : Op Progress} (h : Transparent op) : (flow op).Idle ∨ (flow op).Open := by
  unfold Transparent at h
  cases hpc : op.pc with
  | reading =>
    rw [hpc] at h
    exact .inl (idle_of_reading h)
  | preparing =>
    rw [hpc] at h
    exact .inl h.1
  | answering =>
    rw [hpc] at h
    exact .inl (idle_of_answering h)
  | tunnel t =>
    rw [hpc] at h
    cases t with
    | beginning => exact .inl h.1
    | _ => exact .inr h.1
  | leaving =>
    rw [hpc] at h
    exact h.1

theorem tells_returned {op : Op Progress} {x : Exit} (h : Transparent op)
    (here : op.pc = .leaving (.returned x)) : (flow op).Tells x := by
  unfold Transparent at h
  rw [here] at h
  exact h.2

/-- A `ServeRouteOpen` call that has accepted, because its tunnel has begun or because its
acceptance was written out: what it wrote to the outgoing link is a prefix of what follows
the control frame; what it wrote to the incoming link is the acceptance frame and a prefix of
what the destination sent; and the result it returns counts the two. -/
theorem tunnel_transparent {cfg : Config World Progress Deed} {clock : Int}
    {policy : RouterPolicy} {world : World} {s : State World Progress}
    (reach : Runs.Reachable (step cfg) (.start clock policy world) s) {op : Op Progress}
    (member : op ∈ s.ops) (serves : op.kind = .serve)
    (accepts : op.tunneled = true ∨ op.control = RouteOpenResponse.accepted.frame)
    {payload tail : Bytes} (fits : Fits payload)
    (sent : op.sends = frame routeControlOpen payload ++ tail) :
    op.writtenToOutgoing <+: tail ∧ ∃ back, back <+: op.replies ∧
        op.writtenToIncoming = RouteOpenResponse.accepted.frame ++ back ∧
        ∀ x, op.pc = .leaving (.returned x) →
          x.result = ⟨op.writtenToOutgoing.length, back.length⟩ := by
  have transparent := transparent_reachable reach op member
  rcases idle_or_open transparent with idle | tunnel
  · -- the acceptance was written, and the context ended before the tunnel began
    have nothing : op.toDestination.sink = [] := idle.2.1
    have nothing_back : op.toSource.sink = [] := idle.2.2
    have control : op.control = RouteOpenResponse.accepted.frame := by
      rcases accepts with tunneled | control
      · have quiet : op.tunneled = false := idle.1
        rw [tunneled] at quiet
        cases quiet
      · exact control
    refine ⟨?_, op.toSource.sink, ?_, ?_, fun x here => tells_returned transparent here⟩
    · rw [Op.writtenToOutgoing, nothing]
      exact nil_prefix
    · rw [nothing_back]
      exact nil_prefix
    · rw [Op.writtenToIncoming, control]
  · obtain ⟨⟨h, body, length, ok, sends⟩, control, toDestination, toSource⟩ := tunnel.2 serves
    have same : frame routeControlOpen payload ++ tail = h ++ body ++ op.input :=
      sent.symm.trans sends
    obtain ⟨-, rest⟩ := frame_read fits length ok same
    refine ⟨?_, op.toSource.sink, ?_, ?_, fun x here => tells_returned transparent here⟩
    · have copied := op.toDestination.sink_prefix
      rw [show op.toDestination.source = op.input from toDestination, rest] at copied
      exact copied
    · have copied := op.toSource.sink_prefix
      rw [show op.toSource.source = op.replies from toSource] at copied
      exact copied
    · rw [Op.writtenToIncoming, show op.control = acceptance from control]
      rfl

section Samples

/-- The request of the fixture, and four bytes of the inner session behind it -/
def sampleServe : Start where
  kind := .serve
  incoming := some sampleIncoming
  route := ⟨[], [], [], [], ⟨0, .utc⟩⟩
  sends := frame routeControlOpen samplePayload ++ [1, 2, 3, 4]
  replies := [9, 8, 7]

/-- The control frame is delivered in four pieces, the acceptance is taken in three, and the
link to the destination fails after it has taken three bytes. -/
def servedTunnel : List (Act Bool) :=
  [.start sampleServe, .op 0 (.read (.read 5 false)), .op 0 (.read (.read 7 false)),
    .op 0 (.read (.read 1000 false)), .op 0 (.read (.read (samplePayload.length - 1000) true)),
    .op 0 (.read (.stop false)), .op 0 (.prepare (.look false)), .op 0 (.prepare .snapshot),
    .op 0 (.prepare .check), .op 0 (.prepare .acquire), .op 0 (.prepare (.authorize true)),
    .op 0 (.prepare .conclude), .op 0 (.prepare (.look false)),
    .op 0 (.prepare (.dialed (.link sampleOutgoing))), .op 0 (.prepare (.look false)),
    .op 0 (.answer (.write 12 false)), .op 0 (.answer (.write 4 false)),
    .op 0 (.answer (.write 13 false)), .op 0 (.answer (.stop false)), .op 0 (.tunnel .begin),
    .op 0 (.tunnel (.copy .source 2 2 .eof)), .op 0 (.tunnel (.copy .destination 2 2 .eof)),
    .op 0 (.tunnel (.copy .destination 2 1 .failed)), .op 0 (.tunnel (.collect .destination)),
    .op 0 (.tunnel (.finish .source .closed)), .op 0 (.tunnel (.collect .source)),
    .op 0 (.tunnel (.conclude false)), .op 0 (.tunnel .record), .op 0 (.leave .closeOutgoing),
    .op 0 (.leave .release), .op 0 (.leave .closeIncoming)]

/-- What the run leaves of the call -/
def servedFacts (op : Op (Option Bool)) : Bool :=
  decide (op.kind = .serve) && op.tunneled && decide (op.sends = sampleServe.sends) &&
    decide (op.replies = [9, 8, 7]) && decide (op.writtenToOutgoing = [1, 2, 3])

theorem tunnel_transparent_served : ∃ s op,
    Runs.exec (step sampleConfig) (.start sampleClock samplePolicy ()) servedTunnel = some s ∧
    s.ops = [op] ∧ op.writtenToOutgoing = [1, 2, 3] ∧ op.writtenToOutgoing <+: [1, 2, 3, 4] ∧
    ∃ back, back <+: [9, 8, 7] ∧
      op.writtenToIncoming = RouteOpenResponse.accepted.frame ++ back := by
  have ends : (Runs.exec (step sampleConfig) (.start sampleClock samplePolicy ())
      servedTunnel).any (fun s => s.ops.length == 1 && s.ops.all servedFacts) = true := by
    decide +kernel
  obtain ⟨s, run, facts⟩ := (Option.any_eq_true _ _).mp ends
  rw [and_eq_true, beq_iff_eq, length_eq_one_iff, List.all_eq_true] at facts
  obtain ⟨⟨op, only⟩, all⟩ := facts
  have member : op ∈ s.ops := by
    rw [only]
    exact mem_singleton_self op
  have known := all op member
  simp only [servedFacts, and_eq_true, decide_eq_true_eq] at known
  obtain ⟨⟨⟨⟨serves, tunneled⟩, sends⟩, replies⟩, written⟩ := known
  have fits : Fits samplePayload := ⟨by decide +kernel, by decide +kernel⟩
  obtain ⟨forth, back, reply, incoming, -⟩ :=
    tunnel_transparent ⟨servedTunnel, run⟩ member serves (.inl tunneled) fits sends
  rw [replies] at reply
  exact ⟨s, op, run, only, written, forth, back, reply, incoming⟩

end Samples

end ForwarderTunnel
