import WeDecent.Forwarder

/-!
# What a step of the forwarder can do

One relation per function of `mesh/forwarder.go` lists its steps with what they check
and change; the invariants of the calls are proved over these relations.
-/

namespace Forwarder

open Bool List Option Fallible GoIO GoTime GoTime.Time Mesh RouteAuthorization RouteControl

section Steps

variable {World Progress Deed : Type}

/-- The steps of `readRouteOpenRequestWithContext` -/
inductive Reads (decode : Bytes → Option (Route × Authorization)) (op : Op Progress) :
    Reading → Op Progress → Prop
  | headerMore (buf : Bytes) (n : Nat) : Reads decode op (.header buf)
      ({ op with input := op.input.drop n }.moveTo (.reading (.header (buf ++ op.input.take n))))
  | header (buf : Bytes) (n size : Nat)
      (length : (buf ++ op.input.take n).length = routeControlHeaderSize)
      (ok : readHeader (buf ++ op.input.take n) routeControlOpen = .ok size) :
      Reads decode op (.header buf)
        ({ op with input := op.input.drop n }.moveTo (.reading (.payload size [])))
  | payloadMore (size : Nat) (buf : Bytes) (n : Nat) : Reads decode op (.payload size buf)
      ({ op with input := op.input.drop n }.moveTo
        (.reading (.payload size (buf ++ op.input.take n))))
  | payload (size : Nat) (buf : Bytes) (n : Nat) (request)
      (length : (buf ++ op.input.take n).length = size)
      (decoded : decode (buf ++ op.input.take n) = some request) :
      Reads decode op (.payload size buf)
        ({ op with input := op.input.drop n }.moveTo (.reading (.ended (.ok request))))
  | failed (r : Reading) (n : Nat) (err) : Reads decode op r
      ({ op with input := op.input.drop n }.moveTo (.reading (.ended (.error err))))
  | request (route : Route) (authorization) :
      Reads decode op (.ended (.ok (route, authorization))) { op with
        cut := false, route := route, authorization := authorization, pc := .preparing .entered }
  | refused (r : Reading) (err) :
      Reads decode op r { op with cut := false, pc := .reading (.failed err) }
  | left (err) : Reads decode op (.failed err) (op.leave (.failed .context))
  | answered (err) : Reads decode op (.failed err)
      (op.respond (.rejected .invalidRequest) (.invalid err))
  | cut (r : Reading) : Reads decode op r { op with incomingClosed := true, cut := true }

variable {op op' : Op Progress}

theorem reads_of_readStep {decode : Bytes → Option (Route × Authorization)} {r : Reading}
    {a : ReadAct} (h : readStep decode op r a = some op') : Reads decode op r op' := by
  cases r with
  | header buf =>
    cases a with
    | read n err =>
      obtain ⟨fits, h⟩ := ite_none_right_eq_some.mp h
      split at h
      · rename_i more
        cases h
        rw [readFull_eq_more more]
        exact .headerMore buf n
      · cases h
        exact .failed _ n _
      rename_i full
      obtain ⟨rfl, enough⟩ := readFull_eq_full full
      split at h
      · cases h
        exact .failed _ n _
      rename_i ok
      cases h
      refine .header buf n _ (Nat.le_antisymm ?_ enough) ok
      rw [length_append, length_take]
      omega
    | cut =>
      cases h
      exact .cut _
    | _ => cases h
  | payload size buf =>
    cases a with
    | read n err =>
      obtain ⟨fits, h⟩ := ite_none_right_eq_some.mp h
      split at h
      · rename_i more
        cases h
        rw [readFull_eq_more more]
        exact .payloadMore size buf n
      · cases h
        exact .failed _ n _
      rename_i full
      obtain ⟨rfl, enough⟩ := readFull_eq_full full
      split at h
      · cases h
        exact .failed _ n _
      rename_i decoded
      cases h
      refine .payload size buf n _ (Nat.le_antisymm ?_ enough) decoded
      rw [length_append, length_take]
      omega
    | cut =>
      cases h
      exact .cut _
    | _ => cases h
  | ended request =>
    cases a with
    | stop =>
      obtain ⟨-, h⟩ := ite_none_left_eq_some.mp h
      split at h
      · cases h
        exact .refused _ _
      · cases h
        exact .refused _ _
      · cases h
        exact .request _ _
    | cut =>
      cases h
      exact .cut _
    | _ => cases h
  | failed err =>
    cases a with
    | look ended =>
      cases ended with
      | true =>
        cases h
        exact .left err
      | false =>
        cases h
        exact .answered err
    | _ => cases h

/-- The steps of `prepareForward`. A session is given back in `released`, and `DialNext` is
called in `dials`. -/
inductive Prepares (cfg : Config World Progress Deed) (s : Shared World) (op : Op Progress) :
    Preparing Progress → Shared World → Op Progress → Prop
  | identified : Prepares cfg s op .entered s (op.prepare .identified)
  | snapped : Prepares cfg s op .identified s (op.prepare (.snapped s.policy))
  | checked (policy) (incoming : Link) (given : op.incoming = some incoming)
      (ok : cfg.checkRoute policy op.route incoming (wall s.clock) = .ok ()) :
      Prepares cfg s op (.snapped policy) s (op.prepare (.checked policy))
  | refused (p) (err) (early : p = .entered ∨ p = .identified ∨ (∃ policy, p = .snapped policy) ∨
        ∃ policy, p = .checked policy) :
      Prepares cfg s op p s (op.unprepared err)
  | acquired (policy) (authorizer) (configured : cfg.authorizer = some authorizer)
      (room : 0 < policy.maxSessions → s.active < policy.maxSessions) :
      Prepares cfg s op (.checked policy) { s with active := s.active + 1 } { op with
          admission := some ⟨s.active, policy⟩
          pc := .preparing (.authorizing policy authorizer.enter) }
  | advanced (policy) (progress progress' : Progress) (deed : Deed) (world' : World)
      (authorizer) (configured : cfg.authorizer = some authorizer)
      (advances : authorizer.advance s.clock s.world (op.request cfg.localID policy) progress
        deed = some (world', progress')) :
      Prepares cfg s op (.authorizing policy progress) { s with world := world' }
        (op.prepare (.authorizing policy progress'))
  | denied (policy) (progress : Progress) :
      Prepares cfg s op (.authorizing policy progress) s (op.prepare .denied)
  | authorized (policy) (progress : Progress)
      (authorizer) (configured : cfg.authorizer = some authorizer)
      (approved : authorizer.verdict progress = some true) :
      Prepares cfg s op (.authorizing policy progress) s (op.prepare .authorized)
  | dials (early : s.clock < op.route.expiresAt.nanos) : Prepares cfg s op .authorized s
      { op with dials := op.dials ++ op.route.hops[1]?.toList, pc := .preparing .dialing }
  | dialFailed (cause) : Prepares cfg s op .dialing s (op.prepare (.dialFailed cause))
  | matched (l : Link) (right : cfg.linkMatches op.route l = true) : Prepares cfg s op .dialing s
      ({ op with outgoing := some l }.prepare .matched)
  | mismatched (l : Link) : Prepares cfg s op .dialing s
      ({ op with outgoing := some l }.prepare (.closing .linkIdentity))
  | gaveUp (p) (err)
      (unlinked : p = .denied ∨ p = .authorized ∨ p = .dialing ∨ ∃ cause, p = .dialFailed cause) :
      Prepares cfg s op p s (op.prepare (.releasing err))
  | expired : Prepares cfg s op .matched s (op.prepare (.closing .context))
  | prepared : Prepares cfg s op .matched s op.prepared
  | closed (err) : Prepares cfg s op (.closing err) s
      { op with outgoingClosed := true, pc := .preparing (.releasing err) }
  | released (err) : Prepares cfg s op (.releasing err)
      { s with active := s.active - 1 } ({ op with releases := op.releases + 1 }.unprepared err)

theorem mayReport_false {clock : Int} (h : op.mayReport clock false = true) :
    clock < op.route.expiresAt.nanos := by
  simpa [Op.mayReport] using h

variable {cfg : Config World Progress Deed} {s s' : Shared World}

section Preparing

variable {a : PrepareAct Deed} {policy : RouterPolicy}

theorem prepares_of_entered (h : prepareStep cfg s op .entered a = some (s', op')) :
    Prepares cfg s op .entered s' op' := by
  cases a <;> try cases h
  unfold prepareStep at h
  dsimp only at h
  split at h
  · cases h
    exact .refused _ _ (.inl rfl)
  split at h
  · cases h
    exact .refused _ _ (.inl rfl)
  · cases h
    exact .identified

theorem prepares_of_identified (h : prepareStep cfg s op .identified a = some (s', op')) :
    Prepares cfg s op .identified s' op' := by
  cases a <;> try cases h
  unfold prepareStep at h
  dsimp only at h
  split at h
  · cases h
    exact .refused _ _ (.inr (.inl rfl))
  · cases h
    exact .snapped

theorem prepares_of_snapped (h : prepareStep cfg s op (.snapped policy) a = some (s', op')) :
    Prepares cfg s op (.snapped policy) s' op' := by
  cases a <;> try cases h
  unfold prepareStep at h
  dsimp only at h
  split at h
  · cases h
    exact .refused _ _ (.inr (.inr (.inl ⟨policy, rfl⟩)))
  rename_i incoming given
  split at h
  · cases h
    exact .refused _ _ (.inr (.inr (.inl ⟨policy, rfl⟩)))
  · rename_i ok
    cases h
    exact .checked policy incoming given ok

theorem prepares_of_checked (h : prepareStep cfg s op (.checked policy) a = some (s', op')) :
    Prepares cfg s op (.checked policy) s' op' := by
  cases a <;> try cases h
  unfold prepareStep at h
  dsimp only at h
  split at h
  · cases h
  rename_i authorizer configured
  split at h
  · cases h
    exact .refused _ _ (.inr (.inr (.inr ⟨policy, rfl⟩)))
  rename_i room
  cases h
  refine .acquired policy authorizer configured ?_
  intro limited
  exact Int.not_le.mp fun full => room ⟨limited, full⟩

theorem prepares_of_authorizing {progress : Progress}
    (h : prepareStep cfg s op (.authorizing policy progress) a = some (s', op')) :
    Prepares cfg s op (.authorizing policy progress) s' op' := by
  cases hcfg : cfg.authorizer with
  | none =>
    cases a <;> simp [prepareStep, hcfg] at h
  | some authorizer =>
    cases a <;> try cases h
    · rename_i deed
      simp only [prepareStep, hcfg] at h
      split at h
      · cases h
      · rename_i advances
        cases h
        exact .advanced policy progress _ deed _ authorizer hcfg advances
    · simp only [prepareStep, hcfg] at h
      split at h
      · cases h
      · cases h
        exact .denied policy progress
      · rename_i approved
        cases h
        exact .authorized policy progress authorizer hcfg approved

theorem prepares_of_dialing (h : prepareStep cfg s op .dialing a = some (s', op')) :
    Prepares cfg s op .dialing s' op' := by
  cases a with
  | dialed answer =>
    cases answer with
    | error cause =>
      cases h
      exact .dialFailed cause
    | nil =>
      cases h
      exact .gaveUp _ _ (.inr (.inr (.inl rfl)))
    | link l =>
      unfold prepareStep at h
      dsimp only at h
      split at h
      · rename_i right
        cases h
        exact .matched l right
      · cases h
        exact .mismatched l
  | _ => cases h

theorem prepares_of_prepareStep {p : Preparing Progress}
    (h : prepareStep cfg s op p a = some (s', op')) : Prepares cfg s op p s' op' := by
  cases p with
  | entered => exact prepares_of_entered h
  | identified => exact prepares_of_identified h
  | snapped => exact prepares_of_snapped h
  | checked => exact prepares_of_checked h
  | authorizing => exact prepares_of_authorizing h
  | denied =>
    cases a <;> try cases h
    obtain ⟨-, ⟨⟩⟩ := ite_none_right_eq_some.mp h
    exact .gaveUp _ _ (.inl rfl)
  | authorized =>
    cases a <;> try cases h
    rename_i ended
    obtain ⟨reports, h⟩ := ite_none_right_eq_some.mp h
    cases ended <;> cases h
    · exact .dials (mayReport_false reports)
    · exact .gaveUp _ _ (.inr (.inl rfl))
  | dialing => exact prepares_of_dialing h
  | dialFailed cause =>
    cases a <;> try cases h
    obtain ⟨-, ⟨⟩⟩ := ite_none_right_eq_some.mp h
    exact .gaveUp _ _ (.inr (.inr (.inr ⟨cause, rfl⟩)))
  | matched =>
    cases a <;> try cases h
    rename_i ended
    obtain ⟨-, h⟩ := ite_none_right_eq_some.mp h
    cases ended <;> cases h
    · exact .prepared
    · exact .expired
  | closing err =>
    cases a <;> cases h
    exact .closed err
  | releasing err =>
    cases a <;> cases h
    exact .released err

end Preparing

/-- The steps of `writeRouteOpenResponseWithContext` -/
inductive Answers (op : Op Progress) (after : After) : Answering → Op Progress → Prop
  | more (data : Bytes) (rest) (n : Nat) : Answers op after (.writing (data :: rest))
        ({ op with control := op.control ++ data.take n }.moveTo
          (.answering after (.writing (data.drop n :: rest))))
  | next (data : Bytes) (rest) : Answers op after (.writing (data :: rest))
      ({ op with control := op.control ++ data }.moveTo (.answering after (.writing rest)))
  | last (data : Bytes) : Answers op after (.writing [data])
      ({ op with control := op.control ++ data }.moveTo (.answering after (.written false)))
  | failed (data : Bytes) (rest) (n : Nat) : Answers op after (.writing (data :: rest))
        ({ op with control := op.control ++ data.take n }.moveTo (.answering after (.written true)))
  | refused (failed : Bool) (err) (rejection : after ≠ .accepted) :
      Answers op after (.written failed) ({ op with cut := false }.leave (.failed err))
  | unaccepted (failed : Bool) (accepted : after = .accepted) : Answers op after (.written failed)
      ({ op with cut := false }.moveTo (.leaving (.closeOutgoing (.failed .acceptance))))
  | accepted (accepted : after = .accepted) : Answers op after (.written false)
      ({ op with cut := false }.moveTo (.tunnel .beginning))
  | cut (a) : Answers op after a { op with incomingClosed := true, cut := true }

theorem answers_of_answerStep {clock : Int} {after : After} {w : Answering} {a : AnswerAct}
    (h : answerStep clock op after w a = some op') : Answers op after w op' := by
  cases w with
  | writing left =>
    cases a with
    | write n err =>
      cases left with
      | nil => cases h
      | cons data rest =>
        obtain ⟨-, h⟩ := ite_none_right_eq_some.mp h
        split at h
        · rename_i more
          cases h
          rw [writeAll_eq_more more]
          exact .more data rest n
        · cases h
          exact .failed data rest n
        rename_i done
        rw [writeAll_eq_done done] at h
        cases rest with
        | nil =>
          cases h
          exact .last data
        | cons d rest =>
          cases h
          exact .next data (d :: rest)
    | cut =>
      cases left <;> cases h <;> exact .cut _
    | stop => cases left <;> cases h
  | written failed =>
    cases a with
    | stop ended =>
      obtain ⟨-, h⟩ := ite_none_left_eq_some.mp h
      split at h
      · cases h
        exact .refused failed _ nofun
      · cases h
        exact .refused failed _ nofun
      obtain ⟨-, accepts⟩ := ite_none_right_eq_some.mp h
      split at accepts
      · cases accepts
        exact .unaccepted failed rfl
      rename_i fine
      cases accepts
      cases failed with
      | true => exact absurd rfl fine
      | false => exact .accepted rfl
    | cut =>
      cases h
      exact .cut _
    | write => cases h

/-- The steps of `copyOpaque` and of the counters around it -/
inductive Tunnels (s : Shared World) (op : Op Progress) : Tunnel → Shared World → Op Progress → Prop
  | begun : Tunnels s op .beginning s.beginForwarding { op with
      tunneled := true, toDestination := .start op.input, toSource := .start op.replies,
      pc := .tunnel (.copying .start) }
  | moved (c) (d) (taken written : Nat) (how : CopyEnd) (copy)
      (moves : (op.copyOf d).move taken written how = some copy) :
      Tunnels s op (.copying c) s (op.withCopy d copy)
  | finished (c) (d) (how : CopyEnd) (copy) (finishes : (op.copyOf d).finish how = some copy) :
      Tunnels s op (.copying c) s (op.withCopy d copy)
  | collected (c) (d) (how : CopyEnd) (new : c.has d = false)
      (ended : (op.copyOf d).ended = some how) : Tunnels s op (.copying c) s
        (op.closeLinks.moveTo (.tunnel (.copying (c.receive d (op.copyOf d).sink.length how))))
  | ctxDone (c) : Tunnels s op (.copying c) s
      (op.closeLinks.moveTo (.tunnel (.copying { c with watching := false })))
  | concluded (c) (err) (destination : c.destination = true) (source : c.source = true) :
      Tunnels s op (.copying c) s (op.closeLinks.moveTo (.tunnel (.copied ⟨c.result, err⟩)))
  | recorded (x : Exit) : Tunnels s op (.copied x) (s.recordForwardResult x.result)
      (op.moveTo (.leaving (.closeOutgoing x)))

theorem tunnels_of_tunnelStep {t : Tunnel} {a : TunnelAct}
    (h : tunnelStep s op t a = some (s', op')) : Tunnels s op t s' op' := by
  cases t with
  | beginning =>
    cases a with
    | begin =>
      cases h
      exact .begun
    | _ => cases h
  | copying c =>
    cases a with
    | copy d taken written how =>
      unfold tunnelStep at h
      dsimp only at h
      split at h
      · cases h
      · rename_i moves
        cases h
        exact .moved c d taken written how _ moves
    | finish d how =>
      unfold tunnelStep at h
      dsimp only at h
      split at h
      · cases h
      · rename_i finishes
        cases h
        exact .finished c d how _ finishes
    | collect d =>
      obtain ⟨new, h⟩ := ite_none_left_eq_some.mp h
      split at h
      · cases h
      · rename_i how ended
        cases h
        exact .collected c d how (eq_false_iff.mpr new) ended
    | ctxDone =>
      obtain ⟨-, ⟨⟩⟩ := ite_none_right_eq_some.mp h
      exact .ctxDone c
    | conclude =>
      obtain ⟨both, ⟨⟩⟩ := ite_none_right_eq_some.mp h
      simp only [and_eq_true] at both
      exact .concluded c _ both.1.1 both.1.2
    | _ => cases h
  | copied x =>
    cases a with
    | record =>
      cases h
      exact .recorded x
    | _ => cases h

/-- The deferred calls -/
inductive Leaves (s : Shared World) (op : Op Progress) : Leaving → Shared World → Op Progress → Prop
  | closedOutgoing (x : Exit) : Leaves s op (.closeOutgoing x) s
      { op with outgoingClosed := true, pc := .leaving (.release x) }
  | released (x : Exit) : Leaves s op (.release x) { s with active := s.active - 1 }
      { op with releases := op.releases + 1, pc := .leaving (.closeIncoming x) }
  | returned (x : Exit) : Leaves s op (.closeIncoming x) s
      { op with incomingClosed := true, pc := .leaving (.returned x) }

theorem leaves_of_leaveStep {l : Leaving} {a : LeaveAct} (h : leaveStep s op l a = some (s', op')) :
    Leaves s op l s' op' := by
  cases l with
  | closeOutgoing x =>
    cases a with
    | closeOutgoing =>
      cases h
      exact .closedOutgoing x
    | _ => cases h
  | release x =>
    cases a with
    | release =>
      cases h
      exact .released x
    | _ => cases h
  | closeIncoming x =>
    cases a with
    | closeIncoming =>
      cases h
      exact .returned x
    | _ => cases h
  | returned => cases a <;> cases h

/-- The steps of a call, by the function it is in. -/
inductive Moves (cfg : Config World Progress Deed) (s : Shared World) (op : Op Progress) :
    Shared World → Op Progress → Prop
  | reads (r : Reading) (op') (here : op.pc = .reading r)
      (h : Reads cfg.decode op r op') : Moves cfg s op s op'
  | prepares (p) (s') (op')
      (here : op.pc = .preparing p) (h : Prepares cfg s op p s' op') : Moves cfg s op s' op'
  | answers (after : After) (w) (op')
      (here : op.pc = .answering after w) (h : Answers op after w op') : Moves cfg s op s op'
  | tunnels (t : Tunnel) (s') (op') (here : op.pc = .tunnel t)
      (h : Tunnels s op t s' op') : Moves cfg s op s' op'
  | leaves (l : Leaving) (s') (op') (here : op.pc = .leaving l)
      (h : Leaves s op l s' op') : Moves cfg s op s' op'

theorem moves_of_opStep {a : OpAct Deed} (h : opStep cfg s op a = some (s', op')) :
    Moves cfg s op s' op' := by
  unfold opStep at h
  split at h
  · rename_i r a here
    obtain ⟨op', reads, ⟨⟩⟩ := map_eq_some_iff.mp h
    exact .reads r op' here (reads_of_readStep reads)
  · rename_i p a here
    exact .prepares p s' op' here (prepares_of_prepareStep h)
  · rename_i after w a here
    obtain ⟨op', answers, ⟨⟩⟩ := map_eq_some_iff.mp h
    exact .answers after w op' here (answers_of_answerStep answers)
  · rename_i t a here
    exact .tunnels t s' op' here (tunnels_of_tunnelStep h)
  · rename_i l a here
    exact .leaves l s' op' here (leaves_of_leaveStep h)
  · cases h

/-- The steps of the router. -/
inductive Steps (cfg : Config World Progress Deed) (s : State World Progress) :
    Act Deed → State World Progress → Prop
  | tick (clock : Int) (passed : s.shared.clock ≤ clock) :
      Steps cfg s (.tick clock) { s with shared.clock := clock }
  | policy (policy policy') : Steps cfg s (.setPolicy policy) { s with shared.policy := policy' }
  | start (a : Start) : Steps cfg s (.start a) { s with ops := s.ops ++ [a.op] }
  | op (i : Nat) (a) (op) (shared') (op')
      (at_i : s.ops[i]? = some op) (stepped : opStep cfg s.shared op a = some (shared', op')) :
      Steps cfg s (.op i a) ⟨shared', s.ops.set i op'⟩

theorem steps_of_step {s s' : State World Progress} {a : Act Deed} (h : step cfg s a = some s') :
    Steps cfg s a s' := by
  cases a with
  | tick clock =>
    obtain ⟨passed, ⟨⟩⟩ := ite_none_right_eq_some.mp h
    exact .tick clock passed
  | setPolicy policy =>
    unfold step at h
    dsimp only at h
    split at h
    · cases h
      exact .policy policy s.shared.policy
    · cases h
      exact .policy policy policy
  | start a =>
    cases h
    exact .start a
  | op i a =>
    unfold step at h
    dsimp only at h
    split at h
    · cases h
    rename_i op at_i
    split at h
    · cases h
    · rename_i shared' op' stepped
      cases h
      exact .op i a op shared' op' at_i stepped

/-- Where a call begins -/
inductive Begins (a : Start) : Pc Progress → Prop
  | unlinked (none_given : a.incoming = none) :
      Begins a (.leaving (.returned (.failed .linkIdentity)))
  | forward (forwards : a.kind = .forward) : Begins a (.preparing .entered)
  | serve (serves : a.kind = .serve) : Begins a (.reading (.header []))

theorem begins_start (a : Start) : Begins a (a.pc : Pc Progress) := by
  unfold Start.pc
  cases hincoming : a.incoming with
  | none => exact .unlinked hincoming
  | some =>
    cases hkind : a.kind with
    | forward => exact .forward hkind
    | serve => exact .serve hkind

/-- What holds of a new call and is kept by its own steps holds of every call. -/
theorem ops_invariant (inv : Op Progress → Prop) (starts : ∀ a : Start, inv a.op)
    (moves : ∀ s op s' op', inv op → Moves cfg s op s' op' → inv op') (s : State World Progress)
    (a : Act Deed) (s' : State World Progress)
    (h : ∀ op ∈ s.ops, inv op) (steps : Steps cfg s a s') : ∀ op ∈ s'.ops, inv op := by
  cases steps with
  | start a =>
    intro op member
    rcases mem_append.mp member with old | new
    · exact h op old
    · rw [mem_singleton.mp new]
      exact starts a
  | op i a op shared' op' at_i stepped =>
    intro q member
    rcases mem_or_eq_of_mem_set member with old | rfl
    · exact h q old
    · exact moves s.shared op shared' q (h op (mem_of_getElem? at_i)) (moves_of_opStep stepped)
  | _ => exact h

end Steps

end Forwarder
