import WeDecent.ForwarderSteps

/-!
# Session accounting

`f.active` over whole runs of the forwarder: it counts the operations between
`acquireSession` and `releaseSession`, each of them gives its session back once, and
both links are closed when a call returns.
-/

namespace ForwarderSessions

open Bool List Forwarder GoIO Mesh RouteControl

section Accounting

variable {World Progress Deed : Type}

/-- The operation is between its acquire and its release. -/
def holds (op : Op Progress) : Bool := op.admission.isSome && decide (op.releases = 0)

def held (op : Op Progress) : Int := if holds op then 1 else 0

/-- The limit that an admitted operation has seen -/
def Admitted (op : Op Progress) : Prop :=
  ∀ a, op.admission = some a → 0 < a.policy.maxSessions → a.active < a.policy.maxSessions

inductive Standing where
  | outside
  | unlinked
  | linked
  | closing
  | settled
  | returned

def standing : Pc Progress → Standing
  | .reading _ => .outside
  | .preparing .entered => .outside
  | .preparing .identified => .outside
  | .preparing (.snapped _) => .outside
  | .preparing (.checked _) => .outside
  | .preparing (.authorizing _ _) => .unlinked
  | .preparing .denied => .unlinked
  | .preparing .authorized => .unlinked
  | .preparing .dialing => .unlinked
  | .preparing (.dialFailed _) => .unlinked
  | .preparing .matched => .linked
  | .preparing (.closing _) => .linked
  | .preparing (.releasing _) => .closing
  | .answering .accepted _ => .linked
  | .answering (.rejected _) _ => .settled
  | .answering (.invalid _) _ => .settled
  | .tunnel _ => .linked
  | .leaving (.closeOutgoing _) => .linked
  | .leaving (.release _) => .closing
  | .leaving (.closeIncoming _) => .settled
  | .leaving (.returned _) => .returned

/-- The link to the destination, if there was one, is closed. -/
def Unlinked (op : Op Progress) : Prop := op.outgoing.isSome = true → op.outgoingClosed = true

/-- The session, if there was one, was given back once. -/
def Settled (op : Op Progress) : Prop :=
  op.releases = (if op.admission.isSome then 1 else 0) ∧ Unlinked op

def Standing.Of (op : Op Progress) : Standing → Prop
  | .outside => op.admission = none ∧ op.releases = 0 ∧ op.outgoing = none
  | .unlinked => (op.admission.isSome = true ∧ op.releases = 0) ∧ op.outgoing = none
  | .linked => op.admission.isSome = true ∧ op.releases = 0
  | .closing => (op.admission.isSome = true ∧ op.releases = 0) ∧ Unlinked op
  | .settled => Settled op
  | .returned => Settled op ∧ (op.incoming.isSome = true → op.incomingClosed = true)

def Booked (op : Op Progress) : Prop := (standing op.pc).Of op

/-- A step that keeps the books: what the counter and the operation show changes by the
same amount. -/
structure Books (s s' : Shared World) (op op' : Op Progress) : Prop where
  booked : Booked op'
  balance : s'.active + held op = s.active + held op'
  admitted : Admitted op → Admitted op'

section Steps

variable {cfg : Config World Progress Deed} {s s' : Shared World} {op op' : Op Progress}

theorem held_of_holding (h : op.admission.isSome = true ∧ op.releases = 0) : held op = 1 := by
  simp [held, holds, h.1, h.2]

theorem held_of_settled (h : Settled op) : held op = 0 := by
  unfold held holds
  cases hadmission : op.admission with
  | none => rfl
  | some =>
    have once := h.1
    rw [hadmission] at once
    simp [once]

theorem settled_of_outside (h : Standing.Of op .outside) : Settled op := by
  obtain ⟨none_admitted, unreleased, unlinked⟩ := h
  refine ⟨?_, ?_⟩
  · rw [none_admitted, unreleased]
    rfl
  · intro linked
    rw [unlinked] at linked
    cases linked

/-- A step that touches none of the fields the books are about. -/
theorem Books.same (booked : Booked op') (active : s'.active = s.active)
    (admission : op'.admission = op.admission) (releases : op'.releases = op.releases) :
    Books s s' op op' := by
  refine ⟨booked, ?_, ?_⟩
  · unfold held holds
    rw [active, admission, releases]
  · unfold Admitted
    rw [admission]
    exact id

/-- A step that stays where it is and closes at most the incoming link. -/
theorem Booked.stay (booked : Booked op) (pc : op'.pc = op.pc)
    (admission : op'.admission = op.admission) (releases : op'.releases = op.releases)
    (outgoing : op'.outgoing = op.outgoing) (closed : op'.outgoingClosed = op.outgoingClosed)
    (incoming : op'.incoming = op.incoming)
    (stays : op.incomingClosed = true → op'.incomingClosed = true) : Booked op' := by
  unfold Booked at booked ⊢
  rw [pc]
  cases hstanding : standing op.pc <;> rw [hstanding] at booked
  case returned =>
    refine ⟨?_, fun given => stays (booked.2 (incoming ▸ given))⟩
    simpa [Settled, Unlinked, admission, releases, outgoing, closed] using booked.1
  all_goals
    simpa [Standing.Of, Settled, Unlinked, admission, releases, outgoing, closed] using booked

theorem Books.stay (booked : Booked op) (pc : op'.pc = op.pc)
    (admission : op'.admission = op.admission) (releases : op'.releases = op.releases)
    (outgoing : op'.outgoing = op.outgoing) (closed : op'.outgoingClosed = op.outgoingClosed)
    (incoming : op'.incoming = op.incoming)
    (stays : op.incomingClosed = true → op'.incomingClosed = true) : Books s s op op' :=
  .same (booked.stay pc admission releases outgoing closed incoming stays) rfl admission releases

/-- Giving the session back settles the operation. -/
theorem settled_of_released (closing : Standing.Of op .closing)
    (admission : op'.admission = op.admission) (releases : op'.releases = op.releases + 1)
    (outgoing : op'.outgoing = op.outgoing) (closed : op'.outgoingClosed = op.outgoingClosed) :
    Settled op' := by
  obtain ⟨⟨admitted, unreleased⟩, unlinked⟩ := closing
  refine ⟨?_, ?_⟩
  · rw [admission, releases, unreleased, if_pos admitted]
  · unfold Unlinked
    rw [outgoing, closed]
    exact unlinked

theorem Books.released (closing : Standing.Of op .closing) (settled : Settled op')
    (booked : Booked op') (active : s'.active = s.active - 1)
    (admission : op'.admission = op.admission) : Books s s' op op' := by
  refine ⟨booked, ?_, ?_⟩
  · rw [held_of_holding closing.1, held_of_settled settled, active]
    omega
  · unfold Admitted
    rw [admission]
    exact id

theorem unprepared_settled (settled : Settled op) (err : ForwardError) :
    Settled (op.unprepared err) ∧ Booked (op.unprepared err) ∧
      (op.unprepared err).admission = op.admission := by
  unfold Op.unprepared
  cases op.kind with
  | forward => exact ⟨settled, settled, rfl⟩
  | serve => exact ⟨settled, settled, rfl⟩

theorem prepared_books (linked : Standing.Of op .linked) : Books s s op op.prepared := by
  unfold Op.prepared
  cases op.kind with
  | forward => exact .same linked rfl rfl rfl
  | serve => exact .same linked rfl rfl rfl

section

variable (booked : Booked op)

include booked

theorem reads_books {decode : Bytes → Option (Route × RouteAuthorization.Authorization)}
    {r : Reading} (here : op.pc = .reading r) (h : Reads decode op r op') :
    Books s s op op' := by
  have outside : Standing.Of op .outside := by
    unfold Booked at booked
    rwa [here] at booked
  cases h with
  | left => exact .same (settled_of_outside outside) rfl rfl rfl
  | answered => exact .same (settled_of_outside outside) rfl rfl rfl
  | cut => exact .stay booked rfl rfl rfl rfl rfl rfl fun _ => rfl
  | _ => exact .same outside rfl rfl rfl

theorem prepares_books {p : Preparing Progress} (here : op.pc = .preparing p)
    (h : Prepares cfg s op p s' op') : Books s s' op op' := by
  unfold Booked at booked
  rw [here] at booked
  cases h with
  | refused p err early =>
    have outside : Standing.Of op .outside := by
      rcases early with rfl | rfl | ⟨policy, rfl⟩ | ⟨policy, rfl⟩ <;> exact booked
    have settled := settled_of_outside outside
    obtain ⟨settled', booked', admission⟩ := unprepared_settled settled err
    refine ⟨booked', ?_, ?_⟩
    · rw [held_of_settled settled, held_of_settled settled']
    · unfold Admitted
      rw [admission]
      exact id
  | acquired policy authorizer configured room =>
    obtain ⟨none_admitted, unreleased, unlinked⟩ := booked
    refine ⟨⟨⟨rfl, unreleased⟩, unlinked⟩, ?_, ?_⟩
    · rw [held_of_settled (settled_of_outside ⟨none_admitted, unreleased, unlinked⟩)]
      refine (Int.add_zero _).trans (congrArg (s.active + ·) (held_of_holding ?_).symm)
      exact ⟨rfl, unreleased⟩
    · rintro - a ⟨⟩
      exact room
  | advanced =>
    exact .same booked rfl rfl rfl
  | matched => exact .same booked.1 rfl rfl rfl
  | mismatched => exact .same booked.1 rfl rfl rfl
  | gaveUp p err unlinked =>
    have holding : Standing.Of op .unlinked := by
      rcases unlinked with rfl | rfl | rfl | ⟨cause, rfl⟩ <;> exact booked
    refine .same ⟨holding.1, ?_⟩ rfl rfl rfl
    intro linked
    have none_linked : op.outgoing = none := holding.2
    rw [Op.prepare, Op.moveTo, none_linked] at linked
    cases linked
  | prepared => exact prepared_books booked
  | closed => exact .same ⟨booked, fun _ => rfl⟩ rfl rfl rfl
  | released err =>
    have settled : Settled { op with releases := op.releases + 1 } :=
      settled_of_released booked rfl rfl rfl rfl
    obtain ⟨settled', booked', admission⟩ := unprepared_settled settled err
    exact .released booked settled' booked' rfl admission
  | _ => exact .same booked rfl rfl rfl

theorem answers_books {after : After} {w : Answering} (here : op.pc = .answering after w) (h :
    Answers op after w op') : Books s s op op' := by
  have stands : (standing (.answering after w : Pc Progress)).Of op := by
    unfold Booked at booked
    rwa [here] at booked
  cases h with
  | refused failed err rejection =>
    cases after with
    | accepted => exact absurd rfl rejection
    | _ => exact .same stands rfl rfl rfl
  | unaccepted failed accepted =>
    subst accepted
    exact .same stands rfl rfl rfl
  | accepted accepted =>
    subst accepted
    exact .same stands rfl rfl rfl
  | cut => exact .stay booked rfl rfl rfl rfl rfl rfl fun _ => rfl
  | _ => exact .same (by cases after <;> exact stands) rfl rfl rfl

theorem withCopy_books (d : Direction) (c : Copy UInt8) : Books s s op (op.withCopy d c) := by
  cases d with
  | destination => exact .stay booked rfl rfl rfl rfl rfl rfl id
  | source => exact .stay booked rfl rfl rfl rfl rfl rfl id

theorem tunnels_books {t : Tunnel} (here : op.pc = .tunnel t)
    (h : Tunnels s op t s' op') : Books s s' op op' := by
  have linked : Standing.Of op .linked := by
    unfold Booked at booked
    rwa [here] at booked
  cases h with
  | begun => exact .same linked s.beginForwarding_same.2.1 rfl rfl
  | moved c d taken written how copy => exact withCopy_books booked d copy
  | finished c d how copy => exact withCopy_books booked d copy
  | recorded x => exact .same linked (s.recordForwardResult_same x.result).2.1 rfl rfl
  | _ => exact .same linked rfl rfl rfl

theorem leaves_books {l : Leaving} (here : op.pc = .leaving l)
    (h : Leaves s op l s' op') : Books s s' op op' := by
  unfold Booked at booked
  rw [here] at booked
  cases h with
  | released x =>
    have settled : Settled (Op.moveTo { op with releases := op.releases + 1 }
        (.leaving (.closeIncoming x))) :=
      settled_of_released booked rfl rfl rfl rfl
    exact .released booked settled settled rfl rfl
  | _ => exact .same ⟨booked, fun _ => rfl⟩ rfl rfl rfl

theorem moves_books (h : Moves cfg s op s' op') : Books s s' op op' := by
  cases h with
  | reads r op' here h => exact reads_books booked here h
  | prepares p s' op' here h => exact prepares_books booked here h
  | answers after w op' here h => exact answers_books booked here h
  | tunnels t s' op' here h => exact tunnels_books booked here h
  | leaves l s' op' here h => exact leaves_books booked here h

end

end Steps

/-- The invariant of the router. -/
structure Accounts (s : State World Progress) : Prop where
  booked : ∀ op ∈ s.ops, Booked op
  admitted : ∀ op ∈ s.ops, Admitted op
  active : s.shared.active = s.ops.countP holds

theorem start_booked (a : Start) : Booked (a.op : Op Progress) := by
  have outside : Standing.Of (a.op : Op Progress) .outside := ⟨rfl, rfl, rfl⟩
  have begins : Begins a (a.op : Op Progress).pc := begins_start a
  unfold Booked
  generalize (a.op : Op Progress).pc = pc at begins ⊢
  cases begins with
  | unlinked none_given =>
    refine ⟨settled_of_outside outside, ?_⟩
    intro given
    have none_given : (a.op : Op Progress).incoming = none := none_given
    rw [none_given] at given
    cases given
  | _ => exact outside

/-- One operation moves: the count changes by what it holds. -/
theorem count_set {ops : List (Op Progress)} {i : Nat} {op : Op Progress} (op' : Op Progress)
    (at_i : ops[i]? = some op) :
    ((ops.set i op').countP holds : Int) + held op = ops.countP holds + held op' := by
  obtain ⟨inside, here⟩ := List.getElem?_eq_some_iff.mp at_i
  have counts := countP_set (p := holds) (a := op') inside
  have counted : holds op = true → 0 < ops.countP holds := fun holding =>
    countP_pos_iff.mpr ⟨op, mem_of_getElem? at_i, holding⟩
  rw [here] at counts
  unfold held
  cases hop : holds op <;> cases hop' : holds op' <;>
    simp only [hop, hop', false_eq_true, if_true, if_false, forall_const, false_implies] at * <;>
    omega

variable {cfg : Config World Progress Deed}

theorem accounts_step (s : State World Progress) (a : Act Deed) (s' : State World Progress)
    (h : Accounts s) (stepped : step cfg s a = some s') :
    Accounts s' := by
  have steps := steps_of_step stepped
  have booked : ∀ op ∈ s'.ops, Booked op := ops_invariant Booked start_booked
    (fun s op s' op' booked moves => (moves_books booked moves).booked) s a s' h.booked steps
  cases steps with
  | start a =>
    refine ⟨booked, ?_, ?_⟩
    · intro op member
      rcases mem_append.mp member with old | new
      · exact h.admitted op old
      · rw [mem_singleton.mp new]
        intro a given
        cases given
    · rw [countP_append, countP_singleton, h.active]
      simp [holds, Start.op]
  | op i a op shared' op' at_i moved =>
    have member := mem_of_getElem? at_i
    have books := moves_books (h.booked op member) (moves_of_opStep moved)
    refine ⟨booked, ?_, ?_⟩
    · intro q listed
      rcases mem_or_eq_of_mem_set listed with old | rfl
      · exact h.admitted q old
      · exact books.admitted (h.admitted op member)
    · have counts := count_set op' at_i
      have balance := books.balance
      have active := h.active
      dsimp only
      omega
  | _ => exact ⟨booked, h.admitted, h.active⟩

theorem accounts_reachable {clock : Int} {policy : RouterPolicy} {world : World}
    {s : State World Progress} (reach : Runs.Reachable (step cfg) (.start clock policy world) s) :
    Accounts s := by
  refine Runs.reachable_invariant Accounts accounts_step ?_ reach
  refine ⟨?_, ?_, rfl⟩
  · intro op member
    cases member
  · intro op member
    cases member

theorem settled_of_returned {op : Op Progress} {x : Exit} (booked : Booked op)
    (here : op.pc = .leaving (.returned x)) :
    Settled op ∧ (op.incoming.isSome = true → op.incomingClosed = true) := by
  unfold Booked at booked
  rwa [here] at booked

theorem releases_le {op : Op Progress} (booked : Booked op) :
    op.releases ≤ if op.admission.isSome then 1 else 0 := by
  unfold Booked at booked
  cases hstanding : standing op.pc <;> rw [hstanding] at booked
  case outside => exact (Nat.le_of_eq booked.2.1).trans (Nat.zero_le _)
  case unlinked => exact (Nat.le_of_eq booked.1.2).trans (Nat.zero_le _)
  case linked => exact (Nat.le_of_eq booked.2).trans (Nat.zero_le _)
  case closing => exact (Nat.le_of_eq booked.1.2).trans (Nat.zero_le _)
  case settled => exact Nat.le_of_eq booked.1
  case returned => exact Nat.le_of_eq booked.1.1

/-- In every state the router can reach: the counter, also as a snapshot shows it, is the
number of operations between their acquire and their release; an admitted operation has
seen it below the limit of its own policy snapshot; no operation releases more often than
it has acquired, and one that has returned has released what it acquired and closed its
links. -/
theorem sessions_accounted {clock : Int} {policy : RouterPolicy} {world : World}
    {s : State World Progress} (reach : Runs.Reachable (step cfg) (.start clock policy world) s) :
    s.shared.snapshot.activeSessions = s.ops.countP holds ∧ 0 ≤ s.shared.snapshot.activeSessions ∧
      (∀ op ∈ s.ops, ∀ a, op.admission = some a → 0 < a.policy.maxSessions →
        a.active < a.policy.maxSessions) ∧
      (∀ op ∈ s.ops, op.releases ≤ if op.admission.isSome then 1 else 0) ∧
      ∀ op ∈ s.ops, ∀ x, op.pc = .leaving (.returned x) →
        op.releases = (if op.admission.isSome then 1 else 0) ∧
        (op.incoming.isSome = true → op.incomingClosed = true) ∧
        (op.outgoing.isSome = true → op.outgoingClosed = true) := by
  have accounts := accounts_reachable reach
  refine ⟨accounts.active, ?_, accounts.admitted, ?_, ?_⟩
  · change 0 ≤ s.shared.active
    rw [accounts.active]
    exact Int.natCast_nonneg _
  · intro op member
    exact releases_le (accounts.booked op member)
  · intro op member x here
    obtain ⟨settled, closed⟩ := settled_of_returned (accounts.booked op member) here
    exact ⟨settled.1, closed, settled.2⟩

end Accounting

section Samples

def sampleForward : Start :=
  ⟨.forward, some sampleIncoming, RouteAuthorization.sample.claims.route, [], []⟩

/-- `prepareForward` up to `acquireSession` -/
def toAcquire (i : Nat) : List (Act Bool) :=
  [.op i (.prepare (.look false)), .op i (.prepare .snapshot), .op i (.prepare .check),
    .op i (.prepare .acquire)]

/-- A session, a second one that the router has no room for, and a third one with a link to
the wrong device. -/
def threeForwards : List (Act Bool) :=
  ([.start sampleForward, .start sampleForward, .start sampleForward] : List (Act Bool)) ++
  toAcquire 0 ++ toAcquire 1 ++
  ([.op 1 (.leave .closeIncoming), .op 0 (.prepare (.authorize true)), .op 0 (.prepare .conclude),
    .op 0 (.prepare (.look false)), .op 0 (.prepare (.dialed (.link sampleOutgoing))),
    .op 0 (.prepare (.look false)), .op 0 (.tunnel .begin), .op 0 (.tunnel (.finish .source .eof)),
    .op 0 (.tunnel (.collect .source)), .op 0 (.tunnel (.finish .destination .closed)),
    .op 0 (.tunnel (.collect .destination)), .op 0 (.tunnel (.conclude false)),
    .op 0 (.tunnel .record), .op 0 (.leave .closeOutgoing), .op 0 (.leave .release),
    .op 0 (.leave .closeIncoming)] : List (Act Bool)) ++ toAcquire 2 ++
  ([.op 2 (.prepare (.authorize true)), .op 2 (.prepare .conclude), .op 2 (.prepare (.look false)),
    .op 2 (.prepare (.dialed (.link sampleIncoming))), .op 2 (.prepare .close)] : List (Act Bool))

theorem sessions_accounted_three : ∃ s,
    Runs.exec (step sampleConfig) (.start sampleClock samplePolicy ()) threeForwards = some s ∧
    s.shared.snapshot.activeSessions = 1 ∧ s.ops.countP holds = 1 ∧
    s.ops.map (fun op => (op.admission.isSome, op.releases, op.incomingClosed, op.outgoingClosed)) =
      [(true, 1, true, true), (false, 0, true, false), (true, 0, false, true)] := by
  have ends : (Runs.exec (step sampleConfig) (.start sampleClock samplePolicy ())
      threeForwards).any (fun s => decide (s.shared.snapshot.activeSessions = 1) &&
        decide (s.ops.map (fun op => (op.admission.isSome, op.releases, op.incomingClosed,
          op.outgoingClosed)) =
          [(true, 1, true, true), (false, 0, true, false), (true, 0, false, true)])) = true := by
    decide +kernel
  obtain ⟨s, run, facts⟩ := (Option.any_eq_true _ _).mp ends
  rw [and_eq_true, decide_eq_true_eq, decide_eq_true_eq] at facts
  have accounted := (sessions_accounted ⟨threeForwards, run⟩).1
  rw [facts.1] at accounted
  exact ⟨s, run, facts.1, by omega, facts.2⟩

end Samples

end ForwarderSessions
