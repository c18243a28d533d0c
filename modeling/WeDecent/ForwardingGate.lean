import WeDecent.ForwarderSteps
import WeDecent.RouteVerifier

/-!
# The forwarding gate

The forwarder with `RouteAuthorizationForwardAuthorizer` (`mesh/routeauth.go`) and a replay
store that its calls share: the local authorizer is asked first, then the signed
capability is verified and consumed, and only then is the destination dialed.
-/

namespace ForwardingGate

open List Option

open Fallible Forwarder GoIO GoTime GoTime.Time Mesh ReplayStore RouteAuthorization RouteControl
open RouteVerifier (Ed25519 Verifier Store Request Stage Setup Advances Outcomes Remembering)

/-- What the calls of the authorizer share: the replay store, and a record of what the local
authorizer approved and of what `VerifyAndConsume` returned nil for. -/
structure World where
  store : Store
  approved : List ForwardRequest
  granted : List Request

inductive Progress where
  | asking
  | verifying (stage : Stage)
  | refused

inductive Deed where
  | answer (approves : Bool)
  | verify (deed : RouteVerifier.Deed)

structure Gate where
  localID : DeviceID
  verifier : Verifier
  hasLocal : Bool
  hasDialer : Bool
  decode : Bytes → Option (Route × Authorization)
  ed25519Verify : Ed25519

namespace Gate

def request (g : Gate) (r : ForwardRequest) : Request :=
  ⟨g.verifier, r.authorization, r.route, r.router⟩

/-- `RouteAuthorizationForwardAuthorizer.AuthorizeForward`; a crash of the process ends the
run. -/
def advance (g : Gate) (clock : Int) (w : World) (r : ForwardRequest) :
    Progress → Deed → Option (World × Progress)
  | .asking, .answer approves =>
    if approves then some ({ w with approved := r :: w.approved }, .verifying .entered)
    else some (w, .refused)
  | .verifying stage, .verify deed =>
    match RouteVerifier.advance g.ed25519Verify clock w.store (g.request r) stage deed with
    | none => none
    | some (store', stage') =>
      if store'.running then
        some ({ w with
          store := store'
          granted := if stage' = .returned none then g.request r :: w.granted else w.granted },
          .verifying stage')
      else none
  | _, _ => none

def authorizer (g : Gate) : Authorizer World Progress Deed where
  enter := if g.hasLocal then .asking else .refused
  advance := g.advance
  verdict
    | .refused => some false
    | .verifying (.returned err) => some err.isNone
    | _ => none

def config (g : Gate) : Config World Progress Deed :=
  ⟨g.localID, some g.authorizer, g.hasDialer, g.decode⟩

end Gate

variable {g : Gate} {clock : Int}

/-- What a call was asked for, and the calls of `DialNext` it made for it -/
structure Plan where
  incoming : Option Link
  route : Route
  authorization : Authorization
  dials : List RouteHop

/-- With the link it obtained and the response it gave -/
structure Case extends Plan where
  outgoing : Option Link
  answer : Option RouteOpenResponse

def caseOf (op : Op Progress) : Case :=
  ⟨⟨op.incoming, op.route, op.authorization, op.dials⟩, op.outgoing, op.answer⟩

def Gate.requestOf (g : Gate) (c : Plan) : Request :=
  ⟨g.verifier, c.authorization, c.route, g.localID⟩

/-- The route passes through this router by way of the incoming link. -/
structure Routed (g : Gate) (c : Plan) (first second : RouteHop) (incoming : Link) : Prop where
  hops : c.route.hops = [first, second]
  toRouter : first.toID = g.localID
  fromRouter : second.fromID = g.localID
  destination : second.toID = c.route.destination
  given : c.incoming = some incoming
  localEnd : incoming.localID = g.localID
  source : incoming.remoteID = c.route.source
  transport : incoming.transport = first.transport

def Routable (g : Gate) (c : Plan) : Prop :=
  ∃ first second incoming, Routed g c first second incoming

def LocallyApproved (g : Gate) (w : World) (c : Plan) : Prop :=
  ∃ policy, (⟨g.localID, c.route, c.authorization, policy⟩ : ForwardRequest) ∈ w.approved

/-- The authorizer has returned nil. -/
structure Allowed (g : Gate) (clock : Int) (w : World) (c : Plan) : Prop where
  approved : LocallyApproved g w c
  checked : (g.requestOf c).Checked g.ed25519Verify clock
  granted : g.requestOf c ∈ w.granted

/-- The outgoing link is the one of the second hop. -/
def Linked (c : Case) : Prop :=
  ∃ first second outgoing, c.route.hops = [first, second] ∧ c.outgoing = some outgoing ∧
    outgoing.localID = second.fromID ∧ outgoing.remoteID = second.toID ∧
    outgoing.transport = second.transport

/-- `DialNext` was called once, with the second hop of a route that may be forwarded. -/
def Dialed (g : Gate) (clock : Int) (w : World) (c : Plan) : Prop :=
  ∃ first second incoming, Routed g c first second incoming ∧ c.dials = [second] ∧
    Allowed g clock w c

def Sound (g : Gate) (clock : Int) (w : World) (c : Plan) : Progress → Prop
  | .asking => True
  | .refused => True
  | .verifying stage => LocallyApproved g w c ∧ stage.Sound g.ed25519Verify clock (g.requestOf c) ∧
      (stage = .returned none → g.requestOf c ∈ w.granted)

def Stands (g : Gate) (clock : Int) (w : World) (c : Case) : Pc Progress → Prop
  | .reading _ => c.dials = []
  | .preparing .entered => c.dials = []
  | .preparing .identified => c.dials = []
  | .preparing (.snapped _) => c.dials = []
  | .preparing (.checked _) => c.dials = [] ∧ Routable g c.toPlan
  | .preparing (.authorizing _ progress) =>
      c.dials = [] ∧ Routable g c.toPlan ∧ Sound g clock w c.toPlan progress
  | .preparing .authorized => c.dials = [] ∧ Routable g c.toPlan ∧ Allowed g clock w c.toPlan
  | .preparing .dialing => Routable g c.toPlan
  | .preparing .matched => Linked c
  | _ => True

/-- Nothing is answered before the preparations have ended. -/
def Answered (c : Case) : Pc Progress → Prop
  | .reading _ => c.answer = none
  | .preparing _ => c.answer = none
  | _ => c.answer = some .accepted → Linked c

/-- What is known of a call wherever it is. -/
structure Guarded (g : Gate) (clock : Int) (w : World) (c : Case) (pc : Pc Progress) : Prop where
  dialed : c.dials ≠ [] → Dialed g clock w c.toPlan
  answered : Answered c pc
  stands : Stands g clock w c pc

/-- What the calls share only grows. -/
structure Grows (clock clock' : Int) (w w' : World) : Prop where
  clock : clock ≤ clock'
  approved : w.approved ⊆ w'.approved
  granted : w.granted ⊆ w'.granted

section Steps

variable {g : Gate} {clock clock' : Int} {w w' : World} {plan : Plan} {c : Case}
variable {pc : Pc Progress}

theorem Grows.refl (clock : Int) (w : World) : Grows clock clock w w :=
  ⟨Int.le_refl clock, fun _ => id, fun _ => id⟩

theorem LocallyApproved.grow (h : LocallyApproved g w plan) (grows : Grows clock clock' w w') :
    LocallyApproved g w' plan := by
  obtain ⟨policy, member⟩ := h
  exact ⟨policy, grows.approved member⟩

theorem Allowed.grow (h : Allowed g clock w plan) (grows : Grows clock clock' w w') :
    Allowed g clock' w' plan :=
  ⟨h.approved.grow grows, h.checked.later grows.clock, grows.granted h.granted⟩

theorem Sound.grow {progress : Progress} (h : Sound g clock w plan progress)
    (grows : Grows clock clock' w w') : Sound g clock' w' plan progress := by
  cases progress with
  | verifying =>
    exact ⟨h.1.grow grows, h.2.1.later grows.clock, fun isNil => grows.granted (h.2.2 isNil)⟩
  | _ => trivial

theorem Stands.grow (h : Stands g clock w c pc) (grows : Grows clock clock' w w') :
    Stands g clock' w' c pc := by
  cases pc with
  | preparing p =>
    cases p with
    | authorizing => exact ⟨h.1, h.2.1, Sound.grow h.2.2 grows⟩
    | authorized => exact ⟨h.1, h.2.1, h.2.2.grow grows⟩
    | _ => exact h
  | _ => exact h

theorem Guarded.grow (h : Guarded g clock w c pc) (grows : Grows clock clock' w w') :
    Guarded g clock' w' c pc := by
  refine ⟨?_, h.answered, Stands.grow h.stands grows⟩
  intro some_dials
  obtain ⟨first, second, incoming, routed, dials, allowed⟩ := h.dialed some_dials
  exact ⟨first, second, incoming, routed, dials, allowed.grow grows⟩

theorem unaccepted (silent : c.answer = none) : Answered c pc := by
  have never : c.answer = some .accepted → Linked c := by
    intro accepted
    rw [silent] at accepted
    cases accepted
  cases pc with
  | reading => exact silent
  | preparing => exact silent
  | _ => exact never

end Steps

section Moves

variable {g : Gate} {s s' : Shared World} {op op' : Op Progress}

def GuardedOp (g : Gate) (s : Shared World) (op : Op Progress) : Prop :=
  Guarded g s.clock s.world (caseOf op) op.pc

section

variable (h : GuardedOp g s op)

include h

/-- A step that changes only the counters of the router. -/
theorem GuardedOp.counted (clock : s'.clock = s.clock) (world : s'.world = s.world) :
    Grows s.clock s'.clock s.world s'.world ∧ GuardedOp g s' op := by
  unfold GuardedOp
  rw [clock, world]
  exact ⟨.refl s.clock s.world, h⟩

end

end Moves

/-- The authorizer has returned nil, and the deadline is about to be looked at. -/
def ready : Pc Progress → Bool
  | .preparing (.authorizing _ (.verifying (.returned none))) => true
  | .preparing .authorized => true
  | _ => false

/-- The call has dialed, or it will unless the deadline passes. -/
def Claimant (clock : Int) (op : Op Progress) : Prop :=
  op.dials ≠ [] ∨ ready op.pc = true ∧ clock < op.route.expiresAt.nanos

variable {op : Op Progress}

theorem Claimant.later {clock' : Int} (h : Claimant clock' op) (passed : clock ≤ clock') :
    Claimant clock op := by
  rcases h with dialed | ⟨isReady, early⟩
  · exact .inl dialed
  · exact .inr ⟨isReady, Int.lt_of_le_of_lt passed early⟩

/-- A step after which the call can be a claimant only if it was one before -/
structure Quiet (s s' : Shared World) (op op' : Op Progress) : Prop where
  clock : s'.clock = s.clock
  world : s'.world = s.world
  claims : Claimant s.clock op' → Claimant s.clock op ∧ op'.authorization = op.authorization

/-- A step to a point where nothing is dialed that has not been -/
theorem Quiet.past {s s' : Shared World} {op' : Op Progress} (clock : s'.clock = s.clock)
    (world : s'.world = s.world) (unready : ready op'.pc = false) (dials : op'.dials = op.dials)
    (authorization : op'.authorization = op.authorization) : Quiet s s' op op' := by
  refine ⟨clock, world, ?_⟩
  rintro (dialed | ⟨isReady, -⟩)
  · rw [dials] at dialed
    exact ⟨.inl dialed, authorization⟩
  · rw [unready] at isReady
    cases isReady

section Quiet

variable {g : Gate} {s s' : Shared World} {op op' : Op Progress}

theorem unprepared_quiet (clock : s'.clock = s.clock) (world : s'.world = s.world)
    (dials : op'.dials = op.dials) (authorization : op'.authorization = op.authorization)
    (err : ForwardError) : Quiet s s' op (op'.unprepared err) := by
  unfold Op.unprepared
  cases op'.kind with
  | forward => exact .past clock world rfl dials authorization
  | serve => exact .past clock world rfl dials authorization

theorem prepared_quiet : Quiet s s op op.prepared := by
  unfold Op.prepared
  cases op.kind with
  | forward => exact .past rfl rfl rfl rfl rfl
  | serve => exact .past rfl rfl rfl rfl rfl

theorem reads_quiet {r : Reading} (h : GuardedOp g s op) (here : op.pc = .reading r)
    (reads : Reads g.config.decode op r op') : Quiet s s op op' := by
  have none_dialed : op.dials = [] := by
    have stands := h.stands
    rw [here] at stands
    exact stands
  cases reads with
  | request =>
    refine ⟨rfl, rfl, ?_⟩
    rintro (dialed | ⟨isReady, -⟩)
    · exact absurd none_dialed dialed
    · cases isReady
  | cut =>
    refine .past rfl rfl ?_ rfl rfl
    rw [here]
    rfl
  | _ => exact .past rfl rfl rfl rfl rfl

/-- The step of a call that is in the authorizer and stays there -/
def Authorizing (op op' : Op Progress) : Prop :=
  ∃ policy p policy' p', op.pc = .preparing (.authorizing policy p) ∧
    op'.pc = .preparing (.authorizing policy' p')

theorem prepares_quiet {p : Preparing Progress} (here : op.pc = .preparing p)
    (prepares : Prepares g.config s op p s' op') : Quiet s s' op op' ∨ Authorizing op op' := by
  cases prepares with
  | refused p err => exact .inl (unprepared_quiet rfl rfl rfl rfl err)
  | acquired policy authorizer configured =>
    cases configured
    refine .inl (.past rfl rfl ?_ rfl rfl)
    change ready (.preparing (.authorizing policy (if g.hasLocal then .asking else .refused))) =
      false
    split <;> rfl
  | advanced policy progress progress' =>
    exact .inr ⟨policy, progress, policy, progress', here, rfl⟩
  | authorized policy progress authorizer configured approved =>
    cases configured
    have isReady : ready op.pc = true := by
      rw [here]
      cases progress with
      | verifying stage =>
        cases stage with
        | returned err =>
          cases err with
          | none => rfl
          | some => cases approved
        | _ => cases approved
      | _ => cases approved
    refine .inl ⟨rfl, rfl, ?_⟩
    rintro (dialed | ⟨-, early⟩)
    · exact ⟨.inl dialed, rfl⟩
    · exact ⟨.inr ⟨isReady, early⟩, rfl⟩
  | dials early =>
    refine .inl ⟨rfl, rfl, ?_⟩
    intro _
    refine ⟨.inr ⟨?_, early⟩, rfl⟩
    rw [here]
    rfl
  | prepared => exact .inl prepared_quiet
  | released err => refine .inl (unprepared_quiet ?_ ?_ ?_ ?_ err) <;> rfl
  | _ => exact .inl (.past rfl rfl rfl rfl rfl)

theorem answers_quiet {after : After} {a : Answering} (here : op.pc = .answering after a)
    (answers : Answers op after a op') : Quiet s s op op' := by
  cases answers with
  | cut =>
    refine .past rfl rfl ?_ rfl rfl
    rw [here]
    rfl
  | _ => exact .past rfl rfl rfl rfl rfl

theorem tunnels_quiet {t : Tunnel} (here : op.pc = .tunnel t) (tunnels : Tunnels s op t s' op') :
    Quiet s s' op op' := by
  have stays : ∀ d copy, Quiet s s op (op.withCopy d copy) := by
    intro d copy
    have unready : ready op.pc = false := by
      rw [here]
      rfl
    cases d with
    | destination => exact .past rfl rfl unready rfl rfl
    | source => exact .past rfl rfl unready rfl rfl
  cases tunnels with
  | begun =>
    obtain ⟨clock, -, world⟩ := s.beginForwarding_same
    exact .past clock world rfl rfl rfl
  | moved c d _ _ _ copy => exact stays d copy
  | finished c d _ copy => exact stays d copy
  | recorded x =>
    obtain ⟨clock, -, world⟩ := s.recordForwardResult_same x.result
    exact .past clock world rfl rfl rfl
  | _ => exact .past rfl rfl rfl rfl rfl

theorem leaves_quiet {l : Leaving} (leaves : Leaves s op l s' op') : Quiet s s' op op' := by
  cases leaves with
  | _ => exact .past rfl rfl rfl rfl rfl

theorem moves_quiet (h : GuardedOp g s op) (moves : Moves g.config s op s' op') :
    Quiet s s' op op' ∨ Authorizing op op' := by
  cases moves with
  | reads r op' here reads => exact .inl (reads_quiet h here reads)
  | prepares p s' op' here prepares => exact prepares_quiet here prepares
  | answers _ a op' here answers => exact .inl (answers_quiet here answers)
  | tunnels t s' op' here tunnels => exact .inl (tunnels_quiet here tunnels)
  | leaves l s' op' here leaves => exact .inl (leaves_quiet leaves)

end Quiet

/-- A capability is consumed while it has not expired, or for a route that expires with it to
the nanosecond; and what was granted under its JTI before does not expire earlier. -/
def timely (g : Gate) (s : State World Progress) : Act Deed → Bool
  | .op i (.prepare (.authorize (.verify deed))) =>
    match s.ops[i]? with
    | none => true
    | some op =>
      let r := g.requestOf (caseOf op).toPlan
      !deed.decides || (decide (s.shared.clock < r.expiresAt.nanos) ||
          decide (op.route.expiresAt.nanos % nanosPerMilli = 0)) &&
        s.shared.world.granted.all fun q =>
          decide (q.jti = r.jti → r.expiresAt.nanos ≤ q.expiresAt.nanos)
  | _ => true

section OneClaimant

variable {g : Gate}

end OneClaimant

/-- The store the router begins with, opened where it is a file -/
def opened (clock : Int) : Setup → Option Store
  | .memory => some (.memory [])
  | .file state =>
    (ReplayStore.step (.start state) (.reopen false (wall clock))).map .file

section Samples

/-- From there through the memory store and the look at the deadline -/
def consumed (i : Nat) : List (Act Deed) :=
  [.op i (.prepare (.authorize (.verify (.readClock false)))),
    .op i (.prepare (.authorize (.verify .lock))), .op i (.prepare .conclude),
    .op i (.prepare (.look false))]

end Samples

end ForwardingGate
