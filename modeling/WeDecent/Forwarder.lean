import WeDecent.Library.GoIO
import WeDecent.Library.Runs
import WeDecent.RouteAuthorization
import WeDecent.RouteControl

/-!
# The forwarder

`Forwarder` (`mesh/forwarder.go`, `mesh/forwarder_snapshot.go`): any number of `Forward`
and `ServeRouteOpen` calls on one router, each a sequence of steps that may be
interleaved with the steps of the others and with `SetPolicy`. What a context says,
what links deliver and take, and what the dialer answers are arguments of the steps;
the authorizer is a machine of its own that the calls share.
-/

namespace Forwarder

open Fallible GoIO GoText GoTime GoTime.Time Mesh RouteAuthorization RouteControl

/-- What an authenticated link says of itself. -/
structure Link where
  localID : DeviceID
  remoteID : DeviceID
  transport : TransportName

structure ForwardRequest where
  router : DeviceID
  route : Route
  authorization : Authorization
  policy : RouterPolicy

/-- A `ForwardAuthorizer`: what its calls share, where a call of it is, and what the call
does next at a reading of the clock. `verdict` is given when the call has returned, and
says whether it returned nil. -/
structure Authorizer (World Progress Deed : Type) where
  enter : Progress
  advance : Int → World → ForwardRequest → Progress → Deed → Option (World × Progress)
  verdict : Progress → Option Bool

/-- The configuration that does not change while calls run. -/
structure Config (World Progress Deed : Type) where
  localID : DeviceID
  authorizer : Option (Authorizer World Progress Deed)
  hasDialer : Bool
  decode : Bytes → Option (Route × Authorization)

inductive ForwardError where
  | context
  | localIDRequired
  | policy (cause : PolicyError)
  | routingDisabled
  | authorizationRequired
  | dialerRequired
  | invalidRoute (cause : RouteError)
  | notOneHop
  | routerMismatch
  | linkIdentity
  | notAllowed
  | busy
  | denied
  | dial (cause : RouteOpenCode)
  | frame (cause : FrameError)
  | decode
  | rejection (cause : ForwardError)
  | acceptance
  | stream

/-- `routeOpenCodeForForwardError`. The error of the dialer is wrapped, and `dial` carries
the code that it would have by itself. -/
def routeOpenCodeForForwardError : ForwardError → RouteOpenCode
  | .busy => .busy
  | .invalidRoute _ => .invalidRequest
  | .notOneHop => .invalidRequest
  | .routerMismatch => .invalidRequest
  | .routingDisabled => .denied
  | .denied => .denied
  | .notAllowed => .denied
  | .linkIdentity => .denied
  | .dial cause => cause
  | _ => .unavailable

structure ForwardResult where
  bytesToDestination : Int
  bytesToSource : Int

/-- What a call returns. -/
structure Exit where
  result : ForwardResult
  err : Option ForwardError

def Exit.failed (err : ForwardError) : Exit := ⟨⟨0, 0⟩, some err⟩

section Checks

variable {World Progress Deed : Type}

/-- The checks of the policy snapshot and of the configuration -/
def Config.checkPolicy (cfg : Config World Progress Deed) (policy : RouterPolicy) :
    Except ForwardError Unit := do
  orFail .policy policy.validate
  failIf (policy.enabled = false) .routingDisabled
  failIf (cfg.authorizer.isNone = true) .authorizationRequired
  failIf (cfg.hasDialer = false) .dialerRequired

/-- The checks of the route and of the incoming link -/
def Config.checkRoute (cfg : Config World Progress Deed) (policy : RouterPolicy) (route : Route)
    (incoming : Link) (now : Time) : Except ForwardError Unit := do
  orFail .invalidRoute (route.validate now)
  match route.hops with
  | [first, second] =>
    failIf (first.toID ≠ cfg.localID ∨ second.fromID ≠ cfg.localID) .routerMismatch
    failIf (incoming.localID ≠ cfg.localID ∨ incoming.remoteID ≠ route.source ∨
      incoming.transport ≠ first.transport) .linkIdentity
    failIf (policy.lanOnly = true ∧
      (first.transport ≠ transportLAN ∨ second.transport ≠ transportLAN)) .notAllowed
  | _ => .error .notOneHop

/-- The outgoing link is the one that the second hop asks for. -/
def Config.linkMatches (cfg : Config World Progress Deed) (route : Route) (outgoing : Link) :
    Bool :=
  match route.hops with
  | [_, second] => decide (outgoing.localID = cfg.localID ∧
      outgoing.remoteID = route.destination ∧ outgoing.transport = second.transport)
  | _ => false

end Checks

inductive Kind where
  | forward
  | serve
  deriving DecidableEq

/-- `readRouteOpenRequestWithContext` -/
inductive Reading where
  | header (buf : Bytes)
  | payload (size : Nat) (buf : Bytes)
  | ended (request : Except ForwardError (Route × Authorization))
  | failed (err : ForwardError)

/-- `prepareForward`. `closing` is about to close the outgoing link on an error path, and
`releasing` to give the session back. -/
inductive Preparing (Progress : Type) where
  | entered
  | identified
  | snapped (policy : RouterPolicy)
  | checked (policy : RouterPolicy)
  | authorizing (policy : RouterPolicy) (progress : Progress)
  | denied
  | authorized
  | dialing
  | dialFailed (cause : RouteOpenCode)
  | matched
  | closing (err : ForwardError)
  | releasing (err : ForwardError)

/-- What `ServeRouteOpen` does after its response -/
inductive After where
  | invalid (err : ForwardError)
  | rejected (err : ForwardError)
  | accepted

/-- `writeRouteOpenResponseWithContext` -/
inductive Answering where
  | writing (left : List Bytes)
  | written (failed : Bool)

/-- The loop of `copyOpaque` -/
structure Collecting where
  destination : Bool
  source : Bool
  result : ForwardResult
  failed : Bool
  watching : Bool

inductive Tunnel where
  | beginning
  | copying (c : Collecting)
  | copied (x : Exit)

/-- The deferred calls, in the order in which they run -/
inductive Leaving where
  | closeOutgoing (x : Exit)
  | release (x : Exit)
  | closeIncoming (x : Exit)
  | returned (x : Exit)

inductive Pc (Progress : Type) where
  | reading (r : Reading)
  | preparing (p : Preparing Progress)
  | answering (after : After) (a : Answering)
  | tunnel (t : Tunnel)
  | leaving (l : Leaving)

/-- What an operation saw when it was admitted. -/
structure Admission where
  active : Int
  policy : RouterPolicy

/-- A call. `sends` is all that the incoming link will ever deliver and `input` what is left
of it; `replies` is what the outgoing link will deliver. `control` is what the response
wrote to the incoming link; the copies hold what the tunnel wrote to either side. The
remaining fields record what the call has done. -/
structure Op (Progress : Type) where
  kind : Kind
  incoming : Option Link
  route : Route
  authorization : Authorization
  sends : Bytes
  input : Bytes
  replies : Bytes
  control : Bytes
  toDestination : Copy UInt8
  toSource : Copy UInt8
  outgoing : Option Link
  incomingClosed : Bool
  outgoingClosed : Bool
  cut : Bool
  admission : Option Admission
  releases : Nat
  dials : List RouteHop
  answer : Option RouteOpenResponse
  tunneled : Bool
  pc : Pc Progress

section Machine

variable {World Progress Deed : Type}

namespace Op

def moveTo (op : Op Progress) (pc : Pc Progress) : Op Progress := { op with pc := pc }

def prepare (op : Op Progress) (p : Preparing Progress) : Op Progress := op.moveTo (.preparing p)

def leave (op : Op Progress) (x : Exit) : Op Progress := op.moveTo (.leaving (.closeIncoming x))

/-- Begin to write a response. -/
def respond (op : Op Progress) (response : RouteOpenResponse) (after : After) : Op Progress :=
  { op with answer := some response, pc := .answering after (.writing response.writes) }

/-- `prepareForward` returns an error. -/
def unprepared (op : Op Progress) (err : ForwardError) : Op Progress :=
  match op.kind with
  | .forward => op.leave (.failed err)
  | .serve => op.respond (.rejected (routeOpenCodeForForwardError err)) (.rejected err)

/-- `prepareForward` returns a link to the destination. -/
def prepared (op : Op Progress) : Op Progress :=
  match op.kind with
  | .forward => op.moveTo (.tunnel .beginning)
  | .serve => op.respond .accepted .accepted

def request (op : Op Progress) (localID : DeviceID) (policy : RouterPolicy) : ForwardRequest :=
  ⟨localID, op.route, op.authorization, policy⟩

/-- What `routeCtx.Err` may say: it has a deadline, and may be cancelled at any time. -/
def mayReport (op : Op Progress) (clock : Int) (ended : Bool) : Bool :=
  ended || decide (clock < op.route.expiresAt.nanos)

end Op

/-- What the calls share: the fields under `f.mu`, the clock, and the authorizer's state. -/
structure Shared (World : Type) where
  clock : Int
  policy : RouterPolicy
  active : Int
  bytesForwarded : UInt64
  sessionsForwarded : UInt64
  world : World

inductive ReadAct where
  | read (n : Nat) (err : Bool)
  | cut
  | stop (ended : Bool)
  | look (ended : Bool)

def readStep (decode : Bytes → Option (Route × Authorization)) (op : Op Progress) :
    Reading → ReadAct → Option (Op Progress)
  | .header buf, .read n err =>
    if buf.length + n ≤ routeControlHeaderSize ∧ n ≤ op.input.length then
      let op' := { op with input := op.input.drop n }
      match readFull routeControlHeaderSize buf (op.input.take n) err with
      | .more buf' => some (op'.moveTo (.reading (.header buf')))
      | .failed => some (op'.moveTo (.reading (.ended (.error (.frame .shortHeader)))))
      | .full h =>
        match readHeader h routeControlOpen with
        | .error e => some (op'.moveTo (.reading (.ended (.error (.frame e)))))
        | .ok size => some (op'.moveTo (.reading (.payload size [])))
    else none
  | .payload size buf, .read n err =>
    if buf.length + n ≤ size ∧ n ≤ op.input.length then
      let op' := { op with input := op.input.drop n }
      match readFull size buf (op.input.take n) err with
      | .more buf' => some (op'.moveTo (.reading (.payload size buf')))
      | .failed => some (op'.moveTo (.reading (.ended (.error (.frame .shortPayload)))))
      | .full payload =>
        match decode payload with
        | none => some (op'.moveTo (.reading (.ended (.error .decode))))
        | some request => some (op'.moveTo (.reading (.ended (.ok request))))
    else none
  | .ended request, .stop ended =>
    -- the callback that closes the link has run only if the context has ended
    if op.cut && !ended then none
    else
      match ended, request with
      | true, _ => some { op with cut := false, pc := .reading (.failed .context) }
      | false, .error e => some { op with cut := false, pc := .reading (.failed e) }
      | false, .ok (route, authorization) =>
        some { op with
          cut := false, route := route, authorization := authorization,
          pc := .preparing .entered }
  | .failed err, .look ended =>
    if ended then some (op.leave (.failed .context))
    else some (op.respond (.rejected .invalidRequest) (.invalid err))
  | .failed _, _ => none
  | _, .cut => some { op with incomingClosed := true, cut := true }
  | _, _ => none

inductive DialAnswer where
  | error (cause : RouteOpenCode)
  | nil
  | link (l : Link)

inductive PrepareAct (Deed : Type) where
  | look (ended : Bool)
  | snapshot
  | check
  | acquire
  | authorize (deed : Deed)
  | conclude
  | dialed (answer : DialAnswer)
  | close
  | release

def prepareStep (cfg : Config World Progress Deed) (s : Shared World) (op : Op Progress) :
    Preparing Progress → PrepareAct Deed → Option (Shared World × Op Progress)
  | .entered, .look ended =>
    if ended then some (s, op.unprepared .context)
    else if blank cfg.localID then some (s, op.unprepared .localIDRequired)
    else some (s, op.prepare .identified)
  | .identified, .snapshot =>
    match cfg.checkPolicy s.policy with
    | .error e => some (s, op.unprepared e)
    | .ok () => some (s, op.prepare (.snapped s.policy))
  | .snapped policy, .check =>
    match op.incoming with
    | none => some (s, op.unprepared .linkIdentity)
    | some incoming =>
      match cfg.checkRoute policy op.route incoming (wall s.clock) with
      | .error e => some (s, op.unprepared e)
      | .ok () => some (s, op.prepare (.checked policy))
  | .checked policy, .acquire =>
    match cfg.authorizer with
    | none => none
    | some authorizer =>
      if 0 < policy.maxSessions ∧ policy.maxSessions ≤ s.active then
        some (s, op.unprepared .busy)
      else some ({ s with active := s.active + 1 }, { op with
          admission := some ⟨s.active, policy⟩
          pc := .preparing (.authorizing policy authorizer.enter) })
  | .authorizing policy progress, .authorize deed =>
    match cfg.authorizer with
    | none => none
    | some authorizer =>
      match authorizer.advance s.clock s.world (op.request cfg.localID policy) progress deed with
      | none => none
      | some (world', progress') =>
        some ({ s with world := world' }, op.prepare (.authorizing policy progress'))
  | .authorizing _ progress, .conclude =>
    match cfg.authorizer with
    | none => none
    | some authorizer =>
      match authorizer.verdict progress with
      | none => none
      | some false => some (s, op.prepare .denied)
      | some true => some (s, op.prepare .authorized)
  | .denied, .look ended =>
    if op.mayReport s.clock ended then
      some (s, op.prepare (.releasing (if ended then .context else .denied)))
    else none
  | .authorized, .look ended =>
    if op.mayReport s.clock ended then
      if ended then some (s, op.prepare (.releasing .context))
      else
        -- `DialNext` is called with the second hop
        some (s, { op with
          dials := op.dials ++ op.route.hops[1]?.toList, pc := .preparing .dialing })
    else none
  | .dialing, .dialed (.error cause) => some (s, op.prepare (.dialFailed cause))
  | .dialing, .dialed .nil => some (s, op.prepare (.releasing .linkIdentity))
  | .dialing, .dialed (.link l) =>
    let op' := { op with outgoing := some l }
    if cfg.linkMatches op.route l then some (s, op'.prepare .matched)
    else some (s, op'.prepare (.closing .linkIdentity))
  | .dialFailed cause, .look ended =>
    if op.mayReport s.clock ended then
      some (s, op.prepare (.releasing (if ended then .context else .dial cause)))
    else none
  | .matched, .look ended =>
    if op.mayReport s.clock ended then
      if ended then some (s, op.prepare (.closing .context)) else some (s, op.prepared)
    else none
  | .closing err, .close =>
    some (s, { op with outgoingClosed := true, pc := .preparing (.releasing err) })
  | .releasing err, .release =>
    some ({ s with active := s.active - 1 }, { op with releases := op.releases + 1 }.unprepared err)
  | _, _ => none

inductive AnswerAct where
  | write (n : Nat) (err : Bool)
  | cut
  | stop (ended : Bool)

def answerStep (clock : Int) (op : Op Progress) (after : After) :
    Answering → AnswerAct → Option (Op Progress)
  | .writing (data :: rest), .write n err =>
    if n ≤ data.length then
      let op' := { op with control := op.control ++ data.take n }
      match writeAll data n err with
      | .more left => some (op'.moveTo (.answering after (.writing (left :: rest))))
      | .failed => some (op'.moveTo (.answering after (.written true)))
      | .done =>
        match rest with
        | [] => some (op'.moveTo (.answering after (.written false)))
        | _ :: _ => some (op'.moveTo (.answering after (.writing rest)))
    else none
  | .written failed, .stop ended =>
    if op.cut && !ended then none
    else
      let op' := { op with cut := false }
      match after with
      | .invalid err => some (op'.leave (.failed err))
      | .rejected err =>
        some (op'.leave (.failed (if failed || ended then .rejection err else err)))
      | .accepted =>
        if op.mayReport clock ended then
          if failed || ended then
            some (op'.moveTo (.leaving (.closeOutgoing (.failed .acceptance))))
          else some (op'.moveTo (.tunnel .beginning))
        else none
  | _, .cut => some { op with incomingClosed := true, cut := true }
  | _, _ => none

/-- The two copies of a tunnel -/
inductive Direction where
  | destination
  | source
  deriving DecidableEq

inductive TunnelAct where
  | begin
  | copy (d : Direction) (taken written : Nat) (how : CopyEnd)
  | finish (d : Direction) (how : CopyEnd)
  | collect (d : Direction)
  | ctxDone
  | conclude (ended : Bool)
  | record

/-- `^uint64(0)` -/
def maxUint64 : UInt64 := 18446744073709551615

def saturatingAddUint64 (left right : UInt64) : UInt64 :=
  if maxUint64 - left < right then maxUint64 else left + right

/-- `beginForwarding` -/
def Shared.beginForwarding (s : Shared World) : Shared World :=
  if s.sessionsForwarded ≠ maxUint64 then
    { s with sessionsForwarded := s.sessionsForwarded + 1 }
  else s

/-- `recordForwardResult` -/
def Shared.recordForwardResult (s : Shared World) (result : ForwardResult) : Shared World :=
  let bytes := saturatingAddUint64 (.ofNat result.bytesToDestination.toNat)
    (.ofNat result.bytesToSource.toNat)
  { s with bytesForwarded := saturatingAddUint64 s.bytesForwarded bytes }

/-- The counters of the tunnels are all that these two change. -/
theorem Shared.beginForwarding_same (s : Shared World) :
    s.beginForwarding.clock = s.clock ∧ s.beginForwarding.active = s.active ∧
      s.beginForwarding.world = s.world := by
  unfold Shared.beginForwarding
  split
  · exact ⟨rfl, rfl, rfl⟩
  · exact ⟨rfl, rfl, rfl⟩

theorem Shared.recordForwardResult_same (s : Shared World) (result : ForwardResult) :
    (s.recordForwardResult result).clock = s.clock ∧
      (s.recordForwardResult result).active = s.active ∧
      (s.recordForwardResult result).world = s.world := by
  unfold Shared.recordForwardResult
  exact ⟨rfl, rfl, rfl⟩

namespace Op

def copyOf (op : Op Progress) : Direction → Copy UInt8
  | .destination => op.toDestination
  | .source => op.toSource

def withCopy (op : Op Progress) (d : Direction) (c : Copy UInt8) : Op Progress :=
  match d with
  | .destination => { op with toDestination := c }
  | .source => { op with toSource := c }

/-- `closeLinks` -/
def closeLinks (op : Op Progress) : Op Progress :=
  { op with incomingClosed := true, outgoingClosed := true }

end Op

namespace Collecting

def start : Collecting := ⟨false, false, ⟨0, 0⟩, false, true⟩

def has (c : Collecting) : Direction → Bool
  | .destination => c.destination
  | .source => c.source

/-- An outcome is received. -/
def receive (c : Collecting) (d : Direction) (bytes : Int) (how : CopyEnd) : Collecting :=
  let c := { c with failed := c.failed || decide (how = CopyEnd.failed) }
  match d with
  | .destination => { c with
      destination := true, result.bytesToDestination := c.result.bytesToDestination + bytes }
  | .source => { c with
      source := true, result.bytesToSource := c.result.bytesToSource + bytes }

end Collecting

def tunnelStep (s : Shared World) (op : Op Progress) :
    Tunnel → TunnelAct → Option (Shared World × Op Progress)
  | .beginning, .begin =>
    some (s.beginForwarding, { op with
      tunneled := true
      toDestination := .start op.input
      toSource := .start op.replies
      pc := .tunnel (.copying .start) })
  | .copying _, .copy d taken written how =>
    match (op.copyOf d).move taken written how with
    | none => none
    | some c' => some (s, op.withCopy d c')
  | .copying _, .finish d how =>
    match (op.copyOf d).finish how with
    | none => none
    | some c' => some (s, op.withCopy d c')
  | .copying c, .collect d =>
    if c.has d then none
    else
      match (op.copyOf d).ended with
      | none => none
      | some how =>
        let c' := c.receive d (op.copyOf d).sink.length how
        -- either direction ending is a disconnect
        some (s, op.closeLinks.moveTo (.tunnel (.copying c')))
  | .copying c, .ctxDone =>
    if c.watching then
      some (s, op.closeLinks.moveTo (.tunnel (.copying { c with watching := false })))
    else none
  | .copying c, .conclude ended =>
    if c.destination && c.source && op.mayReport s.clock ended then
      let err := if ended then some .context else if c.failed then some .stream else none
      some (s, op.closeLinks.moveTo (.tunnel (.copied ⟨c.result, err⟩)))
    else none
  | .copied x, .record =>
    some (s.recordForwardResult x.result, op.moveTo (.leaving (.closeOutgoing x)))
  | _, _ => none

inductive LeaveAct where
  | closeOutgoing
  | release
  | closeIncoming

def leaveStep (s : Shared World) (op : Op Progress) :
    Leaving → LeaveAct → Option (Shared World × Op Progress)
  | .closeOutgoing x, .closeOutgoing =>
    some (s, { op with outgoingClosed := true, pc := .leaving (.release x) })
  | .release x, .release =>
    some ({ s with active := s.active - 1 },
      { op with releases := op.releases + 1, pc := .leaving (.closeIncoming x) })
  | .closeIncoming x, .closeIncoming =>
    some (s, { op with incomingClosed := true, pc := .leaving (.returned x) })
  | _, _ => none

inductive OpAct (Deed : Type) where
  | read (a : ReadAct)
  | prepare (a : PrepareAct Deed)
  | answer (a : AnswerAct)
  | tunnel (a : TunnelAct)
  | leave (a : LeaveAct)

def opStep (cfg : Config World Progress Deed) (s : Shared World) (op : Op Progress)
    (a : OpAct Deed) : Option (Shared World × Op Progress) :=
  match op.pc, a with
  | .reading r, .read a => (readStep cfg.decode op r a).map fun op' => (s, op')
  | .preparing p, .prepare a => prepareStep cfg s op p a
  | .answering after w, .answer a => (answerStep s.clock op after w a).map fun op' => (s, op')
  | .tunnel t, .tunnel a => tunnelStep s op t a
  | .leaving l, .leave a => leaveStep s op l a
  | _, _ => none

/-- What a call is given. `sends` and `replies` are what its two links will deliver. -/
structure Start where
  kind : Kind
  incoming : Option Link
  route : Route
  sends : Bytes
  replies : Bytes

/-- `RouteAuthorization{}` -/
def noAuthorization : Authorization where
  keyID := []
  claims := ⟨0, [], [], [], [], [], ⟨[], [], [], [], ⟨-62135596800000000000, .utc⟩⟩, 0, 0⟩
  signature := []

def Start.pc (a : Start) : Pc Progress :=
  match a.incoming, a.kind with
  | none, _ => .leaving (.returned (.failed .linkIdentity))
  | some _, .forward => .preparing .entered
  | some _, .serve => .reading (.header [])

def Start.op (a : Start) : Op Progress where
  kind := a.kind
  incoming := a.incoming
  route := a.route
  authorization := noAuthorization
  sends := a.sends
  input := a.sends
  replies := a.replies
  control := []
  toDestination := .start []
  toSource := .start []
  outgoing := none
  incomingClosed := false
  outgoingClosed := false
  cut := false
  admission := none
  releases := 0
  dials := []
  answer := none
  tunneled := false
  pc := a.pc

/-- What has been written to the outgoing link so far -/
def Op.writtenToOutgoing (op : Op Progress) : Bytes := op.toDestination.sink

/-- What has been written to the incoming link so far: the response, and then the copy -/
def Op.writtenToIncoming (op : Op Progress) : Bytes := op.control ++ op.toSource.sink

structure State (World Progress : Type) where
  shared : Shared World
  ops : List (Op Progress)

inductive Act (Deed : Type) where
  | tick (clock : Int)
  | setPolicy (policy : RouterPolicy)
  | start (a : Start)
  | op (i : Nat) (a : OpAct Deed)

def step (cfg : Config World Progress Deed) (s : State World Progress) :
    Act Deed → Option (State World Progress)
  | .tick clock =>
    if s.shared.clock ≤ clock then some { s with shared.clock := clock } else none
  | .setPolicy policy =>
    match policy.validate with
    | .error _ => some s
    | .ok () => some { s with shared.policy := policy }
  | .start a => some { s with ops := s.ops ++ [a.op] }
  | .op i a =>
    match s.ops[i]? with
    | none => none
    | some op =>
      match opStep cfg s.shared op a with
      | none => none
      | some (shared', op') => some ⟨shared', s.ops.set i op'⟩

def State.start (clock : Int) (policy : RouterPolicy) (world : World) : State World Progress :=
  ⟨⟨clock, policy, 0, 0, 0, world⟩, []⟩

structure ForwarderSnapshot where
  policy : RouterPolicy
  activeSessions : Int
  bytesForwarded : UInt64
  sessionsForwarded : UInt64

def Shared.snapshot (s : Shared World) : ForwarderSnapshot :=
  ⟨s.policy, s.active, s.bytesForwarded, s.sessionsForwarded⟩

end Machine

section Samples

/-- The JSON text of the route of the fixture, with this expiry -/
def routeText (expiresAt : Bytes) : Bytes :=
  literal "\x7b\"ID\":\"00000000-0000-4000-8000-000000000001\"," ++
    literal "\"Source\":\"wd_aaaaaaaaaaaaaaaa\",\"Destination\":\"wd_cccccccccccccccc\"," ++
    literal "\"Hops\":[\x7b\"From\":\"wd_aaaaaaaaaaaaaaaa\",\"To\":\"wd_bbbbbbbbbbbbbbbb\"," ++
    literal "\"Transport\":\"internet\",\"Cost\":10\x7d,\x7b\"From\":\"wd_bbbbbbbbbbbbbbbb\"," ++
    literal "\"To\":\"wd_cccccccccccccccc\",\"Transport\":\"lan\",\"Cost\":20\x7d]," ++
    literal "\"ExpiresAt\":\"" ++ expiresAt ++ literal "\"\x7d"

/-- The JSON text of a request for it, signed as there -/
def requestText (expiresAt : Bytes) : Bytes :=
  literal "\x7b\"route\":" ++ routeText expiresAt ++
    literal ",\"authorization\":\x7b\"kid\":\"test-route-key-1\",\"claims\":\x7b\"v\":1," ++
    literal "\"iss\":\"wedecent-control-plane\",\"aud\":\"wedecent-mesh-router\"," ++
    literal "\"permission\":\"mesh.forward\",\"jti\":\"AAECAwQFBgcICQoLDA0ODw\"," ++
    literal "\"router\":\"wd_bbbbbbbbbbbbbbbb\",\"route\":" ++
    routeText (literal "2027-01-15T08:01:00Z") ++
    literal ",\"iat_unix_ms\":1800000000000,\"exp_unix_ms\":1800000060000\x7d," ++
    literal "\"signature\":\"N78uguODnD-5_fs_deqgLrC_9_mY3a4O3dg2hB8mplLvxHI76v-" ++
    literal "YHBhlzID-QS6vKbOatzTS2K5yNbXcFOo5DQ\"\x7d\x7d"

def samplePayload : Bytes := requestText (literal "2027-01-15T08:01:00Z")

/-- `decodeRouteControlJSON` as far as that text tells -/
def sampleDecode (payload : Bytes) : Option (Route × Authorization) :=
  if payload = samplePayload then some (sample.claims.route, signedSample) else none

def sampleIncoming : Link where
  localID := literal "wd_bbbbbbbbbbbbbbbb"
  remoteID := literal "wd_aaaaaaaaaaaaaaaa"
  transport := transportInternet

def sampleOutgoing : Link where
  localID := literal "wd_bbbbbbbbbbbbbbbb"
  remoteID := literal "wd_cccccccccccccccc"
  transport := transportLAN

/-- A router that takes one session at a time -/
def samplePolicy : RouterPolicy where
  enabled := true
  trustedDevicesOnly := true
  organizationOnly := false
  publicRouting := false
  maxSessions := 1
  maxBandwidthBytesPerSec := 0
  allowOnBattery := false
  allowMetered := false
  lanOnly := false

/-- An authorizer that answers as it is told -/
def toldAuthorizer : Authorizer Unit (Option Bool) Bool where
  enter := none
  advance := fun _ world _ _ answer => some (world, some answer)
  verdict := id

def sampleConfig : Config Unit (Option Bool) Bool where
  localID := literal "wd_bbbbbbbbbbbbbbbb"
  authorizer := some toldAuthorizer
  hasDialer := true
  decode := sampleDecode

def sampleClock : Int := 1800000000000000000

end Samples

end Forwarder
