import WeDecent.Library.Fallible
import WeDecent.Library.GoText
import WeDecent.Library.GoTime

/-!
# Routes and router policy

The primitives of `mesh/mesh.go` that forwarding rests on: a route is an ordered
path of hops with an expiry, `Route.Validate` checks its shape and freshness, and
`RouterPolicy` is what a router allows locally.
-/

namespace Mesh

open GoText GoTime

def maxRouteHops : Nat := 8

abbrev DeviceID := List UInt8

abbrev TransportName := List UInt8

def transportLAN : TransportName := literal "lan"
def transportInternet : TransportName := literal "internet"

structure RouteHop where
  fromID : DeviceID
  toID : DeviceID
  transport : TransportName
  cost : UInt64
  deriving DecidableEq

structure Route where
  id : List UInt8
  source : DeviceID
  destination : DeviceID
  hops : List RouteHop
  expiresAt : Time
  deriving DecidableEq

/-- The errors of `Route.Validate`, in the order of its checks; the last ones carry
the index of the hop. -/
inductive RouteError where
  | idRequired
  | sourceRequired
  | destinationRequired
  | sameEnds
  | noHops
  | tooManyHops
  | expiryRequired
  | expired
  | emptyDevice (hop : Nat)
  | emptyTransport (hop : Nat)
  | discontinuous (hop : Nat)
  | selfLoop (hop : Nat)
  | loop (hop : Nat)
  | wrongDestination
  deriving DecidableEq

/-- `strings.TrimSpace(text) == ""` -/
def blank (text : List UInt8) : Bool := (trimSpace text).isEmpty

/-- The loop of `Validate` over the hops, from hop `i` on; it ends with the device
the last hop leads to. -/
def walk (expectedFrom : DeviceID) (visited : List DeviceID) (i : Nat) :
    List RouteHop → Except RouteError DeviceID
  | [] => .ok expectedFrom
  | hop :: rest =>
    if blank hop.fromID || blank hop.toID then .error (.emptyDevice i)
    else if blank hop.transport then .error (.emptyTransport i)
    else if hop.fromID ≠ expectedFrom then .error (.discontinuous i)
    else if hop.fromID = hop.toID then .error (.selfLoop i)
    else if visited.contains hop.toID then .error (.loop i)
    else walk hop.toID (hop.toID :: visited) (i + 1) rest

/-- A walk that comes to its end has found each hop where the one before led. -/
theorem walk_cons {expectedFrom last : DeviceID} {visited : List DeviceID} {i : Nat}
    {hop : RouteHop} {rest : List RouteHop} :
    walk expectedFrom visited i (hop :: rest) = .ok last ↔
      ¬(blank hop.fromID || blank hop.toID) = true ∧ ¬blank hop.transport = true ∧
        ¬hop.fromID ≠ expectedFrom ∧ hop.fromID ≠ hop.toID ∧ ¬visited.contains hop.toID = true ∧
          walk hop.toID (hop.toID :: visited) (i + 1) rest = .ok last := by
  simp only [walk, Fallible.guard_eq_ok, ne_eq]

/-- A path over three different devices comes to its end. -/
theorem walk_two {a b c : DeviceID} {first second : RouteHop} (hfirst : first.fromID = a)
    (hrouter : first.toID = b) (hsecond : second.fromID = b) (hlast : second.toID = c)
    (givenA : blank a = false) (givenB : blank b = false) (givenC : blank c = false)
    (transport : blank first.transport = false) (transport' : blank second.transport = false)
    (ab : a ≠ b) (ac : a ≠ c) (bc : b ≠ c) : walk a [a] 0 [first, second] = .ok c := by
  simp [walk, hfirst, hrouter, hsecond, hlast, givenA, givenB, givenC, transport, transport', ab,
    bc, ab.symm, ac.symm, bc.symm]

namespace Route

/-- `Route.Validate` -/
def validate (r : Route) (now : Time) : Except RouteError Unit :=
  if blank r.id then .error .idRequired
  else if blank r.source then .error .sourceRequired
  else if blank r.destination then .error .destinationRequired
  else if r.source = r.destination then .error .sameEnds
  else if r.hops.length = 0 then .error .noHops
  else if r.hops.length > maxRouteHops then .error .tooManyHops
  else if r.expiresAt.isZero then .error .expiryRequired
  else if !now.before r.expiresAt then .error .expired
  else
    match walk r.source [r.source] 0 r.hops with
    | .error e => .error e
    | .ok last => if last ≠ r.destination then .error .wrongDestination else .ok ()

/-- What `Validate` has checked when it returns nil. -/
structure Valid (r : Route) (now : Time) : Prop where
  idGiven : blank r.id = false
  sourceGiven : blank r.source = false
  destinationGiven : blank r.destination = false
  endsDiffer : r.source ≠ r.destination
  someHops : r.hops ≠ []
  fewHops : r.hops.length ≤ maxRouteHops
  expiryGiven : r.expiresAt.isZero = false
  unexpired : now.nanos < r.expiresAt.nanos
  path : walk r.source [r.source] 0 r.hops = .ok r.destination

theorem validate_eq_ok {r : Route} {now : Time} : r.validate now = .ok () ↔ r.Valid now := by
  constructor
  · intro h
    simp only [validate, Fallible.guard_eq_ok] at h
    obtain ⟨hid, hsource, hdestination, hends, hsome, hfew, hexpiry, hfresh, h⟩ := h
    split at h
    · cases h
    rename_i last hwalk
    have hlast := (Fallible.guard_eq_ok.mp h).1
    exact {
      idGiven := Bool.eq_false_iff.mpr hid
      sourceGiven := Bool.eq_false_iff.mpr hsource
      destinationGiven := Bool.eq_false_iff.mpr hdestination
      endsDiffer := hends
      someHops := fun empty => hsome (by rw [empty]; rfl)
      fewHops := Nat.not_lt.mp hfew
      expiryGiven := Bool.eq_false_iff.mpr hexpiry
      unexpired := by simpa [Time.before] using hfresh
      path := not_not.mp hlast ▸ hwalk }
  · intro v
    have few : ¬ r.hops.length > maxRouteHops := Nat.not_lt.mpr v.fewHops
    have fresh : now.before r.expiresAt = true := by simpa [Time.before] using v.unexpired
    simp [validate, v.idGiven, v.sourceGiven, v.destinationGiven, v.endsDiffer, v.someHops, few,
      v.expiryGiven, fresh, v.path]

/-- The ends of a path of two hops -/
theorem Valid.twoHops {r : Route} {now : Time} {first second : RouteHop} (v : r.Valid now)
    (two : r.hops = [first, second]) :
    first.fromID = r.source ∧ second.fromID = first.toID ∧ second.toID = r.destination := by
  have path := v.path
  rw [two] at path
  obtain ⟨-, -, start, -, -, path⟩ := walk_cons.mp path
  obtain ⟨-, -, joint, -, -, path⟩ := walk_cons.mp path
  exact ⟨not_not.mp start, not_not.mp joint, Except.ok.inj path⟩

end Route

/-- `RouterPolicy` -/
structure RouterPolicy where
  enabled : Bool
  trustedDevicesOnly : Bool
  organizationOnly : Bool
  publicRouting : Bool
  maxSessions : Int
  maxBandwidthBytesPerSec : Int
  allowOnBattery : Bool
  allowMetered : Bool
  lanOnly : Bool

inductive PolicyError where
  | negativeSessions
  | negativeBandwidth
  | publicDisabled

/-- `RouterPolicy.Validate` -/
def RouterPolicy.validate (p : RouterPolicy) : Except PolicyError Unit :=
  if p.maxSessions < 0 then .error .negativeSessions
  else if p.maxBandwidthBytesPerSec < 0 then .error .negativeBandwidth
  else if p.publicRouting && !p.enabled then .error .publicDisabled
  else .ok ()

end Mesh
