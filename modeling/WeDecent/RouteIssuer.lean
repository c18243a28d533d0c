import WeDecent.Library.Codec
import WeDecent.Library.JavaScript

/-!
# The issuer of route authorizations

The edge function that signs route authorizations
(`supabase/functions/_shared/route-authorization.mjs`): it builds the claims of a
grant row, encodes them into the bytes to be signed, and returns the authorization
as an object that is sent as JSON.
-/

namespace RouteIssuer

open List Codec Fallible JavaScript

def routeAuthorizationVersion : Nat := 1
def routeAuthorizationIssuer : Text := text "wedecent-control-plane"
def routeAuthorizationAudience : Text := text "wedecent-mesh-router"
def routeAuthorizationPermission : Text := text "mesh.forward"
def routeAuthorizationDomain : Text := text "wedecent-mesh-forward-v1"
def maxRouteAuthorizationLifetimeMS : Int := 120000
def maxRouteAuthorizationCost : Nat := 1000000000

/-- `[a-z2-7]` -/
def isBase32 (u : UInt16) : Bool := (97 ≤ u && u ≤ 122) || (50 ≤ u && u ≤ 55)

/-- `[A-Za-z0-9_-]` -/
def isBase64URL (u : UInt16) : Bool :=
  (65 ≤ u && u ≤ 90) || (97 ≤ u && u ≤ 122) || (48 ≤ u && u ≤ 57) || u == 95 || u == 45

def deviceIDPattern (s : Text) : Bool :=
  s.take 3 == text "wd_" && (s.drop 3).length == 16 && (s.drop 3).all isBase32

def jtiPattern (s : Text) : Bool := s.length == 22 && s.all isBase64URL

def fail (message : String) : Thrown := .error ("invalid route authorization: " ++ message)

def stringValue (js : Runtime) (value : Value) (name : String) : Except Thrown Text := do
  let s ← toText js value.orEmpty
  failIf (trim s = []) (fail (name ++ " is required"))
  return trim s

def deviceID (js : Runtime) (value : Value) (name : String) : Except Thrown Text := do
  let s ← stringValue js value name
  failIf (deviceIDPattern s = false) (fail (name ++ " is invalid"))
  return s

def transport (js : Runtime) (value : Value) (name : String) : Except Thrown Text := do
  let s ← stringValue js value name
  let lower := toLowerCase js s
  failIf (lower ≠ text "lan" ∧ lower ≠ text "internet") (fail (name ++ " must be lan or internet"))
  return lower

/-- A number for which `Number.isSafeInteger` holds, with the integer it is. -/
structure SafeInteger where
  number : Number
  value : Int
  same : number.safeInteger? = some value

def safeInteger (js : Runtime) (value : Value) (name : String) (maximum : Nat) :
    Except Thrown SafeInteger := do
  let number ← toNumber js value
  match h : number.safeInteger? with
  | none => .error (fail (name ++ " is invalid"))
  | some n =>
    if n < 0 ∨ n > maximum then .error (fail (name ++ " is invalid")) else return ⟨number, n, h⟩

def timestampMS (js : Runtime) (value : Value) (name : String) : Except Thrown Int := do
  let s ← toText js value.orEmpty
  match parseDate js s with
  | none => .error (fail (name ++ " is invalid"))
  | some parsed =>
    if parsed.natAbs > maxSafeInteger ∨ parsed ≤ 0 then .error (fail (name ++ " is invalid"))
    else return parsed

structure Devices where
  source : Text
  router : Text
  destination : Text

structure Legs where
  firstTransport : Text
  secondTransport : Text
  firstCost : SafeInteger
  secondCost : SafeInteger

structure Term where
  issuedAtMS : Int
  expiresAtMS : Int
  expiresAt : Text

/-- The values of a grant row after all checks. -/
structure Grant where
  id : Text
  jti : Text
  devices : Devices
  legs : Legs
  term : Term

/-- `!row || typeof row !== 'object' || Array.isArray(row)` -/
def isRow : Value → Bool
  | .object _ => true
  | _ => false

def readDevices (js : Runtime) (row : Value) : Except Thrown Devices := do
  let source ← deviceID js (← row.get "source_device_id") "source device id"
  let router ← deviceID js (← row.get "router_device_id") "router device id"
  let destination ← deviceID js (← row.get "destination_device_id") "destination device id"
  failIf (source = router ∨ source = destination ∨ router = destination)
    (fail "route devices must be distinct")
  return ⟨source, router, destination⟩

def readLegs (js : Runtime) (row : Value) : Except Thrown Legs := do
  let firstTransport ← transport js (← row.get "first_transport") "first transport"
  let secondTransport ← transport js (← row.get "second_transport") "second transport"
  let firstCost ← safeInteger js (← row.get "first_cost") "first cost" maxRouteAuthorizationCost
  let secondCost ← safeInteger js (← row.get "second_cost") "second cost" maxRouteAuthorizationCost
  return ⟨firstTransport, secondTransport, firstCost, secondCost⟩

def readTerm (js : Runtime) (row : Value) : Except Thrown Term := do
  let issuedAtMS ← timestampMS js (← row.get "issued_at") "issued_at"
  let expiresAtMS ← timestampMS js (← row.get "expires_at") "expires_at"
  failIf (expiresAtMS ≤ issuedAtMS ∨ expiresAtMS - issuedAtMS > maxRouteAuthorizationLifetimeMS)
    (fail "lifetime is invalid")
  let expiresAt ← toISOString expiresAtMS
  return ⟨issuedAtMS, expiresAtMS, expiresAt⟩

def readJTI (js : Runtime) (value : Value) : Except Thrown Text := do
  let jti ← stringValue js value "jti"
  failIf (jtiPattern jti = false) (fail "jti is invalid")
  return jti

def readGrant (js : Runtime) (row : Value) : Except Thrown Grant := do
  failIf (isRow row = false) (fail "grant row is missing")
  let id ← stringValue js (← row.get "id") "route id"
  let jti ← readJTI js (← row.get "jti")
  let devices ← readDevices js row
  let legs ← readLegs js row
  let permission ← toText js (← row.get "permission").orEmpty
  failIf (permission ≠ routeAuthorizationPermission) (fail "permission is invalid")
  let term ← readTerm js row
  return ⟨id, jti, devices, legs, term⟩

def hopValue (fromID toID transport : Text) (cost : SafeInteger) : Value :=
  .object [(text "From", .string fromID), (text "To", .string toID),
    (text "Transport", .string transport), (text "Cost", .number cost.number)]

def Grant.hops (g : Grant) : Value :=
  .array [hopValue g.devices.source g.devices.router g.legs.firstTransport g.legs.firstCost,
    hopValue g.devices.router g.devices.destination g.legs.secondTransport g.legs.secondCost]

def Grant.route (g : Grant) : Value :=
  .object [(text "ID", .string g.id), (text "Source", .string g.devices.source),
    (text "Destination", .string g.devices.destination), (text "Hops", g.hops),
    (text "ExpiresAt", .string g.term.expiresAt)]

def Grant.claims (g : Grant) : Value :=
  .object [(text "v", .number (.int routeAuthorizationVersion)),
    (text "iss", .string routeAuthorizationIssuer),
    (text "aud", .string routeAuthorizationAudience),
    (text "permission", .string routeAuthorizationPermission), (text "jti", .string g.jti),
    (text "router", .string g.devices.router), (text "route", g.route),
    (text "iat_unix_ms", .number (.int g.term.issuedAtMS)),
    (text "exp_unix_ms", .number (.int g.term.expiresAtMS))]

/-- The object that `buildRouteAuthorizationClaims` returns. -/
structure Built where
  route : Value
  claims : Value

def buildRouteAuthorizationClaims (js : Runtime) (row : Value) : Except Thrown Built := do
  let grant ← readGrant js row
  return ⟨grant.route, grant.claims⟩

def encodedString (value : Text) : Except Thrown (List UInt8) := do
  failIf ((utf8 value).length > 0xffffffff) (fail "string field is too large")
  return framed 4 (utf8 value)

def encodedUint32 (value : Nat) : List UInt8 := bigEndian 4 value

def encodedUint64 (big : Int) : Except Thrown (List UInt8) := do
  failIf (big < 0 ∨ big > 0xffffffffffffffff) (fail "uint64 field is out of range")
  return bigEndian 8 big.toNat

structure Hop where
  fromID : Text
  toID : Text
  transport : Text
  cost : SafeInteger

/-- The values of an authorization that are signed. -/
structure Signed where
  kid : Text
  jti : Text
  router : Text
  routeID : Text
  source : Text
  destination : Text
  issuedAtMS : SafeInteger
  expiresAtMS : SafeInteger
  routeExpiryMS : Int
  first : Hop
  second : Hop

def readHop (js : Runtime) (hop : Value) (index : String) : Except Thrown Hop := do
  let fromID ← deviceID js (← hop.get "From") ("hop " ++ index ++ " from")
  let toID ← deviceID js (← hop.get "To") ("hop " ++ index ++ " to")
  let name ← transport js (← hop.get "Transport") ("hop " ++ index ++ " transport")
  let cost ← safeInteger js (← hop.get "Cost") ("hop " ++ index ++ " cost")
    maxRouteAuthorizationCost
  return ⟨fromID, toID, name, cost⟩

def twoHops : Value → Except Thrown (Value × Value)
  | .array [first, second] => .ok (first, second)
  | _ => .error (fail "route must contain exactly two hops")

def readKeyID (js : Runtime) (value : Value) : Except Thrown Text := do
  let kid ← stringValue js value "key id"
  failIf (kid.length > 128 ∨ kid.any [13, 10, 9].contains) (fail "key id is invalid")
  return kid

/-- The claims that are the same in every authorization. -/
def checkConstants (claims : Value) : Except Thrown Unit := do
  failIf ((← claims.get "v").isNumber routeAuthorizationVersion = false) (fail "version is invalid")
  failIf ((← claims.get "iss").isText routeAuthorizationIssuer = false) (fail "issuer is invalid")
  failIf ((← claims.get "aud").isText routeAuthorizationAudience = false)
    (fail "audience is invalid")
  failIf ((← claims.get "permission").isText routeAuthorizationPermission = false)
    (fail "permission is invalid")

/-- The issue and expiry times, of which the route's expiry repeats the second. -/
def readTimes (js : Runtime) (claims route : Value) :
    Except Thrown (SafeInteger × SafeInteger) := do
  let issuedAtMS ← safeInteger js (← claims.get "iat_unix_ms") "issued_at" maxSafeInteger
  let expiresAtMS ← safeInteger js (← claims.get "exp_unix_ms") "expires_at" maxSafeInteger
  failIf (issuedAtMS.value ≤ 0 ∨ expiresAtMS.value ≤ issuedAtMS.value ∨
    expiresAtMS.value - issuedAtMS.value > maxRouteAuthorizationLifetimeMS)
    (fail "lifetime is invalid")
  let routeExpiry ← toText js (← route.get "ExpiresAt").orEmpty
  failIf (parseDate js routeExpiry ≠ some expiresAtMS.value) (fail "route expiry is not canonical")
  return (issuedAtMS, expiresAtMS)

/-- The checks of `canonicalRouteAuthorizationMessage`. -/
def readSigned (js : Runtime) (input : Value) : Except Thrown Signed := do
  failIf (input.isObject = false) (fail "authorization is missing")
  let kid ← readKeyID js (← input.get "kid")
  let claims ← input.get "claims"
  failIf (claims.isObject = false) (fail "claims are missing")
  checkConstants claims
  let jti ← readJTI js (← claims.get "jti")
  let router ← deviceID js (← claims.get "router") "router"
  let route ← claims.get "route"
  failIf (route.isObject = false) (fail "route is missing")
  let routeID ← stringValue js (← route.get "ID") "route id"
  let source ← deviceID js (← route.get "Source") "route source"
  let destination ← deviceID js (← route.get "Destination") "route destination"
  let hops ← twoHops (← route.get "Hops")
  let (issuedAtMS, expiresAtMS) ← readTimes js claims route
  let first ← readHop js hops.1 "0"
  let second ← readHop js hops.2 "1"
  failIf (first.fromID ≠ source ∨ first.toID ≠ router ∨ second.fromID ≠ router ∨
    second.toID ≠ destination) (fail "route/router binding is invalid")
  return ⟨kid, jti, router, routeID, source, destination, issuedAtMS, expiresAtMS,
    expiresAtMS.value, first, second⟩

def encodedHop (hop : Hop) : Except Thrown (List UInt8) := do
  let fromID ← encodedString hop.fromID
  let toID ← encodedString hop.toID
  let transport ← encodedString hop.transport
  let cost ← encodedUint64 hop.cost.value
  return fromID ++ (toID ++ (transport ++ cost))

/-- The parts of the message, concatenated. -/
def Signed.encode (s : Signed) : Except Thrown (List UInt8) := do
  let domain ← encodedString routeAuthorizationDomain
  let strings ← [s.kid, routeAuthorizationIssuer, routeAuthorizationAudience,
    routeAuthorizationPermission, s.jti, s.router, s.routeID, s.source,
    s.destination].mapM encodedString
  let issuedAt ← encodedUint64 s.issuedAtMS.value
  let expiresAt ← encodedUint64 s.expiresAtMS.value
  let routeExpiry ← encodedUint64 s.routeExpiryMS
  let hops ← [s.first, s.second].mapM encodedHop
  return domain ++ (encodedUint32 routeAuthorizationVersion ++ (strings.flatten ++ (issuedAt ++
    (expiresAt ++ (routeExpiry ++ (encodedUint32 2 ++ hops.flatten))))))

def canonicalRouteAuthorizationMessage (js : Runtime) (input : Value) :
    Except Thrown (List UInt8) := do
  let values ← readSigned js input
  values.encode

def base64URLDigit (n : Nat) : UInt16 :=
  UInt16.ofNat (if n < 26 then 65 + n else if n < 52 then 71 + n else if n < 62 then n - 4
    else if n = 62 then 45 else 95)

def encodeBase64URL : List UInt8 → Text
  | [] => []
  | [a] => [base64URLDigit (a.toNat / 4), base64URLDigit (a.toNat % 4 * 16)]
  | [a, b] => [base64URLDigit (a.toNat / 4), base64URLDigit (a.toNat % 4 * 16 + b.toNat / 16),
      base64URLDigit (b.toNat % 16 * 4)]
  | a :: b :: c :: rest =>
    base64URLDigit (a.toNat / 4) :: base64URLDigit (a.toNat % 4 * 16 + b.toNat / 16) ::
      base64URLDigit (b.toNat % 16 * 4 + c.toNat / 64) :: base64URLDigit (c.toNat % 64) ::
      encodeBase64URL rest

/-- The object whose message is signed. -/
def unsigned (kid claims : Value) : Value :=
  .object [(text "kid", kid), (text "claims", claims)]

def authorization (kid claims : Value) (signature : List UInt8) : Value :=
  .object [(text "kid", kid), (text "claims", claims),
    (text "signature", .string (encodeBase64URL signature))]

/-- The result of `signRouteAuthorization`. -/
structure Issued where
  route : Value
  authorization : Value

/-- `sign` is the signature with the issuer's key, which may fail. -/
def signRouteAuthorization (js : Runtime) (sign : List UInt8 → Option (List UInt8)) (kid : Value)
    (row : Value) : Except Thrown Issued := do
  let built ← buildRouteAuthorizationClaims js row
  let message ← canonicalRouteAuthorizationMessage js (unsigned kid built.claims)
  let rawSignature ← (sign message).elim (.error .typeError) .ok
  failIf (rawSignature.length ≠ 64)
    (.error "route authorization signer returned an invalid signature")
  return ⟨built.route, authorization kid built.claims rawSignature⟩

section
variable {js : Runtime} {value : Value} {name : String}

theorem deviceID_pattern {s : Text} (h : deviceID js value name = .ok s) :
    deviceIDPattern s = true := by
  simp only [deviceID, bind_eq_ok, failIf_eq_ok] at h
  obtain ⟨_, -, -, valid, ⟨⟩⟩ := h
  exact Bool.not_eq_false _ ▸ valid

theorem transport_known {s : Text} (h : transport js value name = .ok s) :
    s = text "lan" ∨ s = text "internet" := by
  simp only [transport, bind_eq_ok, failIf_eq_ok] at h
  obtain ⟨_, -, -, known, ⟨⟩⟩ := h
  by_contra other
  exact known (not_or.mp other)

theorem safeInteger_range {maximum : Nat} {n : SafeInteger}
    (h : safeInteger js value name maximum = .ok n) : 0 ≤ n.value ∧ n.value ≤ maximum := by
  simp only [safeInteger, bind_eq_ok] at h
  obtain ⟨number, -, h⟩ := h
  split at h
  · cases h
  split at h
  · cases h
  · rename_i range
    cases h
    exact ⟨Int.not_lt.mp (not_or.mp range).1, Int.not_lt.mp (not_or.mp range).2⟩

theorem timestampMS_range {millis : Int} (h : timestampMS js value name = .ok millis) :
    0 < millis ∧ millis.natAbs ≤ maxSafeInteger := by
  simp only [timestampMS, bind_eq_ok] at h
  obtain ⟨s, -, h⟩ := h
  split at h
  · cases h
  split at h
  · cases h
  · rename_i range
    cases h
    exact ⟨Int.not_le.mp (not_or.mp range).2, Nat.not_lt.mp (not_or.mp range).1⟩

end

structure Devices.Checked (d : Devices) : Prop where
  source : deviceIDPattern d.source = true
  router : deviceIDPattern d.router = true
  destination : deviceIDPattern d.destination = true
  sourceRouter : d.source ≠ d.router
  sourceDestination : d.source ≠ d.destination
  routerDestination : d.router ≠ d.destination

structure Legs.Checked (l : Legs) : Prop where
  firstTransport : l.firstTransport = text "lan" ∨ l.firstTransport = text "internet"
  secondTransport : l.secondTransport = text "lan" ∨ l.secondTransport = text "internet"
  firstCost : 0 ≤ l.firstCost.value ∧ l.firstCost.value ≤ maxRouteAuthorizationCost
  secondCost : 0 ≤ l.secondCost.value ∧ l.secondCost.value ≤ maxRouteAuthorizationCost

structure Term.Checked (t : Term) : Prop where
  issued : 0 < t.issuedAtMS
  ordered : t.issuedAtMS < t.expiresAtMS
  lifetime : t.expiresAtMS - t.issuedAtMS ≤ maxRouteAuthorizationLifetimeMS
  safe : t.expiresAtMS.natAbs ≤ maxSafeInteger
  expiresAt : t.expiresAt = ascii (dateText t.expiresAtMS)

/-- What a grant is known to be once its row was accepted. -/
structure Grant.Checked (g : Grant) : Prop where
  jti : jtiPattern g.jti = true
  devices : g.devices.Checked
  legs : g.legs.Checked
  term : g.term.Checked

section
variable {js : Runtime} {row : Value}

theorem checked_of_readDevices {d : Devices} (h : readDevices js row = .ok d) : d.Checked := by
  simp only [readDevices, bind_eq_ok, failIf_eq_ok] at h
  obtain ⟨_, -, source, hsource, _, -, router, hrouter, _, -, destination, hdestination, _,
    distinct, ⟨⟩⟩ := h
  obtain ⟨sourceRouter, rest⟩ := not_or.mp distinct
  obtain ⟨sourceDestination, routerDestination⟩ := not_or.mp rest
  exact ⟨deviceID_pattern hsource, deviceID_pattern hrouter, deviceID_pattern hdestination,
    sourceRouter, sourceDestination, routerDestination⟩

theorem checked_of_readLegs {l : Legs} (h : readLegs js row = .ok l) : l.Checked := by
  simp only [readLegs, bind_eq_ok] at h
  obtain ⟨_, -, first, hfirst, _, -, second, hsecond, _, -, cost, hcost, _, -, cost', hcost',
    ⟨⟩⟩ := h
  exact ⟨transport_known hfirst, transport_known hsecond, safeInteger_range hcost,
    safeInteger_range hcost'⟩

theorem checked_of_readTerm {t : Term} (h : readTerm js row = .ok t) : t.Checked := by
  simp only [readTerm, bind_eq_ok, failIf_eq_ok] at h
  obtain ⟨_, -, issued, hissued, _, -, expires, hexpires, _, lifetime, iso, hiso, ⟨⟩⟩ := h
  obtain ⟨ordered, lifetime⟩ := not_or.mp lifetime
  refine ⟨(timestampMS_range hissued).1, Int.not_le.mp ordered, Int.not_lt.mp lifetime,
    (timestampMS_range hexpires).2, ?_⟩
  unfold toISOString at hiso
  split at hiso
  · exact (Except.ok.inj hiso).symm
  · cases hiso

theorem checked_of_readGrant {g : Grant} (h : readGrant js row = .ok g) : g.Checked := by
  simp only [readGrant, readJTI, bind_eq_ok, failIf_eq_ok] at h
  obtain ⟨_, -, _, -, -, -, _, -, jti, ⟨_, -, _, hjti, ⟨⟩⟩, devices, hdevices, legs, hlegs, _, -, _,
    -, _, -, term, hterm, ⟨⟩⟩ := h
  exact ⟨Bool.not_eq_false _ ▸ hjti, checked_of_readDevices hdevices, checked_of_readLegs hlegs,
    checked_of_readTerm hterm⟩

theorem grant_of_build {built : Built} (h : buildRouteAuthorizationClaims js row = .ok built) :
    ∃ g : Grant, g.Checked ∧ built = ⟨g.route, g.claims⟩ := by
  simp only [buildRouteAuthorizationClaims, bind_eq_ok] at h
  obtain ⟨g, read, ⟨⟩⟩ := h
  exact ⟨g, checked_of_readGrant read, rfl⟩

end

theorem isBase64URL_plain {u : UInt16} (h : isBase64URL u = true) : isPlain u = true := by
  simp only [isBase64URL, Bool.or_eq_true, Bool.and_eq_true, decide_eq_true_eq, beq_iff_eq,
    UInt16.le_iff_toNat_le, ← UInt16.toNat_inj, UInt16.toNat_ofNat] at h
  rw [isPlain_iff]
  omega

theorem isBase32_plain {u : UInt16} (h : isBase32 u = true) : isPlain u = true := by
  simp only [isBase32, Bool.or_eq_true, Bool.and_eq_true, decide_eq_true_eq,
    UInt16.le_iff_toNat_le, UInt16.toNat_ofNat] at h
  rw [isPlain_iff]
  omega

theorem plain_jti {s : Text} (h : jtiPattern s = true) : Plain s := by
  simp only [jtiPattern, Bool.and_eq_true, List.all_eq_true] at h
  exact fun u member => isBase64URL_plain (h.2 u member)

theorem plain_deviceID {s : Text} (h : deviceIDPattern s = true) : Plain s := by
  simp only [deviceIDPattern, Bool.and_eq_true, beq_iff_eq, List.all_eq_true] at h
  obtain ⟨⟨scheme, -⟩, digits⟩ := h
  intro u member
  rw [← take_append_drop 3 s, scheme] at member
  rcases mem_append.mp member with front | back
  · exact (show Plain (text "wd_") by decide) u front
  · exact isBase32_plain (digits u back)

theorem length_deviceID {s : Text} (h : deviceIDPattern s = true) : s.length = 19 := by
  simp only [deviceIDPattern, Bool.and_eq_true, beq_iff_eq] at h
  have front := congrArg length h.1.1
  have whole := congrArg length (take_append_drop 3 s)
  rw [length_append, front, h.1.2] at whole
  exact whole.symm

theorem plain_transport {s : Text} (h : s = text "lan" ∨ s = text "internet") : Plain s := by
  rcases h with rfl | rfl <;> decide

section
variable (js : Runtime) (name : String)

theorem stringValue_plain {s : Text} (plain : Plain s) (given : s ≠ []) :
    stringValue js (.string s) name = .ok s := by
  simp only [stringValue, bind_eq_ok, failIf_eq_ok]
  exact ⟨s, rfl, (), by rwa [trim_plain plain], by rw [trim_plain plain]; rfl⟩

theorem deviceID_self {s : Text} (h : deviceIDPattern s = true) :
    deviceID js (.string s) name = .ok s := by
  have given : s ≠ [] := by
    rintro rfl
    cases h
  simp only [deviceID, bind_eq_ok, failIf_eq_ok]
  exact ⟨s, stringValue_plain js name (plain_deviceID h) given, (), by rw [h]; decide, rfl⟩

theorem readJTI_self {s : Text} (h : jtiPattern s = true) : readJTI js (.string s) = .ok s := by
  have given : s ≠ [] := by
    rintro rfl
    cases h
  simp only [readJTI, bind_eq_ok, failIf_eq_ok]
  exact ⟨s, stringValue_plain js "jti" (plain_jti h) given, (), by rw [h]; decide, rfl⟩

theorem transport_self {s : Text} (h : s = text "lan" ∨ s = text "internet") :
    transport js (.string s) name = .ok s := by
  have given : s ≠ [] := by rcases h with rfl | rfl <;> decide
  have lower : toLowerCase js s = s := by rcases h with rfl | rfl <;> rfl
  simp only [transport, bind_eq_ok, failIf_eq_ok]
  refine ⟨s, stringValue_plain js name (plain_transport h) given, (), ?_, by rw [lower]; rfl⟩
  rw [lower]
  exact fun other => h.elim other.1 other.2

theorem safeInteger_self {n : SafeInteger} {maximum : Nat}
    (range : 0 ≤ n.value ∧ n.value ≤ maximum) :
    safeInteger js (.number n.number) name maximum = .ok n := by
  obtain ⟨number, value, same⟩ := n
  simp only [safeInteger, toNumber, bind, Except.bind]
  split
  · rename_i unsafe'
    rw [same] at unsafe'
    cases unsafe'
  · rename_i m safe
    obtain rfl : value = m := Option.some.inj (same.symm.trans safe)
    rw [if_neg (not_or.mpr ⟨Int.not_lt.mpr range.1, Int.not_lt.mpr range.2⟩)]
    rfl

end

def SafeInteger.of (n : Int) (h : n.natAbs ≤ maxSafeInteger) : SafeInteger :=
  ⟨.int n, n, safeInteger?_int h⟩

theorem Term.Checked.issuedSafe {t : Term} (c : t.Checked) :
    t.issuedAtMS.natAbs ≤ maxSafeInteger := by
  have issued := c.issued
  have ordered := c.ordered
  have safe := c.safe
  omega

/-- The values signed for a grant. -/
def Grant.signed (g : Grant) (c : g.Checked) (kid : Text) : Signed where
  kid := kid
  jti := g.jti
  router := g.devices.router
  routeID := g.id
  source := g.devices.source
  destination := g.devices.destination
  issuedAtMS := .of g.term.issuedAtMS c.term.issuedSafe
  expiresAtMS := .of g.term.expiresAtMS c.term.safe
  routeExpiryMS := g.term.expiresAtMS
  first := ⟨g.devices.source, g.devices.router, g.legs.firstTransport, g.legs.firstCost⟩
  second := ⟨g.devices.router, g.devices.destination, g.legs.secondTransport, g.legs.secondCost⟩

/-- `[A-Za-z0-9_-]`, from 1 to 128 characters -/
def IsKeyID (kid : Text) : Prop := kid ≠ [] ∧ kid.length ≤ 128 ∧ kid.all isBase64URL = true

instance (kid : Text) : Decidable (IsKeyID kid) := inferInstanceAs (Decidable (_ ∧ _))

theorem IsKeyID.plain {kid : Text} (h : IsKeyID kid) : Plain kid := by
  intro u member
  exact isBase64URL_plain (List.all_eq_true.mp h.2.2 u member)

section
variable (js : Runtime) {g : Grant} {kid : Text}

theorem readKeyID_self (key : IsKeyID kid) : readKeyID js (.string kid) = .ok kid := by
  simp only [readKeyID, bind_eq_ok, failIf_eq_ok]
  refine ⟨kid, stringValue_plain js "key id" key.plain key.1, (), ?_, rfl⟩
  rw [not_or]
  refine ⟨Nat.not_lt.mpr key.2.1, ?_⟩
  rw [Bool.not_eq_true, List.any_eq_false]
  intro u member
  have range := isPlain_iff.mp (key.plain u member)
  simp only [contains_iff_mem, mem_cons, not_mem_nil, or_false, ← UInt16.toNat_inj,
    UInt16.toNat_ofNat]
  omega

theorem readTimes_grant (c : g.Checked) (year : FourDigits g.term.expiresAtMS) :
    readTimes js g.claims g.route =
      .ok (.of g.term.issuedAtMS c.term.issuedSafe, .of g.term.expiresAtMS c.term.safe) := by
  have issued := c.term.issued
  have ordered := c.term.ordered
  have lifetime := c.term.lifetime
  have safe := c.term.safe
  simp only [readTimes, bind_eq_ok, failIf_eq_ok]
  refine ⟨_, rfl, _, safeInteger_self js _ (n := .of g.term.issuedAtMS c.term.issuedSafe) ?_, _,
    rfl, _, safeInteger_self js _ (n := .of g.term.expiresAtMS c.term.safe) ?_, (), ?_, _, rfl,
    g.term.expiresAt, rfl, (), ?_, rfl⟩
  · exact ⟨by simp only [SafeInteger.of]; omega, by simp only [SafeInteger.of]; omega⟩
  · exact ⟨by simp only [SafeInteger.of]; omega, by simp only [SafeInteger.of]; omega⟩
  · simp only [SafeInteger.of]
    omega
  · rw [not_not, c.term.expiresAt]
    exact parseDate_dateText js year

theorem readHop_self (index : String) {fromID toID name : Text} {cost : SafeInteger}
    (hfrom : deviceIDPattern fromID = true) (hto : deviceIDPattern toID = true)
    (hname : name = text "lan" ∨ name = text "internet")
    (hcost : 0 ≤ cost.value ∧ cost.value ≤ maxRouteAuthorizationCost) :
    readHop js (hopValue fromID toID name cost) index = .ok ⟨fromID, toID, name, cost⟩ := by
  simp only [readHop, bind_eq_ok]
  exact ⟨_, rfl, _, deviceID_self js _ hfrom, _, rfl, _, deviceID_self js _ hto, _, rfl, _,
    transport_self js _ hname, _, rfl, _, safeInteger_self js _ hcost, rfl⟩

/-- The checks before signing accept the claims that were built. -/
theorem readSigned_grant (c : g.Checked) (plainID : Plain g.id) (givenID : g.id ≠ [])
    (year : FourDigits g.term.expiresAtMS) (key : IsKeyID kid) :
    readSigned js (unsigned (.string kid) g.claims) = .ok (g.signed c kid) := by
  have constants : checkConstants g.claims = .ok () := rfl
  simp only [readSigned, bind_eq_ok, failIf_eq_ok]
  refine ⟨(), by rintro ⟨⟩, _, rfl, kid, readKeyID_self js key, g.claims, rfl, (), by rintro ⟨⟩, (),
    constants, _, rfl, _, readJTI_self js c.jti, _, rfl, _, deviceID_self js _ c.devices.router,
    g.route, rfl, (), by rintro ⟨⟩, _, rfl, _, stringValue_plain js _ plainID givenID, _, rfl, _,
    deviceID_self js _ c.devices.source, _, rfl, _, deviceID_self js _ c.devices.destination, _,
    rfl, _, rfl, _, readTimes_grant js c year, _,
    readHop_self js "0" c.devices.source c.devices.router c.legs.firstTransport c.legs.firstCost, _,
    readHop_self js "1" c.devices.router c.devices.destination c.legs.secondTransport
      c.legs.secondCost, (), ?_, rfl⟩
  simp
end

end RouteIssuer
