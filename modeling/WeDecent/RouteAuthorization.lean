import WeDecent.Library.Codec
import WeDecent.Library.Fallible
import WeDecent.Mesh

/-!
# Signed route authorizations

The control plane signs a single-use capability for one exact route
(`mesh/routeauth.go`). The signature covers `routeAuthorizationMessage`, a
positional encoding of the key ID and the claims: a domain string, fixed-width
integers, strings behind their length and the list of hops behind its count.
-/

namespace RouteAuthorization

open List Codec Fallible GoText GoTime Mesh

def routeAuthorizationVersion : Int64 := 1
def routeAuthorizationIssuer : List UInt8 := literal "wedecent-control-plane"
def routeAuthorizationAudience : List UInt8 := literal "wedecent-mesh-router"
def routeAuthorizationPermission : List UInt8 := literal "mesh.forward"
def routeAuthorizationDomain : List UInt8 := literal "wedecent-mesh-forward-v1"

/-- `MaxRouteAuthorizationLifetime.Milliseconds()` -/
def maxRouteAuthorizationLifetime : Int64 := 120000

structure Claims where
  version : Int64
  issuer : List UInt8
  audience : List UInt8
  permission : List UInt8
  jti : List UInt8
  router : DeviceID
  route : Route
  issuedAtUnixMS : Int64
  expiresUnixMS : Int64
  deriving DecidableEq

structure Authorization where
  keyID : List UInt8
  claims : Claims
  signature : List UInt8
  deriving DecidableEq

inductive AuthError where
  | invalid
  | invalidRoute (cause : RouteError)
  | signature
  | expired
  | notYetValid
  | mismatch
  | mismatchedRoute (cause : RouteError)
  | replay
  | replayMissing
  deriving DecidableEq

/-- `time.UnixMilli(c.ExpiresUnixMS)` -/
def Claims.expiry (c : Claims) : Time := .ofUnixMilli c.expiresUnixMS.toInt

def validateRouteAuthorizationSyntax (auth : Authorization) : Except AuthError Unit :=
  let c := auth.claims
  if blank auth.keyID || auth.keyID.length > 128 || containsAny auth.keyID [13, 10, 9] then
    .error .invalid
  else if c.version ≠ routeAuthorizationVersion ∨ c.issuer ≠ routeAuthorizationIssuer ∨
      c.audience ≠ routeAuthorizationAudience ∨ c.permission ≠ routeAuthorizationPermission ∨
      blank c.router = true ∨ c.issuedAtUnixMS ≤ 0 ∨ c.expiresUnixMS ≤ c.issuedAtUnixMS then
    .error .invalid
  else if (rawURLDecode c.jti).map length ≠ some 16 then .error .invalid
  else
    -- the structure is checked just before the signed expiry, freshness by the verifier
    match c.route.validate (c.expiry.add (-nanosPerMilli)) with
    | .error e => .error (.invalidRoute e)
    | .ok () =>
      match c.route.hops with
      | [first, second] =>
        if first.fromID ≠ c.route.source ∨ first.toID ≠ c.router ∨
            second.fromID ≠ c.router ∨ second.toID ≠ c.route.destination then .error .invalid
        else if c.route.expiresAt ≠ c.expiry.utc then .error .invalid
        else if c.expiresUnixMS - c.issuedAtUnixMS > maxRouteAuthorizationLifetime then
          .error .invalid
        else .ok ()
      | _ => .error .invalid

/-- The loop of `authorizationMatchesRoute`, over hop lists of one length. -/
def hopsMatch (claimed given : List RouteHop) : Bool :=
  (claimed.zip given).all fun (want, got) =>
    want.fromID == got.fromID && want.toID == got.toID && want.transport == got.transport &&
      want.cost == got.cost

def authorizationMatchesRoute (claims : Claims) (route : Route) (router : DeviceID) : Bool :=
  claims.router == router && claims.route.id == route.id &&
    claims.route.source == route.source && claims.route.destination == route.destination &&
    claims.route.expiresAt.utc.unixMilli == route.expiresAt.utc.unixMilli &&
    claims.route.hops.length == route.hops.length && hopsMatch claims.route.hops route.hops

def writeRouteAuthorizationUint32 (b : List UInt8) (value : UInt32) : List UInt8 :=
  b ++ bigEndian 4 value.toNat

def writeRouteAuthorizationUint64 (b : List UInt8) (value : UInt64) : List UInt8 :=
  b ++ bigEndian 8 value.toNat

def writeRouteAuthorizationInt64 (b : List UInt8) (value : Int64) : List UInt8 :=
  writeRouteAuthorizationUint64 b value.toUInt64

def writeRouteAuthorizationString (b value : List UInt8) : Except AuthError (List UInt8) :=
  if value.length > 2 ^ 32 - 1 then .error .invalid
  else .ok (writeRouteAuthorizationUint32 b (UInt32.ofNat value.length) ++ value)

def writeHop (b : List UInt8) (hop : RouteHop) : Except AuthError (List UInt8) := do
  let b ← writeRouteAuthorizationString b hop.fromID
  let b ← writeRouteAuthorizationString b hop.toID
  let b ← writeRouteAuthorizationString b hop.transport
  return writeRouteAuthorizationUint64 b hop.cost

def stringFields (auth : Authorization) : List (List UInt8) :=
  let c := auth.claims
  [auth.keyID, c.issuer, c.audience, c.permission, c.jti, c.router, c.route.id, c.route.source,
    c.route.destination]

def routeAuthorizationMessage (auth : Authorization) : Except AuthError (List UInt8) := do
  validateRouteAuthorizationSyntax { auth with signature := [] }
  let c := auth.claims
  let b ← writeRouteAuthorizationString [] routeAuthorizationDomain
  let b := writeRouteAuthorizationUint32 b c.version.toUInt64.toUInt32
  let b ← (stringFields auth).foldlM writeRouteAuthorizationString b
  let b := writeRouteAuthorizationInt64 b c.issuedAtUnixMS
  let b := writeRouteAuthorizationInt64 b c.expiresUnixMS
  let b := writeRouteAuthorizationInt64 b (Int64.ofInt c.route.expiresAt.utc.unixMilli)
  let b := writeRouteAuthorizationUint32 b (UInt32.ofNat c.route.hops.length)
  c.route.hops.foldlM writeHop b

/-- The strings the message can frame. -/
def Short (text : List UInt8) : Prop := text.length < 256 ^ 4

instance (text : List UInt8) : Decidable (Short text) :=
  inferInstanceAs (Decidable (text.length < 256 ^ 4))

theorem writes_string : Writes Short (framed 4) writeRouteAuthorizationString := by
  intro b text b'
  unfold writeRouteAuthorizationString Short framed writeRouteAuthorizationUint32
  split
  · rename_i long
    constructor
    · intro h
      cases h
    · rintro ⟨short, -⟩
      omega
  · rename_i short
    have exact : (UInt32.ofNat text.length).toNat = text.length := by
      rw [UInt32.toNat_ofNat']
      omega
    rw [exact, append_assoc, Except.ok.injEq, eq_comm]
    constructor
    · intro h
      exact ⟨by omega, h⟩
    · exact And.right

def ShortHop (hop : RouteHop) : Prop :=
  Short hop.fromID ∧ Short hop.toID ∧ Short hop.transport

instance (hop : RouteHop) : Decidable (ShortHop hop) :=
  inferInstanceAs (Decidable (_ ∧ _))

def encodeHop (hop : RouteHop) : List UInt8 :=
  framed 4 hop.fromID ++ (framed 4 hop.toID ++ (framed 4 hop.transport ++
    bigEndian 8 hop.cost.toNat))

theorem writes_hop : Writes ShortHop encodeHop writeHop := by
  intro b hop b'
  simp only [writeHop, bind_eq_ok, writes_string _ _ _, pure, Except.pure, Except.ok.injEq]
  constructor
  · rintro ⟨_, ⟨hfrom, rfl⟩, _, ⟨hto, rfl⟩, _, ⟨htransport, rfl⟩, rfl⟩
    refine ⟨⟨hfrom, hto, htransport⟩, ?_⟩
    simp [writeRouteAuthorizationUint64, encodeHop]
  · rintro ⟨⟨hfrom, hto, htransport⟩, rfl⟩
    refine ⟨_, ⟨hfrom, rfl⟩, _, ⟨hto, rfl⟩, _, ⟨htransport, rfl⟩, ?_⟩
    simp [writeRouteAuthorizationUint64, encodeHop]

/-- The message as one concatenation. -/
def layout (auth : Authorization) : List UInt8 :=
  let c := auth.claims
  framed 4 routeAuthorizationDomain ++ (bigEndian 4 c.version.toUInt64.toUInt32.toNat ++
    ((stringFields auth).flatMap (framed 4) ++ (bigEndian 8 c.issuedAtUnixMS.toUInt64.toNat ++
      (bigEndian 8 c.expiresUnixMS.toUInt64.toNat ++
        (bigEndian 8 (Int64.ofInt c.route.expiresAt.utc.unixMilli).toUInt64.toNat ++
          (bigEndian 4 (UInt32.ofNat c.route.hops.length).toNat ++
            c.route.hops.flatMap encodeHop))))))

/-- The syntax check does not look at the signature. -/
theorem validateSyntax_unsigned (auth : Authorization) :
    validateRouteAuthorizationSyntax { auth with signature := [] } =
      validateRouteAuthorizationSyntax auth := rfl

theorem message_eq_ok {auth : Authorization} {m : List UInt8} :
    routeAuthorizationMessage auth = .ok m ↔
      validateRouteAuthorizationSyntax auth = .ok () ∧ (∀ text ∈ stringFields auth, Short text) ∧
        (∀ hop ∈ auth.claims.route.hops, ShortHop hop) ∧ m = layout auth := by
  have domain : Short routeAuthorizationDomain := by decide
  simp only [routeAuthorizationMessage, bind_eq_ok, validateSyntax_unsigned, writes_string _ _ _,
    writes_string.sequence _ _ _, writes_hop.sequence _ _ _, writeRouteAuthorizationInt64,
    writeRouteAuthorizationUint64, writeRouteAuthorizationUint32, layout]
  constructor
  · rintro ⟨_, syntaxOk, _, ⟨-, rfl⟩, _, ⟨strings, rfl⟩, hops, rfl⟩
    refine ⟨syntaxOk, strings, hops, ?_⟩
    simp
  · rintro ⟨syntaxOk, strings, hops, rfl⟩
    refine ⟨(), syntaxOk, _, ⟨domain, rfl⟩, _, ⟨strings, rfl⟩, hops, ?_⟩
    simp

/-- What an authorization that passes the syntax check is known to be. -/
structure WellFormed (auth : Authorization) : Prop where
  keyGiven : blank auth.keyID = false
  keyShort : auth.keyID.length ≤ 128
  keyPlain : containsAny auth.keyID [13, 10, 9] = false
  version : auth.claims.version = routeAuthorizationVersion
  issuer : auth.claims.issuer = routeAuthorizationIssuer
  audience : auth.claims.audience = routeAuthorizationAudience
  permission : auth.claims.permission = routeAuthorizationPermission
  routerGiven : blank auth.claims.router = false
  issued : 0 < auth.claims.issuedAtUnixMS
  ordered : auth.claims.issuedAtUnixMS < auth.claims.expiresUnixMS
  jti : (rawURLDecode auth.claims.jti).map length = some 16
  route : auth.claims.route.Valid (auth.claims.expiry.add (-nanosPerMilli))
  bound : ∃ first second, auth.claims.route.hops = [first, second] ∧
    first.fromID = auth.claims.route.source ∧ first.toID = auth.claims.router ∧
    second.fromID = auth.claims.router ∧ second.toID = auth.claims.route.destination
  canonical : auth.claims.route.expiresAt = auth.claims.expiry.utc
  lifetime : auth.claims.expiresUnixMS - auth.claims.issuedAtUnixMS ≤
    maxRouteAuthorizationLifetime

theorem validateSyntax_eq_ok {auth : Authorization} :
    validateRouteAuthorizationSyntax auth = .ok () ↔ WellFormed auth := by
  constructor
  · intro h
    unfold validateRouteAuthorizationSyntax at h
    dsimp only at h
    split at h
    · cases h
    rename_i hkey
    split at h
    · cases h
    rename_i hfixed
    split at h
    · cases h
    rename_i hjti
    simp only [Bool.or_eq_true, decide_eq_true_eq, not_or, Bool.not_eq_true, Nat.not_lt] at hkey
    simp only [not_or, not_not, Bool.not_eq_true, Int64.not_le] at hfixed
    rw [not_not] at hjti
    split at h
    · cases h
    rename_i hroute
    split at h
    · rename_i first second hhops
      split_ifs at h with hbound hexpiry hlife
      simp only [not_or, not_not] at hbound
      exact {
        keyGiven := hkey.1.1
        keyShort := hkey.1.2
        keyPlain := hkey.2
        version := hfixed.1
        issuer := hfixed.2.1
        audience := hfixed.2.2.1
        permission := hfixed.2.2.2.1
        routerGiven := hfixed.2.2.2.2.1
        issued := hfixed.2.2.2.2.2.1
        ordered := hfixed.2.2.2.2.2.2
        jti := hjti
        route := Route.validate_eq_ok.mp hroute
        bound := ⟨first, second, hhops, hbound⟩
        canonical := not_not.mp hexpiry
        lifetime := Int64.not_lt.mp hlife }
    · cases h
  · intro w
    obtain ⟨first, second, hhops, hfrom, hto, hfrom', hto'⟩ := w.bound
    unfold validateRouteAuthorizationSyntax
    dsimp only
    rw [if_neg, if_neg, if_neg, Route.validate_eq_ok.mpr w.route]
    · dsimp only
      rw [hhops]
      dsimp only
      rw [if_neg, if_neg, if_neg]
      · exact Int64.not_lt.mpr w.lifetime
      · exact not_not.mpr w.canonical
      · simp [hfrom, hto, hfrom', hto', or_self]
    · exact not_not.mpr w.jti
    · simp only [w.version, w.issuer, w.audience, w.permission, w.routerGiven, ne_eq,
        not_true_eq_false, Bool.false_eq_true, false_or, not_or, Int64.not_le]
      exact ⟨w.issued, w.ordered⟩
    · simp only [w.keyGiven, w.keyPlain, Bool.false_or, Bool.or_false, decide_eq_true_eq,
        Nat.not_lt]
      exact w.keyShort

theorem splits_hop : Splits ShortHop encodeHop := by
  intro a b rest rest' ha hb same
  simp only [encodeHop, append_assoc] at same
  obtain ⟨hfrom, same⟩ := splits_framed 4 _ _ _ _ ha.1 hb.1 same
  obtain ⟨hto, same⟩ := splits_framed 4 _ _ _ _ ha.2.1 hb.2.1 same
  obtain ⟨htransport, same⟩ := splits_framed 4 _ _ _ _ ha.2.2 hb.2.2 same
  obtain ⟨hcost, same⟩ := splits_bigEndian 8 _ _ _ _ a.cost.toNat_lt b.cost.toNat_lt same
  refine ⟨?_, same⟩
  cases a
  cases b
  simp_all [UInt64.toNat_inj]

/-- A 64-bit field, signed or not. -/
theorem splits_int64 {a b : Int64} {rest rest' : List UInt8}
    (same : bigEndian 8 a.toUInt64.toNat ++ rest = bigEndian 8 b.toUInt64.toNat ++ rest') :
    a = b ∧ rest = rest' := by
  obtain ⟨values, tails⟩ :=
    splits_bigEndian 8 _ _ _ _ a.toUInt64.toNat_lt b.toUInt64.toNat_lt same
  refine ⟨?_, tails⟩
  cases a
  cases b
  exact congrArg Int64.ofUInt64 (UInt64.toNat_inj.mp values)

theorem layout_injective {a b : Authorization} (ha : WellFormed a) (hb : WellFormed b)
    (stringsA : ∀ text ∈ stringFields a, Short text)
    (stringsB : ∀ text ∈ stringFields b, Short text)
    (hopsA : ∀ hop ∈ a.claims.route.hops, ShortHop hop)
    (hopsB : ∀ hop ∈ b.claims.route.hops, ShortHop hop) (same : layout a = layout b) :
    a.keyID = b.keyID ∧ a.claims = b.claims := by
  have count : a.claims.route.hops.length = b.claims.route.hops.length := by
    obtain ⟨_, _, twoA, -⟩ := ha.bound
    obtain ⟨_, _, twoB, -⟩ := hb.bound
    rw [twoA, twoB]
    rfl
  simp only [layout, ha.version, hb.version, count] at same
  have same := append_cancel_left (append_cancel_left same)
  obtain ⟨strings, same⟩ := (splits_framed 4).sequence (by rfl) stringsA stringsB same
  obtain ⟨issued, same⟩ := splits_int64 same
  obtain ⟨expires, same⟩ := splits_int64 same
  -- the route's own expiry is the same number once more
  obtain ⟨-, same⟩ := splits_int64 same
  have same := congrArg (· ++ ([] : List UInt8)) (append_cancel_left same)
  obtain ⟨hops, -⟩ := splits_hop.sequence count hopsA hopsB same
  have expiry : a.claims.route.expiresAt = b.claims.route.expiresAt := by
    rw [ha.canonical, hb.canonical, Claims.expiry, Claims.expiry, expires]
  simp only [stringFields, List.cons.injEq, and_true] at strings
  obtain ⟨key, issuer, audience, permission, jti, router, id, source, destination⟩ := strings
  refine ⟨key, ?_⟩
  have version : a.claims.version = b.claims.version := ha.version.trans hb.version.symm
  have route : a.claims.route = b.claims.route := by
    cases hra : a.claims.route
    cases hrb : b.claims.route
    simp_all
  cases hca : a.claims
  cases hcb : b.claims
  simp_all

/-- All strings of the authorization are shorter than 2^32 bytes. -/
def ShortFields (auth : Authorization) : Prop :=
  (∀ text ∈ stringFields auth, Short text) ∧ ∀ hop ∈ auth.claims.route.hops, ShortHop hop

instance (auth : Authorization) : Decidable (ShortFields auth) :=
  inferInstanceAs (Decidable (_ ∧ _))

/-- A message is returned for every well-formed authorization, and no two of them that
differ in the key ID or in a claim share one. -/
theorem message_unambiguous {a b : Authorization}
    (syntaxA : validateRouteAuthorizationSyntax a = .ok ())
    (syntaxB : validateRouteAuthorizationSyntax b = .ok ())
    (shortA : ShortFields a) (shortB : ShortFields b) :
    ∃ m m', routeAuthorizationMessage a = .ok m ∧ routeAuthorizationMessage b = .ok m' ∧
      (m = m' → a.keyID = b.keyID ∧ a.claims = b.claims) := by
  refine ⟨layout a, layout b, ?_, ?_, ?_⟩
  · exact message_eq_ok.mpr ⟨syntaxA, shortA.1, shortA.2, rfl⟩
  · exact message_eq_ok.mpr ⟨syntaxB, shortB.1, shortB.2, rfl⟩
  · exact layout_injective (validateSyntax_eq_ok.mp syntaxA) (validateSyntax_eq_ok.mp syntaxB)
      shortA.1 shortB.1 shortA.2 shortB.2

/-- The authorization of the cross-language test, up to its signature. -/
def sample : Authorization where
  keyID := literal "test-route-key-1"
  claims := {
    version := routeAuthorizationVersion
    issuer := routeAuthorizationIssuer
    audience := routeAuthorizationAudience
    permission := routeAuthorizationPermission
    jti := literal "AAECAwQFBgcICQoLDA0ODw"
    router := literal "wd_bbbbbbbbbbbbbbbb"
    route := {
      id := literal "00000000-0000-4000-8000-000000000001"
      source := literal "wd_aaaaaaaaaaaaaaaa"
      destination := literal "wd_cccccccccccccccc"
      hops := [
        ⟨literal "wd_aaaaaaaaaaaaaaaa", literal "wd_bbbbbbbbbbbbbbbb", transportInternet, 10⟩,
        ⟨literal "wd_bbbbbbbbbbbbbbbb", literal "wd_cccccccccccccccc", transportLAN, 20⟩]
      expiresAt := ⟨1800000060000000000, .utc⟩ }
    issuedAtUnixMS := 1800000000000
    expiresUnixMS := 1800000060000 }
  signature := []

/-- With the signature of that test -/
def signedSample : Authorization :=
  { sample with
    signature := literal "N78uguODnD-5_fs_deqgLrC_9_mY3a4O3dg2hB8mplLvxHI76v-" ++
      literal "YHBhlzID-QS6vKbOatzTS2K5yNbXcFOo5DQ" }

/-- The same authorization for a second hop that costs one more. -/
def dearer : Authorization :=
  { sample with claims.route.hops :=
      [⟨literal "wd_aaaaaaaaaaaaaaaa", literal "wd_bbbbbbbbbbbbbbbb", transportInternet, 10⟩,
        ⟨literal "wd_bbbbbbbbbbbbbbbb", literal "wd_cccccccccccccccc", transportLAN, 21⟩] }

theorem message_unambiguous_dearer :
    routeAuthorizationMessage sample ≠ routeAuthorizationMessage dearer := by
  obtain ⟨m, m', hm, hm', unambiguous⟩ := message_unambiguous (a := sample) (b := dearer)
    (by decide +kernel) (by decide +kernel) (by decide) (by decide)
  intro same
  rw [hm, hm', Except.ok.injEq] at same
  have costs := congrArg (fun c => c.route.hops.map RouteHop.cost) (unambiguous same).2
  exact absurd costs (by decide)

end RouteAuthorization
