import WeDecent.RouteIssuer
import WeDecent.RouteJson

/-!
# Issuer and router agree

The issuer signs in JavaScript, the router verifies in Go. In between, the
authorization is JSON. For every grant that the issuer accepts, the router decodes
an authorization that is well formed and whose message is the one that was signed.
-/

namespace RouteAgreement

open List Option

open Codec Fallible GoText GoTime GoUnmarshal JavaScript Mesh RouteAuthorization
  RouteIssuer RouteJson

/-- The cost of a hop on the router's side. -/
def cost (n : SafeInteger) : UInt64 := UInt64.ofNat n.value.toNat

/-- What the router decodes of an authorization. -/
def received (g : Grant) (kid : Text) (signature : List UInt8) : Authorization where
  keyID := utf8 kid
  claims := {
    version := RouteAuthorization.routeAuthorizationVersion
    issuer := RouteAuthorization.routeAuthorizationIssuer
    audience := RouteAuthorization.routeAuthorizationAudience
    permission := RouteAuthorization.routeAuthorizationPermission
    jti := utf8 g.jti
    router := utf8 g.devices.router
    route := {
      id := utf8 g.id
      source := utf8 g.devices.source
      destination := utf8 g.devices.destination
      hops := [⟨utf8 g.devices.source, utf8 g.devices.router, utf8 g.legs.firstTransport,
          cost g.legs.firstCost⟩,
        ⟨utf8 g.devices.router, utf8 g.devices.destination, utf8 g.legs.secondTransport,
          cost g.legs.secondCost⟩]
      expiresAt := ⟨g.term.expiresAtMS * nanosPerMilli, .utc⟩ }
    issuedAtUnixMS := Int64.ofInt g.term.issuedAtMS
    expiresUnixMS := Int64.ofInt g.term.expiresAtMS }
  signature := utf8 (encodeBase64URL signature)

variable {s : Text}

theorem encodedString_short (short : Short (utf8 s)) :
    encodedString s = .ok (framed 4 (utf8 s)) := by
  simp only [encodedString, bind_eq_ok, failIf_eq_ok]
  refine ⟨(), ?_, rfl⟩
  unfold Short at short
  omega

theorem encodedUint64_nat {n : Int} (low : 0 ≤ n) (high : n < 2 ^ 64) :
    encodedUint64 n = .ok (bigEndian 8 n.toNat) := by
  simp only [encodedUint64, bind_eq_ok, failIf_eq_ok]
  exact ⟨(), by omega, rfl⟩

theorem cost_toNat {n : SafeInteger} (range : 0 ≤ n.value ∧ n.value ≤ maxRouteAuthorizationCost) :
    (cost n).toNat = n.value.toNat := by
  have high : n.value ≤ 1000000000 := range.2
  rw [cost, UInt64.toNat_ofNat']
  omega

theorem int64_toNat {n : Int} (low : 0 ≤ n) (high : n < 2 ^ 63) :
    (Int64.ofInt n).toUInt64.toNat = n.toNat := by
  obtain ⟨k, rfl⟩ := Int.eq_ofNat_of_zero_le low
  rw [Int64.ofInt_eq_ofNat, Int64.toUInt64_ofNat', UInt64.toNat_ofNat', Int.toNat_natCast]
  omega

theorem encodedHop_short (hop : Hop) (hfrom : Short (utf8 hop.fromID)) (hto : Short (utf8 hop.toID))
    (hname : Short (utf8 hop.transport))
    (range : 0 ≤ hop.cost.value ∧ hop.cost.value ≤ maxRouteAuthorizationCost) :
    encodedHop hop =
      .ok (encodeHop ⟨utf8 hop.fromID, utf8 hop.toID, utf8 hop.transport, cost hop.cost⟩) := by
  have high : hop.cost.value ≤ 1000000000 := range.2
  simp only [encodedHop, bind_eq_ok]
  refine ⟨_, encodedString_short hfrom, _, encodedString_short hto, _, encodedString_short hname, _,
    encodedUint64_nat range.1 (by omega), ?_⟩
  rw [encodeHop, cost_toNat range]
  rfl

/-- The hexadecimal digits of a UUID. -/
def isHex (u : UInt16) : Bool :=
  (48 ≤ u && u ≤ 57) || (65 ≤ u && u ≤ 70) || (97 ≤ u && u ≤ 102)

/-- Groups of 8, 4, 4, 4 and 12 hexadecimal digits between hyphens. -/
def IsUUID (s : Text) : Prop :=
  s.length = 36 ∧
    s.zipIdx.all (fun p => if p.2 ∈ [8, 13, 18, 23] then p.1 == 45 else isHex p.1) = true

instance (s : Text) : Decidable (IsUUID s) := inferInstanceAs (Decidable (_ ∧ _))

/-- The beginning of the year 10000. -/
def year10000 : Int := 253402300800000

/-- A grant that was read from an accepted row, and the key it is signed with. -/
structure Ready (g : Grant) (kid : Text) : Prop where
  checked : g.Checked
  uuid : IsUUID g.id
  early : g.term.expiresAtMS < year10000
  key : IsKeyID kid

theorem plain_uuid (h : IsUUID s) : Plain s := by
  intro u member
  obtain ⟨i, found⟩ := mem_iff_getElem?.mp member
  have inside : (u, i) ∈ s.zipIdx := mk_mem_zipIdx_iff_getElem?.mpr found
  have shape := List.all_eq_true.mp h.2 _ inside
  dsimp only at shape
  split at shape
  · rw [beq_iff_eq.mp shape]
    decide
  · simp only [isHex, Bool.or_eq_true, Bool.and_eq_true, decide_eq_true_eq, UInt16.le_iff_toNat_le,
      UInt16.toNat_ofNat] at shape
    rw [isPlain_iff]
    omega

namespace Ready
variable {g : Grant} {kid : Text} (r : Ready g kid)
include r

theorem givenID : g.id ≠ [] := by
  intro empty
  have length := r.uuid.1
  rw [empty] at length
  cases length

theorem fourDigits : FourDigits g.term.expiresAtMS := by
  have early := r.early
  have issued := r.checked.term.issued
  have ordered := r.checked.term.ordered
  have first : Calendar.firstDay 0 = -719528 := by decide
  have last : Calendar.firstDay 10000 = 2932897 := by decide
  unfold year10000 at early
  obtain ⟨low, high⟩ : 0 ≤ (Calendar.Date.ofDay (g.term.expiresAtMS / 86400000)).year ∧
      (Calendar.Date.ofDay (g.term.expiresAtMS / 86400000)).year < 10000 :=
    Calendar.Date.year_bounds (by omega) (by omega)
  exact ⟨low, by omega⟩

theorem plainTerm : Plain g.term.expiresAt := by
  rw [r.checked.term.expiresAt]
  exact plain_dateText r.fourDigits

/-- All times fit 63 bits. -/
theorem small : g.term.issuedAtMS < 2 ^ 63 ∧ g.term.expiresAtMS < 2 ^ 63 := by
  have early := r.early
  have ordered := r.checked.term.ordered
  unfold year10000 at early
  omega

end Ready

theorem short_plain (plain : Plain s) (short : s.length ≤ 128) : Short (utf8 s) := by
  unfold Short
  rw [utf8_length plain]
  omega

section
variable {g : Grant} {kid : Text} (r : Ready g kid)
include r

theorem short_source : Short (utf8 g.devices.source) :=
  short_plain (plain_deviceID r.checked.devices.source)
    (by rw [length_deviceID r.checked.devices.source]; decide)

theorem short_router : Short (utf8 g.devices.router) :=
  short_plain (plain_deviceID r.checked.devices.router)
    (by rw [length_deviceID r.checked.devices.router]; decide)

theorem short_destination : Short (utf8 g.devices.destination) :=
  short_plain (plain_deviceID r.checked.devices.destination)
    (by rw [length_deviceID r.checked.devices.destination]; decide)

theorem short_first : Short (utf8 g.legs.firstTransport) := by
  rcases r.checked.legs.firstTransport with h | h <;> rw [h] <;> decide

theorem short_second : Short (utf8 g.legs.secondTransport) := by
  rcases r.checked.legs.secondTransport with h | h <;> rw [h] <;> decide

/-- The strings of the message, as the issuer has them. -/
theorem short_strings : ∀ s ∈ [kid, routeAuthorizationIssuer,
    routeAuthorizationAudience, routeAuthorizationPermission, g.jti,
    g.devices.router, g.id, g.devices.source, g.devices.destination], Short (utf8 s) := by
  have hjti : g.jti.length = 22 := by
    have pattern := r.checked.jti
    simp only [jtiPattern, Bool.and_eq_true, beq_iff_eq] at pattern
    exact pattern.1
  simp only [mem_cons, not_mem_nil, or_false]
  rintro s (rfl | rfl | rfl | rfl | rfl | rfl | rfl | rfl | rfl)
  · exact short_plain r.key.plain r.key.2.1
  · decide
  · decide
  · decide
  · exact short_plain (plain_jti r.checked.jti) (by omega)
  · exact short_router r
  · exact short_plain (plain_uuid r.uuid) (by rw [r.uuid.1]; decide)
  · exact short_source r
  · exact short_destination r

/-- A hop on the router's side. -/
theorem encodedHops : [(g.signed r.checked kid).first, (g.signed r.checked kid).second].mapM
    encodedHop = .ok ((received g kid []).claims.route.hops.map encodeHop) := by
  have first := encodedHop_short (g.signed r.checked kid).first (short_source r)
    (short_router r) (short_first r) r.checked.legs.firstCost
  have second := encodedHop_short (g.signed r.checked kid).second (short_router r)
    (short_destination r) (short_second r) r.checked.legs.secondCost
  rw [mapM_cons, mapM_cons, first, second]
  rfl

/-- The bytes the issuer signs are the router's layout of what it receives. -/
theorem encode_signed (signature : List UInt8) :
    (g.signed r.checked kid).encode = .ok (layout (received g kid signature)) := by
  have issued := r.checked.term.issued
  have ordered := r.checked.term.ordered
  have small := r.small
  have strings := mapM_eq_ok fun s member => encodedString_short (short_strings r s member)
  have expiry : (⟨g.term.expiresAtMS * nanosPerMilli, .utc⟩ : Time).utc.unixMilli =
      g.term.expiresAtMS := Time.unixMilli_ofUnixMilli g.term.expiresAtMS
  simp only [Signed.encode, bind_eq_ok]
  refine ⟨_, encodedString_short (by decide), _, strings, _,
    encodedUint64_nat (n := g.term.issuedAtMS) (by omega) (by omega), _,
    encodedUint64_nat (n := g.term.expiresAtMS) (by omega) (by omega), _,
    encodedUint64_nat (n := g.term.expiresAtMS) (by omega) (by omega), _, encodedHops r, ?_⟩
  simp only [layout, received, expiry, int64_toNat (Int.le_of_lt issued) small.1,
    int64_toNat (Int.le_of_lt (Int.lt_trans issued ordered)) small.2]
  rfl

end

/-- A property name in JSON. -/
def name (s : String) : List UInt8 := utf8 (escapeText (text s))

def hopTree (fromID toID transport : Text) (n : SafeInteger) : Json :=
  .object [(name "From", .string (utf8 fromID)), (name "To", .string (utf8 toID)),
    (name "Transport", .string (utf8 transport)),
    (name "Cost", .number (Decimal.numeral n.value.toNat))]

def routeTree (g : Grant) : Json :=
  .object [(name "ID", .string (utf8 g.id)), (name "Source", .string (utf8 g.devices.source)),
    (name "Destination", .string (utf8 g.devices.destination)),
    (name "Hops", .array
      [hopTree g.devices.source g.devices.router g.legs.firstTransport g.legs.firstCost,
        hopTree g.devices.router g.devices.destination g.legs.secondTransport g.legs.secondCost]),
    (name "ExpiresAt", .string (utf8 g.term.expiresAt))]

def claimsTree (g : Grant) : Json :=
  .object [(name "v", .number (Decimal.numeral routeAuthorizationVersion)),
    (name "iss", .string (utf8 routeAuthorizationIssuer)),
    (name "aud", .string (utf8 routeAuthorizationAudience)),
    (name "permission", .string (utf8 routeAuthorizationPermission)),
    (name "jti", .string (utf8 g.jti)), (name "router", .string (utf8 g.devices.router)),
    (name "route", routeTree g),
    (name "iat_unix_ms", .number (Decimal.numeral g.term.issuedAtMS.toNat)),
    (name "exp_unix_ms", .number (Decimal.numeral g.term.expiresAtMS.toNat))]

def tree (g : Grant) (kid : Text) (signature : List UInt8) : Json :=
  .object [(name "kid", .string (utf8 kid)), (name "claims", claimsTree g),
    (name "signature", .string (utf8 (encodeBase64URL signature)))]

theorem base64URLDigit_plain {n : Nat} (h : n < 64) : isPlain (base64URLDigit n) = true := by
  rw [isPlain_iff, base64URLDigit, UInt16.toNat_ofNat']
  split_ifs <;> omega

theorem plain_encodeBase64URL (bytes : List UInt8) : Plain (encodeBase64URL bytes) := by
  induction bytes using encodeBase64URL.induct with
  | case1 => nofun
  | case2 a =>
    have ha := a.toNat_lt
    intro u member
    simp only [encodeBase64URL, mem_cons, not_mem_nil, or_false] at member
    rcases member with rfl | rfl <;> exact base64URLDigit_plain (by omega)
  | case3 a b =>
    have ha := a.toNat_lt
    have hb := b.toNat_lt
    intro u member
    simp only [encodeBase64URL, mem_cons, not_mem_nil, or_false] at member
    rcases member with rfl | rfl | rfl <;> exact base64URLDigit_plain (by omega)
  | case4 a b c _ ih =>
    have ha := a.toNat_lt
    have hb := b.toNat_lt
    have hc := c.toNat_lt
    intro u member
    simp only [encodeBase64URL, mem_cons] at member
    rcases member with rfl | rfl | rfl | rfl | member
    · exact base64URLDigit_plain (by omega)
    · exact base64URLDigit_plain (by omega)
    · exact base64URLDigit_plain (by omega)
    · exact base64URLDigit_plain (by omega)
    · exact ih u member

section
variable (js : Runtime) {g : Grant} {kid : Text}

theorem serialize_number {n : SafeInteger} (positive : 0 ≤ n.value) :
    serialize js (.number n.number) = some (.number (Decimal.numeral n.value.toNat)) := by
  rw [serialize, numberJson_safe js n.same positive]

theorem serialize_hop {fromID toID transport : Text} {n : SafeInteger} (hfrom : Plain fromID)
    (hto : Plain toID) (htransport : Plain transport) (positive : 0 ≤ n.value) :
    serialize js (hopValue fromID toID transport n) = some (hopTree fromID toID transport n) := by
  simp [hopValue, hopTree, serialize.eq_7, serializeProperties, serialize_plain js hfrom,
    serialize_plain js hto, serialize_plain js htransport, serialize_number js positive, name]

theorem serialize_route (r : Ready g kid) : serialize js g.route = some (routeTree g) := by
  have c := r.checked
  have source := plain_deviceID c.devices.source
  have router := plain_deviceID c.devices.router
  have destination := plain_deviceID c.devices.destination
  have first := serialize_hop js source router (plain_transport c.legs.firstTransport)
    c.legs.firstCost.1
  have second := serialize_hop js router destination (plain_transport c.legs.secondTransport)
    c.legs.secondCost.1
  simp [Grant.route, Grant.hops, routeTree, serialize.eq_7, serialize.eq_6, serializeProperties,
    serializeItems, serialize_plain js (plain_uuid r.uuid), serialize_plain js source,
    serialize_plain js destination, serialize_plain js r.plainTerm, first, second, name]

theorem serialize_claims (r : Ready g kid) : serialize js g.claims = some (claimsTree g) := by
  have c := r.checked
  have issued := c.term.issued
  have ordered := c.term.ordered
  have issuedAt : serialize js (.number (.int g.term.issuedAtMS)) = _ :=
    serialize_number js (n := .of g.term.issuedAtMS c.term.issuedSafe) (Int.le_of_lt issued)
  have expiresAt : serialize js (.number (.int g.term.expiresAtMS)) = _ :=
    serialize_number js (n := .of g.term.expiresAtMS c.term.safe)
      (Int.le_of_lt (Int.lt_trans issued ordered))
  have version : serialize js (.number (.int routeAuthorizationVersion)) = _ :=
    serialize_number js (n := .of routeAuthorizationVersion (by decide)) (by decide)
  simp only [Grant.claims, claimsTree, serialize.eq_7, serializeProperties, version,
    serialize_plain js (show Plain routeAuthorizationIssuer by decide),
    serialize_plain js (show Plain routeAuthorizationAudience by decide),
    serialize_plain js (show Plain routeAuthorizationPermission by decide),
    serialize_plain js (plain_jti c.jti), serialize_plain js (plain_deviceID c.devices.router),
    serialize_route js r, issuedAt, expiresAt, name]
  rfl

theorem stringify_authorization (r : Ready g kid) (signature : List UInt8) :
    stringify js (authorization (.string kid) g.claims signature) =
      some (tree g kid signature).render := by
  simp [stringify, authorization, tree, serialize.eq_7, serializeProperties, serialize_plain js
    r.key.plain, serialize_claims js r, serialize_plain js (plain_encodeBase64URL signature), name]

end

section
variable {g : Grant} {kid : Text}

variable {depth : Nat}

theorem fits_string {s : Text} (plain : Plain s) :
    Json.Fits depth (.string (utf8 s)) := Json.fits_scalar (JavaScript.rawFits_plain plain)

theorem fits_numeral {n : Nat} : Json.Fits depth (.number (Decimal.numeral n)) :=
  Json.fits_scalar (Json.numeral_fits n)

theorem fits_hop {fromID toID transport : Text} {n : SafeInteger} (hfrom : Plain fromID)
    (hto : Plain toID) (htransport : Plain transport) :
    Json.Fits (depth + 1) (hopTree fromID toID transport n) := by
  apply Json.fits_object
  simp only [forall_mem_cons, Json.MemberFits]
  exact ⟨⟨by decide, fits_string hfrom⟩, ⟨by decide, fits_string hto⟩,
    ⟨by decide, fits_string htransport⟩, ⟨by decide, fits_numeral⟩, nofun⟩

theorem fits_route (r : Ready g kid) : Json.Fits (depth + 3) (routeTree g) := by
  have c := r.checked
  have source := plain_deviceID c.devices.source
  have router := plain_deviceID c.devices.router
  have destination := plain_deviceID c.devices.destination
  have hops : ∀ item ∈
      [hopTree g.devices.source g.devices.router g.legs.firstTransport g.legs.firstCost,
        hopTree g.devices.router g.devices.destination g.legs.secondTransport g.legs.secondCost],
      Json.Fits (depth + 1) item := by
    simp only [forall_mem_cons]
    exact ⟨fits_hop source router (plain_transport c.legs.firstTransport),
      fits_hop router destination (plain_transport c.legs.secondTransport), nofun⟩
  apply Json.fits_object
  simp only [forall_mem_cons, Json.MemberFits]
  exact ⟨⟨by decide, fits_string (plain_uuid r.uuid)⟩, ⟨by decide, fits_string source⟩,
    ⟨by decide, fits_string destination⟩, ⟨by decide, Json.fits_array hops⟩,
    ⟨by decide, fits_string r.plainTerm⟩, nofun⟩

theorem fits_claims (r : Ready g kid) : Json.Fits (depth + 4) (claimsTree g) := by
  have c := r.checked
  apply Json.fits_object
  simp only [forall_mem_cons, Json.MemberFits]
  exact ⟨⟨by decide, fits_numeral⟩, ⟨by decide, fits_string (by decide)⟩,
    ⟨by decide, fits_string (by decide)⟩, ⟨by decide, fits_string (by decide)⟩,
    ⟨by decide, fits_string (plain_jti c.jti)⟩,
    ⟨by decide, fits_string (plain_deviceID c.devices.router)⟩, ⟨by decide, fits_route r⟩,
    ⟨by decide, fits_numeral⟩, ⟨by decide, fits_numeral⟩, nofun⟩

theorem fits_tree (r : Ready g kid) (signature : List UInt8) :
    Json.Fits (depth + 5) (tree g kid signature) := by
  apply Json.fits_object
  simp only [forall_mem_cons, Json.MemberFits]
  exact ⟨⟨by decide, fits_string r.key.plain⟩, ⟨by decide, fits_claims r⟩,
    ⟨by decide, fits_string (plain_encodeBase64URL signature)⟩, nofun⟩

theorem unquote_utf8 {s : Text} (plain : Plain s) : unquote (utf8 s) = utf8 s := by
  apply unquote_plain
  intro c member
  have range := mem_utf8 plain member
  simp only [UInt8.lt_iff_toNat_lt, ne_eq, ← UInt8.toNat_inj, UInt8.toNat_ofNat]
  omega

theorem string_plain {s : Text} (plain : Plain s) (old : List UInt8) :
    GoUnmarshal.string old (.string (utf8 s)) = some (utf8 s) := by
  rw [GoUnmarshal.string, unquote_utf8 plain]

theorem decode_hop {fromID toID transport : Text} {n : SafeInteger} (hfrom : Plain fromID)
    (hto : Plain toID) (htransport : Plain transport)
    (range : 0 ≤ n.value ∧ n.value ≤ maxRouteAuthorizationCost) :
    struct hopFields zeroHop (hopTree fromID toID transport n) =
      some ⟨utf8 fromID, utf8 toID, utf8 transport, cost n⟩ := by
  have high : n.value ≤ 1000000000 := range.2
  have hcost (old : UInt64) :
      uint64 old (.number (Decimal.numeral n.value.toNat)) = some (cost n) :=
    parseUint64_numeral (by omega)
  exact storeMembers_cons (storeMember_known rfl (string_plain hfrom _))
    (storeMembers_cons (storeMember_known rfl (string_plain hto _))
      (storeMembers_cons (storeMember_known rfl (string_plain htransport _))
        (storeMembers_cons (storeMember_known rfl (hcost _)) rfl)))

theorem decode_expiry (zones : Zones) (r : Ready g kid) (old : Time) :
    time zones old (.string (utf8 g.term.expiresAt)) =
      some ⟨g.term.expiresAtMS * nanosPerMilli, .utc⟩ := by
  have year := r.fourDigits
  have bytes : utf8 g.term.expiresAt = dateText g.term.expiresAtMS := by
    rw [utf8_plain r.plainTerm, r.checked.term.expiresAt, map_ascii]
  have instant : g.term.expiresAtMS / 1000 * 1000000000 +
      ((g.term.expiresAtMS % 1000).toNat : Int) * 1000000 = g.term.expiresAtMS * nanosPerMilli := by
    rw [nanosPerMilli]
    omega
  rw [time, bytes, dateText_fourDigits year, parseRFC3339_millis zones _ year.1 year.2 (by omega),
    seconds_dateText, instant]
  rfl

theorem decode_route (zones : Zones) (r : Ready g kid) (signature : List UInt8) :
    struct (routeFields zones) zeroRoute (routeTree g) =
      some (received g kid signature).claims.route := by
  have c := r.checked
  have source := plain_deviceID c.devices.source
  have router := plain_deviceID c.devices.router
  have destination := plain_deviceID c.devices.destination
  have first := decode_hop source router (plain_transport c.legs.firstTransport) c.legs.firstCost
  have second := decode_hop router destination (plain_transport c.legs.secondTransport)
    c.legs.secondCost
  have hops : slice zeroHop (struct hopFields) [] (.array
      [hopTree g.devices.source g.devices.router g.legs.firstTransport g.legs.firstCost,
        hopTree g.devices.router g.devices.destination g.legs.secondTransport
          g.legs.secondCost]) = some (received g kid signature).claims.route.hops := by
    simp only [slice, fill, headD_nil, tail_nil, first, second, bind, bind_some]
    rfl
  exact storeMembers_cons (storeMember_known rfl (string_plain (plain_uuid r.uuid) _))
    (storeMembers_cons (storeMember_known rfl (string_plain source _))
      (storeMembers_cons (storeMember_known rfl (string_plain destination _))
        (storeMembers_cons (storeMember_known rfl hops)
          (storeMembers_cons (storeMember_known rfl (decode_expiry zones r _)) rfl))))

theorem decode_millis {n : Int} (low : 0 ≤ n) (high : n < 2 ^ 63) (old : Int64) :
    int64 old (.number (Decimal.numeral n.toNat)) = some (Int64.ofInt n) := by
  have exact := parseInt64_numeral (n := n.toNat) (by omega)
  rwa [Int.toNat_of_nonneg low] at exact

theorem decode_claims (zones : Zones) (r : Ready g kid) (signature : List UInt8) :
    struct (claimsFields zones) zeroClaims (claimsTree g) =
      some (received g kid signature).claims := by
  have c := r.checked
  have issued := c.term.issued
  have ordered := c.term.ordered
  have small := r.small
  have version (old : Int64) : int64 old (.number (Decimal.numeral routeAuthorizationVersion)) =
        some RouteAuthorization.routeAuthorizationVersion := rfl
  exact storeMembers_cons (storeMember_known rfl (version _))
    (storeMembers_cons (storeMember_known rfl (string_plain (by decide) _))
      (storeMembers_cons (storeMember_known rfl (string_plain (by decide) _))
        (storeMembers_cons (storeMember_known rfl (string_plain (by decide) _))
          (storeMembers_cons (storeMember_known rfl (string_plain (plain_jti c.jti) _))
            (storeMembers_cons
              (storeMember_known rfl (string_plain (plain_deviceID c.devices.router) _))
              (storeMembers_cons (storeMember_known rfl (decode_route zones r signature))
                (storeMembers_cons (storeMember_known rfl (decode_millis (by omega) small.1 _))
                  (storeMembers_cons
                    (storeMember_known rfl (decode_millis (by omega) small.2 _)) rfl))))))))

theorem unmarshal_tree (zones : Zones) (r : Ready g kid) (signature : List UInt8) :
    unmarshalAuthorization zones (tree g kid signature).render =
      some (received g kid signature) := by
  have fits : Json.Fits maxNestingDepth (tree g kid signature) := fits_tree r signature
  have parsed := Json.parse_render fits
  rw [unmarshalAuthorization, unmarshal, parsed, bind_some]
  exact storeMembers_cons (storeMember_known rfl (string_plain r.key.plain _))
    (storeMembers_cons (storeMember_known rfl (decode_claims zones r signature)) (storeMembers_cons
        (storeMember_known rfl (string_plain (plain_encodeBase64URL signature) _)) rfl))

end

theorem blank_plain (plain : Plain s) (given : s ≠ []) : blank (utf8 s) = false := by
  have graphic : ∀ c ∈ utf8 s, GoText.graphic c = true := by
    intro c member
    have range := mem_utf8 plain member
    exact GoText.graphic_iff.mpr ⟨range.1, range.2.1⟩
  rw [blank, trimSpace_graphic graphic, utf8_plain plain, isEmpty_map]
  exact isEmpty_eq_false_iff.mpr given

theorem blank_deviceID (h : deviceIDPattern s = true) : blank (utf8 s) = false := by
  refine blank_plain (plain_deviceID h) ?_
  rintro rfl
  cases h

theorem blank_transport (h : s = text "lan" ∨ s = text "internet") : blank (utf8 s) = false := by
  rcases h with rfl | rfl <;> decide

theorem base64Value_url {u : UInt16} (h : isBase64URL u = true) :
    ∃ n, base64Value u.toUInt8 = some n := by
  have code := toUInt8_plain (isBase64URL_plain h)
  simp only [isBase64URL, Bool.or_eq_true, Bool.and_eq_true, decide_eq_true_eq, beq_iff_eq,
    UInt16.le_iff_toNat_le, ← UInt16.toNat_inj, UInt16.toNat_ofNat] at h
  unfold base64Value
  dsimp only
  split_ifs
  · exact ⟨_, rfl⟩
  · exact ⟨_, rfl⟩
  · exact ⟨_, rfl⟩
  · exact ⟨_, rfl⟩
  · exact ⟨_, rfl⟩
  · omega

/-- Sixteen bytes take twenty-two characters. -/
theorem jti_decodes (h : jtiPattern s = true) :
    (rawURLDecode (utf8 s)).map List.length = some 16 := by
  have plain := plain_jti h
  simp only [jtiPattern, Bool.and_eq_true, beq_iff_eq, List.all_eq_true] at h
  obtain ⟨length, url⟩ := h
  have digits : ∀ c ∈ utf8 s, ∃ n, base64Value c = some n := by
    intro c member
    rw [utf8_plain plain] at member
    obtain ⟨u, inside, rfl⟩ := List.mem_map.mp member
    exact base64Value_url (url u inside)
  obtain ⟨bytes, decoded, count⟩ := rawURLDecode_digits digits
    (by rw [utf8_length plain, length]; decide)
  rw [decoded, map_some, count, utf8_length plain, length]

theorem wellFormed_received {g : Grant} {kid : Text} (r : Ready g kid) (signature : List UInt8) :
    WellFormed (received g kid signature) := by
  have c := r.checked
  have issued := c.term.issued
  have ordered := c.term.ordered
  have lifetime := c.term.lifetime
  have small := r.small
  have issuedAt : (Int64.ofInt g.term.issuedAtMS).toInt = g.term.issuedAtMS :=
    Int64.toInt_ofInt_of_le (by omega) small.1
  have expiresAt : (Int64.ofInt g.term.expiresAtMS).toInt = g.term.expiresAtMS :=
    Int64.toInt_ofInt_of_le (by omega) small.2
  have expiry : (received g kid signature).claims.expiry = .ofUnixMilli g.term.expiresAtMS :=
    congrArg Time.ofUnixMilli expiresAt
  have sourceRouter : utf8 g.devices.source ≠ utf8 g.devices.router := fun same =>
    c.devices.sourceRouter (utf8_inj (plain_deviceID c.devices.source)
      (plain_deviceID c.devices.router) same)
  have sourceDestination : utf8 g.devices.source ≠ utf8 g.devices.destination := fun same =>
    c.devices.sourceDestination (utf8_inj (plain_deviceID c.devices.source)
      (plain_deviceID c.devices.destination) same)
  have routerDestination : utf8 g.devices.router ≠ utf8 g.devices.destination := fun same =>
    c.devices.routerDestination (utf8_inj (plain_deviceID c.devices.router)
      (plain_deviceID c.devices.destination) same)
  have source := blank_deviceID c.devices.source
  have router := blank_deviceID c.devices.router
  have destination := blank_deviceID c.devices.destination
  refine {
    keyGiven := blank_plain r.key.plain r.key.1
    keyShort := ?_
    keyPlain := ?_
    version := rfl
    issuer := rfl
    audience := rfl
    permission := rfl
    routerGiven := router
    issued := ?_
    ordered := ?_
    jti := jti_decodes c.jti
    route := ?_
    bound := ⟨_, _, rfl, rfl, rfl, rfl, rfl⟩
    canonical := ?_
    lifetime := ?_ }
  · change (utf8 kid).length ≤ 128
    rw [utf8_length r.key.plain]
    exact r.key.2.1
  · change (utf8 kid).any _ = false
    rw [List.any_eq_false]
    intro u member
    have range := mem_utf8 r.key.plain member
    simp only [contains_iff_mem, mem_cons, not_mem_nil, or_false,
      ← UInt8.toNat_inj, UInt8.toNat_ofNat]
    omega
  · change (0 : Int64) < Int64.ofInt _
    rw [Int64.lt_iff_toInt_lt, issuedAt]
    exact issued
  · change Int64.ofInt _ < Int64.ofInt _
    rw [Int64.lt_iff_toInt_lt, issuedAt, expiresAt]
    exact ordered
  · refine {
      idGiven := blank_plain (plain_uuid r.uuid) r.givenID
      sourceGiven := source
      destinationGiven := destination
      endsDiffer := sourceDestination
      someHops := nofun
      fewHops := show 2 ≤ maxRouteHops by decide
      expiryGiven := ?_
      unexpired := ?_
      path := ?_ }
    · change (g.term.expiresAtMS * nanosPerMilli == _) = false
      rw [beq_eq_false_iff_ne, nanosPerMilli]
      omega
    · rw [expiry]
      change g.term.expiresAtMS * nanosPerMilli + -nanosPerMilli <
        g.term.expiresAtMS * nanosPerMilli
      rw [nanosPerMilli]
      omega
    · exact walk_two rfl rfl rfl rfl source router destination
        (blank_transport c.legs.firstTransport) (blank_transport c.legs.secondTransport)
        sourceRouter sourceDestination routerDestination
  · rw [expiry]
    rfl
  · change Int64.ofInt _ - Int64.ofInt _ ≤ _
    rw [← Int64.ofInt_sub, Int64.le_iff_toInt_le, Int64.toInt_ofInt_of_le (by omega) (by omega)]
    exact lifetime

section
variable {g : Grant} {kid : Text} (r : Ready g kid)
include r

theorem message_received (signature : List UInt8) :
    routeAuthorizationMessage (received g kid signature) =
      .ok (layout (received g kid signature)) := by
  have fields : stringFields (received g kid signature) =
      [kid, routeAuthorizationIssuer, routeAuthorizationAudience,
        routeAuthorizationPermission, g.jti, g.devices.router, g.id, g.devices.source,
        g.devices.destination].map utf8 := rfl
  have strings : ∀ s ∈ stringFields (received g kid signature), Short s := by
    intro s member
    rw [fields] at member
    obtain ⟨t, inside, rfl⟩ := List.mem_map.mp member
    exact short_strings r t inside
  have hops : ∀ hop ∈ (received g kid signature).claims.route.hops, ShortHop hop := by
    simp only [received, forall_mem_cons]
    exact ⟨⟨short_source r, short_router r, short_first r⟩,
      ⟨short_router r, short_destination r, short_second r⟩, nofun⟩
  exact message_eq_ok.mpr
    ⟨validateSyntax_eq_ok.mpr (wellFormed_received r signature), strings, hops, rfl⟩

theorem canonical_ready (js : Runtime) (signature : List UInt8) :
    canonicalRouteAuthorizationMessage js (unsigned (.string kid) g.claims) =
      .ok (layout (received g kid signature)) := by
  rw [canonicalRouteAuthorizationMessage,
    readSigned_grant js r.checked (plain_uuid r.uuid) r.givenID r.fourDigits r.key]
  exact encode_signed r signature

end

/-- For every row that the issuer accepts, the message it signs is the message of the
authorization that the router decodes from the issuer's JSON, and the router finds that
authorization well formed. -/
theorem issuer_router_agree (js : Runtime) (zones : Zones) {row : Value} {built : Built}
    {id kid : Text} {expires : Int} (accepted : buildRouteAuthorizationClaims js row = .ok built)
    (routeID : built.route.get "ID" = .ok (.string id)) (uuid : IsUUID id)
    (expiry : built.claims.get "exp_unix_ms" = .ok (.number (.int expires)))
    (early : expires < year10000) (key : IsKeyID kid) :
    ∃ message, canonicalRouteAuthorizationMessage js (unsigned (.string kid) built.claims) =
        .ok message ∧
      ∀ sign signature, sign message = some signature → signature.length = 64 →
        ∃ issued text auth, signRouteAuthorization js sign (.string kid) row = .ok issued ∧
          stringify js issued.authorization = some text ∧
          unmarshalAuthorization zones text = some auth ∧
          routeAuthorizationMessage auth = .ok message ∧
          validateRouteAuthorizationSyntax auth = .ok () := by
  obtain ⟨g, checked, rfl⟩ := grant_of_build accepted
  have sameID : g.id = id := Value.string.inj (Except.ok.inj routeID)
  have sameExpiry : g.term.expiresAtMS = expires := by
    have numbers := Value.number.inj (Except.ok.inj expiry)
    exact Rat.intCast_inj.mp (Number.finite.inj numbers)
  subst sameID
  subst sameExpiry
  have r : Ready g kid := ⟨checked, uuid, early, key⟩
  refine ⟨layout (received g kid []), canonical_ready r js [], ?_⟩
  intro sign signature signs length
  have sameLayout : layout (received g kid []) = layout (received g kid signature) := rfl
  refine ⟨⟨g.route, authorization (.string kid) g.claims signature⟩, _, received g kid signature,
    ?_, stringify_authorization js r signature, unmarshal_tree zones r signature, ?_,
    validateSyntax_eq_ok.mpr (wellFormed_received r signature)⟩
  · simp only [signRouteAuthorization, bind_eq_ok, failIf_eq_ok]
    refine ⟨_, accepted, _, canonical_ready r js [], signature, ?_, (), not_not.mpr length, rfl⟩
    rw [signs]
    rfl
  · rw [sameLayout]
    exact message_received r signature

/-- The row of the cross-language test. -/
def fixtureRow : Value :=
  .object [(text "id", .string (text "00000000-0000-4000-8000-000000000001")),
    (text "jti", .string (text "AAECAwQFBgcICQoLDA0ODw")),
    (text "source_device_id", .string (text "wd_aaaaaaaaaaaaaaaa")),
    (text "router_device_id", .string (text "wd_bbbbbbbbbbbbbbbb")),
    (text "destination_device_id", .string (text "wd_cccccccccccccccc")),
    (text "first_transport", .string (text "internet")),
    (text "second_transport", .string (text "lan")), (text "first_cost", .number (.int 10)),
    (text "second_cost", .number (.int 20)), (text "permission", .string (text "mesh.forward")),
    (text "issued_at", .string (text "2027-01-15T08:00:00.000Z")),
    (text "expires_at", .string (text "2027-01-15T08:01:00.000Z"))]

def fixtureKid : Text := text "test-route-key-1"

/-- A runtime for rows of strings and safe integers only. -/
def plainRuntime : Runtime where
  objectText _ := none
  objectNumber _ := none
  numberText _ := text "NaN"
  textNumber _ := .nan
  lowerCase s := s
  parseDate _ := none

/-- Local time is UTC, and nothing but RFC 3339 is a time. -/
def utcZones : Zones where
  localOffset _ := 0
  parseLayout _ := none

def fixtureGrant : Grant where
  id := text "00000000-0000-4000-8000-000000000001"
  jti := text "AAECAwQFBgcICQoLDA0ODw"
  devices := ⟨text "wd_aaaaaaaaaaaaaaaa", text "wd_bbbbbbbbbbbbbbbb", text "wd_cccccccccccccccc"⟩
  legs := ⟨text "internet", text "lan", .of 10 (by decide), .of 20 (by decide)⟩
  term := ⟨1800000000000, 1800000060000, text "2027-01-15T08:01:00.000Z"⟩

theorem issuer_router_agree_fixture : ∃ message issued text auth,
      canonicalRouteAuthorizationMessage plainRuntime
        (unsigned (.string fixtureKid) fixtureGrant.claims) = .ok message ∧
      signRouteAuthorization plainRuntime (fun _ => rawURLDecode signedSample.signature)
        (.string fixtureKid) fixtureRow = .ok issued ∧
      stringify plainRuntime issued.authorization = some text ∧
      unmarshalAuthorization utcZones text = some auth ∧
      routeAuthorizationMessage auth = .ok message ∧
      validateRouteAuthorizationSyntax auth = .ok () := by
  have accepted : buildRouteAuthorizationClaims plainRuntime fixtureRow =
      .ok ⟨fixtureGrant.route, fixtureGrant.claims⟩ := rfl
  have long : (rawURLDecode signedSample.signature).any (fun bytes => bytes.length = 64) =
      true := by
    decide +kernel
  obtain ⟨signature, signs, length⟩ := (Option.any_eq_true _ _).mp long
  obtain ⟨message, signed, delivered⟩ := issuer_router_agree plainRuntime utcZones accepted rfl
    (by decide) rfl (by decide) (show IsKeyID fixtureKid by decide)
  obtain ⟨issued, text, auth, facts⟩ := delivered (fun _ => rawURLDecode signedSample.signature)
    signature signs (of_decide_eq_true length)
  exact ⟨message, issued, text, auth, signed, facts⟩

end RouteAgreement
