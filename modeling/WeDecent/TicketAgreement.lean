import WeDecent.TicketEncoding

/-!
# Issuer and worker agree on relay tickets

A ticket that the issuer makes is accepted by the worker for the device, the role and the slot that
it was made for, from half a minute before it is issued until half a minute after it expires, and
for nothing else. The worker wants the times to be safe integers; the issuer does not care.
-/

namespace TicketAgreement

open List

open ByteDigits Decimal Fallible GoText GoTime JavaScript TicketEncoding TicketIssuer TicketVerifier

/-- The characters of the ids, the roles and the encodings -/
def isWord (c : UInt8) : Bool :=
  (65 ≤ c && c ≤ 90) || (97 ≤ c && c ≤ 122) || (48 ≤ c && c ≤ 57) || c == 95 || c == 45

def Word (text : Bytes) : Prop := ∀ c ∈ text, isWord c = true

instance (text : Bytes) : Decidable (Word text) := decidableBAll _ text

theorem word_char {c : UInt8} (h : isWord c = true) :
    GoJson.selfEscaped c = true ∧ c < 0x80 ∧ c ≠ 92 ∧ 32 ≤ c ∧ c ≠ 34 ∧ c ≠ 46 := by
  have all : ∀ n < 256, isWord (UInt8.ofNat n) = true →
      GoJson.selfEscaped (UInt8.ofNat n) = true ∧ UInt8.ofNat n < 0x80 ∧ UInt8.ofNat n ≠ 92 ∧
        32 ≤ UInt8.ofNat n ∧ UInt8.ofNat n ≠ 34 ∧ UInt8.ofNat n ≠ 46 := by decide +kernel
  have here := all c.toNat c.toNat_lt
  rw [UInt8.ofNat_toNat] at here
  exact here h

theorem jsonString_word {text : Bytes} (h : Word text) : jsonString text = .string text := by
  rw [jsonString, GoJson.escaped_self (fun c member => (word_char (h c member)).1) (Nat.le_refl _)]

theorem rawFits_word {text : Bytes} (h : Word text) : Json.RawFits text := by
  refine Json.rawFits_plain fun c member => ?_
  obtain ⟨-, -, slash, low, quote, -⟩ := word_char (h c member)
  exact ⟨low, quote, slash⟩

theorem string_word {text : Bytes} (h : Word text) : JsJson.string text = ascii text := by
  refine JsJson.string_plain fun c member => ?_
  obtain ⟨-, small, slash, -⟩ := word_char (h c member)
  exact ⟨small, slash⟩

theorem word_encoded (bytes : Bytes) : Word (rawURLEncode bytes) := by
  intro c member
  obtain ⟨d, inside, rfl⟩ := mem_map.mp member
  have all : ∀ n < 64, isWord (base64Digit n) = true := by decide
  exact all d (sixBit_lt bytes d inside)

/-- `a-z` and `2-7` -/
def isIDChar (c : UInt8) : Bool := (97 ≤ c && c ≤ 122) || (50 ≤ c && c ≤ 55)

theorem validDeviceID_iff {s : Bytes} : TicketIssuer.validDeviceID s = true ↔
    ∃ rest, s = literal "wd_" ++ rest ∧ rest.length = 16 ∧ ∀ c ∈ rest, isIDChar c = true := by
  constructor
  · intro h
    simp only [TicketIssuer.validDeviceID, Bool.and_eq_true, beq_iff_eq, isPrefixOf_iff_prefix] at h
    obtain ⟨⟨length, rest, rfl⟩, chars⟩ := h
    refine ⟨rest, rfl, ?_, all_eq_true.mp chars⟩
    rw [length_append] at length
    exact Nat.add_left_cancel (n := 3) length
  · rintro ⟨rest, rfl, length, chars⟩
    simp only [TicketIssuer.validDeviceID, Bool.and_eq_true, beq_iff_eq, isPrefixOf_iff_prefix]
    refine ⟨⟨?_, prefix_append _ _⟩, all_eq_true.mpr chars⟩
    rw [length_append, length]
    rfl

theorem idChar {c : UInt8} (h : isIDChar c = true) :
    isWord c = true ∧ isBase32 c.toUInt16 = true := by
  have all : ∀ n < 256, isIDChar (UInt8.ofNat n) = true →
      isWord (UInt8.ofNat n) = true ∧ isBase32 (UInt8.ofNat n).toUInt16 = true := by
    decide +kernel
  have here := all c.toNat c.toNat_lt
  rw [UInt8.ofNat_toNat] at here
  exact here h

theorem word_device {s : Bytes} (h : TicketIssuer.validDeviceID s = true) : Word s := by
  obtain ⟨rest, rfl, -, chars⟩ := validDeviceID_iff.mp h
  intro c member
  rcases mem_append.mp member with front | back
  · have all : Word (literal "wd_") := by decide
    exact all c front
  · exact (idChar (chars c back)).1

theorem pattern_device {s : Bytes} (h : TicketIssuer.validDeviceID s = true) :
    deviceIDPattern (ascii s) = true := by
  obtain ⟨rest, rfl, length, chars⟩ := validDeviceID_iff.mp h
  have split : ascii (literal "wd_" ++ rest) = text "wd_" ++ ascii rest := map_append
  have three : (text "wd_").length = 3 := by decide
  rw [deviceIDPattern, split, ← three, take_left, drop_left, ascii, length_map, length]
  refine all_eq_true.mpr fun u member => ?_
  obtain ⟨c, inside, rfl⟩ := mem_map.mp member
  exact (idChar (chars c inside)).2

theorem valid_deviceID (crypto : Crypto) (publicKey : Bytes) :
    TicketIssuer.validDeviceID (deviceID crypto publicKey) = true := by
  refine validDeviceID_iff.mpr ⟨_, rfl, ?_, fun c member => ?_⟩
  · rw [toLower, length_map, base32Encode, length_map, fiveBit_length, length_take,
      crypto.sha256_length]
    decide
  · rw [toLower, base32Encode, map_map] at member
    obtain ⟨d, inside, rfl⟩ := mem_map.mp member
    have all : ∀ n < 32, isIDChar ((fun c => if 65 ≤ c ∧ c ≤ 90 then c + 32 else c)
        (base32Digit n)) = true := by decide
    exact all d (fiveBit_lt _ d inside)

theorem deviceID_agrees (crypto : Crypto) (publicKey : Bytes) :
    deviceIDFromPublicKey crypto publicKey = ascii (deviceID crypto publicKey) := by
  rw [deviceIDFromPublicKey, base32NoPadding_eq]
  exact map_append.symm

/-- A text of a claim or its name -/
def Label (text : Bytes) : Prop := Word text ∧ text ≠ [] ∧ text.length ≤ 43

instance (text : Bytes) : Decidable (Label text) := inferInstanceAs (Decidable (_ ∧ _ ∧ _))

structure PlainClaims (c : Claims) : Prop where
  version : c.version.natAbs ≤ maxSafeInteger
  audience : Label c.audience
  issuer : Label c.issuer
  subject : Label c.subject
  role : Label c.role
  slot : c.slot.natAbs ≤ maxSafeInteger
  issuedAt : c.issuedAt.natAbs ≤ maxSafeInteger
  expiresAt : c.expiresAt.natAbs ≤ maxSafeInteger
  tokenID : Label c.tokenID
  publicKey : Label c.publicKey

/-- The members of the object -/
def members (c : Claims) : List (Bytes × Json) :=
  [(literal "v", jsonInt c.version), (literal "aud", .string c.audience),
    (literal "iss", .string c.issuer), (literal "sub", .string c.subject),
    (literal "role", .string c.role)] ++
    (if c.slot = 0 then [] else [(literal "slot", jsonInt c.slot)]) ++
    [(literal "iat", jsonInt c.issuedAt), (literal "exp", jsonInt c.expiresAt),
      (literal "jti", .string c.tokenID), (literal "pk", .string c.publicKey)]

theorem json_members {c : Claims} (plain : PlainClaims c) : c.json = .object (members c) := by
  rw [Claims.json, jsonString_word plain.audience.1, jsonString_word plain.issuer.1,
    jsonString_word plain.subject.1, jsonString_word plain.role.1, jsonString_word plain.tokenID.1,
    jsonString_word plain.publicKey.1, members]

theorem members_length (c : Claims) : (members c).length ≤ 10 := by
  unfold members
  split
  · exact Nat.le_succ 9
  · exact Nat.le_refl 10

/-- A member of the object: a text or an integer -/
inductive PlainMember : Bytes × Json → Prop
  | text {key text : Bytes} (name : Label key) (label : Label text) :
      PlainMember (key, .string text)
  | int {key : Bytes} {n : Int} (name : Label key) (safe : n.natAbs ≤ maxSafeInteger) :
      PlainMember (key, jsonInt n)

theorem plain_members {c : Claims} (plain : PlainClaims c) : ∀ m ∈ members c, PlainMember m := by
  intro m member
  simp only [members, mem_append] at member
  rcases member with (front | slot) | back
  · simp only [mem_cons, not_mem_nil, or_false] at front
    rcases front with rfl | rfl | rfl | rfl | rfl
    · exact .int (by decide) plain.version
    · exact .text (by decide) plain.audience
    · exact .text (by decide) plain.issuer
    · exact .text (by decide) plain.subject
    · exact .text (by decide) plain.role
  · split at slot
    · cases slot
    · cases mem_singleton.mp slot
      exact .int (by decide) plain.slot
  · simp only [mem_cons, not_mem_nil, or_false] at back
    rcases back with rfl | rfl | rfl | rfl
    · exact .int (by decide) plain.issuedAt
    · exact .int (by decide) plain.expiresAt
    · exact .text (by decide) plain.tokenID
    · exact .text (by decide) plain.publicKey

theorem fits_member {depth : Nat} {m : Bytes × Json} (h : PlainMember m) :
    Json.MemberFits (Json.Fits depth) m := by
  cases h with
  | text name label => exact ⟨rawFits_word name.1, Json.fits_scalar (rawFits_word label.1)⟩
  | int name => exact ⟨rawFits_word name.1, Json.fits_scalar (Json.integer_fits _)⟩

/-- Bytes that are read as they are, and how many there may be -/
def Small (bound : Nat) (bytes : Bytes) : Prop := (∀ c ∈ bytes, c < 0x80) ∧ bytes.length ≤ bound

theorem small_single {c : UInt8} (low : c < 0x80) : Small 1 [c] := by
  refine ⟨fun d member => ?_, Nat.le_refl 1⟩
  cases mem_singleton.mp member
  exact low

theorem small_cons {bound : Nat} {c : UInt8} {bytes : Bytes} (low : c < 0x80)
    (h : Small bound bytes) : Small (bound + 1) (c :: bytes) := by
  refine ⟨fun d member => ?_, Nat.succ_le_succ h.2⟩
  rcases mem_cons.mp member with rfl | inside
  · exact low
  · exact h.1 d inside

theorem small_append {m n : Nat} {a b : Bytes} (ha : Small m a) (hb : Small n b) :
    Small (m + n) (a ++ b) := by
  refine ⟨fun c member => ?_, ?_⟩
  · exact (mem_append.mp member).elim (ha.1 c) (hb.1 c)
  · rw [length_append]
    exact Nat.add_le_add ha.2 hb.2

theorem small_quoted {text : Bytes} (h : Label text) : Small 45 (Json.quoted text) := by
  have inner : Small 43 text := ⟨fun c inside => (word_char (h.1 c inside)).2.1, h.2.2⟩
  exact small_cons (by decide) (small_append inner (small_single (by decide)))

theorem small_integer {n : Int} (safe : n.natAbs ≤ maxSafeInteger) : Small 17 (integer n) := by
  have digits : Small 16 (numeral n.natAbs) := by
    refine ⟨fun c member => ?_, numeral_length (by decide) ?_⟩
    · have digit := isDigit_iff.mp (isDigit_numeral n.natAbs c member)
      change c.toNat < 128
      omega
    · exact Nat.lt_of_le_of_lt safe (by decide)
  unfold integer
  split
  · exact small_cons (by decide) digits
  · exact ⟨digits.1, Nat.le_succ_of_le digits.2⟩

/-- A member as it is written -/
def written (m : Bytes × Json) : Bytes := Json.quoted m.1 ++ 58 :: m.2.render

theorem small_written {m : Bytes × Json} (h : PlainMember m) : Small 91 (written m) := by
  cases h with
  | text name label =>
    exact small_append (small_quoted name) (small_cons (by decide) (small_quoted label))
  | int name safe =>
    have item := small_cons (show (58 : UInt8) < 0x80 by decide) (small_integer safe)
    have short := small_append (small_quoted name) item
    exact ⟨short.1, Nat.le_trans short.2 (by decide)⟩

theorem renderMembers_cons (m : Bytes × Json) (more : List (Bytes × Json)) :
    Json.renderMembers (m :: more) = 44 :: (written m ++ Json.renderMembers more) := by
  rw [Json.renderMembers, written, append_assoc, cons_append]

theorem render_cons (m : Bytes × Json) (more : List (Bytes × Json)) :
    (Json.object (m :: more)).render = 123 :: (written m ++ Json.renderMembers more) := by
  rw [Json.render, written, append_assoc, cons_append]

theorem small_renderMembers {ms : List (Bytes × Json)} (h : ∀ m ∈ ms, PlainMember m) :
    Small (92 * ms.length + 1) (Json.renderMembers ms) := by
  induction ms with
  | nil => exact small_single (by decide)
  | cons m _ ih =>
    rw [renderMembers_cons]
    have here := small_written (h m mem_cons_self)
    have rest := ih fun m inside => h m (mem_cons_of_mem _ inside)
    have whole := small_cons (show (44 : UInt8) < 0x80 by decide) (small_append here rest)
    refine ⟨whole.1, Nat.le_trans whole.2 ?_⟩
    rw [length_cons]
    omega

theorem small_render {m : Bytes × Json} {more : List (Bytes × Json)}
    (h : ∀ m' ∈ m :: more, PlainMember m') :
    Small (92 * (more.length + 1) + 1) (Json.object (m :: more)).render := by
  rw [render_cons]
  have here := small_written (h m mem_cons_self)
  have rest := small_renderMembers fun m' inside => h m' (mem_cons_of_mem _ inside)
  have whole := small_cons (show (123 : UInt8) < 0x80 by decide) (small_append here rest)
  exact ⟨whole.1, Nat.le_trans whole.2 (by omega)⟩

theorem render_claims {c : Claims} (plain : PlainClaims c) :
    Small 921 c.json.render ∧ ∃ rest, c.json.render = 123 :: rest := by
  rw [json_members plain]
  have ms := plain_members plain
  have length := members_length c
  obtain ⟨m, more, shape⟩ : ∃ m more, members c = m :: more := ⟨_, _, rfl⟩
  rw [shape] at ms length ⊢
  have small := small_render ms
  rw [length_cons] at length
  exact ⟨⟨small.1, Nat.le_trans small.2 (by omega)⟩, _, render_cons m more⟩

def properties (c : Claims) : List (Text × Value) :=
  [(text "v", .number (.int c.version)), (text "aud", .string (ascii c.audience)),
    (text "iss", .string (ascii c.issuer)), (text "sub", .string (ascii c.subject)),
    (text "role", .string (ascii c.role))] ++
    (if c.slot = 0 then [] else [(text "slot", .number (.int c.slot))]) ++
    [(text "iat", .number (.int c.issuedAt)), (text "exp", .number (.int c.expiresAt)),
      (text "jti", .string (ascii c.tokenID)), (text "pk", .string (ascii c.publicKey))]

theorem value_int (js : Runtime) {n : Int} (safe : n.natAbs ≤ maxSafeInteger) :
    JsJson.value js (jsonInt n) = .number (.int n) := by
  rw [jsonInt, JsJson.value, JsJson.number_integer js safe]

theorem value_label (js : Runtime) {text : Bytes} (h : Label text) :
    JsJson.value js (.string text) = .string (ascii text) := by
  rw [JsJson.value, string_word h.1]

theorem value_members (js : Runtime) {c : Claims} (plain : PlainClaims c) :
    JsJson.value js (.object (members c)) = .object (properties c) := by
  have distinct : (([] : List (Text × Value)).map Prod.fst ++
      (members c).map fun m => JsJson.string m.1).Nodup := by
    unfold members
    split
    · change (requiredKeys.map fun key => JsJson.string (literal key)).Nodup
      decide
    · change ((["v", "aud", "iss", "sub", "role", "slot", "iat", "exp", "jti", "pk"]).map
        fun key => JsJson.string (literal key)).Nodup
      decide
  rw [JsJson.value, JsJson.properties_distinct js distinct, nil_append]
  unfold members properties
  split
  · simp only [append_nil, cons_append, nil_append, map_cons, map_nil,
      value_int js plain.version, value_int js plain.issuedAt, value_int js plain.expiresAt,
      value_label js plain.audience, value_label js plain.issuer, value_label js plain.subject,
      value_label js plain.role, value_label js plain.tokenID, value_label js plain.publicKey]
    rfl
  · simp only [cons_append, nil_append, map_cons, map_nil,
      value_int js plain.version, value_int js plain.slot, value_int js plain.issuedAt,
      value_int js plain.expiresAt, value_label js plain.audience, value_label js plain.issuer,
      value_label js plain.subject, value_label js plain.role, value_label js plain.tokenID,
      value_label js plain.publicKey]
    rfl

theorem decode_claims (js : Runtime) {c : Claims} (plain : PlainClaims c) :
    JsJson.decode js c.json.render = some (.object (properties c)) := by
  obtain ⟨small, rest, front⟩ := render_claims plain
  have unmarked : JsJson.dropMark c.json.render = c.json.render := by
    rfl
  have fits : Json.Fits c.json.render.length c.json := by
    rw [front, length_cons, json_members plain]
    exact Json.fits_object fun m inside => fits_member (plain_members plain m inside)
  rw [JsJson.decode, JsJson.validUTF8, JsJson.validFrom_ascii small.1 (Nat.le_refl _), if_pos rfl,
    unmarked, Json.parse_render fits, Option.map_some, json_members plain, value_members js plain]

/-- The fields that the worker reads are the claims. -/
structure Reads (c : Claims) : Prop where
  version : field (properties c) "v" = .number (.int c.version)
  audience : field (properties c) "aud" = .string (ascii c.audience)
  issuer : field (properties c) "iss" = .string (ascii c.issuer)
  subject : field (properties c) "sub" = .string (ascii c.subject)
  role : field (properties c) "role" = .string (ascii c.role)
  slot : field (properties c) "slot" =
    if c.slot = 0 then .undefined else .number (.int c.slot)
  issuedAt : field (properties c) "iat" = .number (.int c.issuedAt)
  expiresAt : field (properties c) "exp" = .number (.int c.expiresAt)
  tokenID : field (properties c) "jti" = .string (ascii c.tokenID)
  publicKey : field (properties c) "pk" = .string (ascii c.publicKey)

theorem reads (c : Claims) : Reads c := by
  by_cases none : c.slot = 0
  · constructor <;> simp only [properties, if_pos none] <;> rfl
  · constructor <;> simp only [properties, if_neg none] <;> rfl

theorem given_label {text : Bytes} (h : Label text) : given (.string (ascii text)) = true := by
  obtain ⟨-, some, -⟩ := h
  cases text with
  | nil => exact absurd rfl some
  | cons => rfl

theorem shape_claims {c : Claims} (plain : PlainClaims c) :
    validateClaimsShape (.object (properties c)) = .ok (properties c) := by
  have required : requiredKeys.any (fun key => !(properties c).any (·.1 == text key)) = false := by
    unfold properties
    split <;> rfl
  have allowed : (properties c).any (fun p => !allowedKeys.any (fun key => p.1 == text key)) =
      false := by
    unfold properties
    split <;> rfl
  have r := reads c
  have strings : ["aud", "iss", "sub", "role", "jti", "pk"].any
      (fun key => !given (field (properties c) key)) = false := by
    simp [r.audience, r.issuer, r.subject, r.role, r.tokenID, r.publicKey, given_label
      plain.audience, given_label plain.issuer, given_label plain.subject, given_label plain.role,
      given_label plain.tokenID, given_label plain.publicKey]
  have version : safeInteger (field (properties c) "v") ≠ none := by
    rw [r.version, safeInteger, safeInteger?_int plain.version]
    exact Option.some_ne_none _
  rw [validateClaimsShape, required, allowed, strings]
  simp only [failIf, if_neg version]
  rfl

/-- The cases in which a ticket is issued -/
inductive Scoped (id target role : Bytes) (slot : Int) : Prop
  | agent (own : target = id) (kind : role = literal "agent") (low : 1 ≤ slot) (high : slot ≤ 32)
  | client (kind : role = literal "client") (none : slot = 0)
  | authorize (own : target = id) (kind : role = literal "authorize") (none : slot = 0)

theorem scoped_of_checkRole {id target role : Bytes} {slot : Int}
    (h : checkRole id target role slot = .ok ()) : Scoped id target role slot := by
  unfold checkRole at h
  split at h
  · rename_i kind
    obtain ⟨_, own, range⟩ := bind_eq_ok.mp h
    rw [failIf_eq_ok, not_not] at own
    rw [failIf_eq_ok, not_or, Int.not_lt, Int.not_lt] at range
    exact .agent own kind range.1 range.2
  · split at h
    · rename_i kind
      rw [failIf_eq_ok, not_not] at h
      exact .client kind h
    · split at h
      · rename_i kind
        obtain ⟨_, own, none⟩ := bind_eq_ok.mp h
        rw [failIf_eq_ok, not_not] at own none
        exact .authorize own kind none
      · cases h

/-- What a request asks for when the ticket is made for it -/
def matching (target role : Bytes) (slot : Int) : Expected :=
  ⟨ascii target, ascii role, if slot = 0 then none else some (.int slot)⟩

theorem sameSlot_iff {slot : Int} (positive : 1 ≤ slot) (expected : Option Number) :
    sameSlot (.number (.int slot)) expected = true ↔ expected = some (.int slot) := by
  have nonzero : ((slot : Rat) == 0) = false := by
    rw [beq_eq_false_iff_ne]
    exact_mod_cast (by omega : slot ≠ 0)
  cases expected with
  | none => simp [sameSlot]
  | some m =>
    cases m with
    | negativeZero =>
      simp only [sameSlot, Number.int, Number.isInteger, Number.strictEqual, nonzero]
      simp
    | finite =>
      simp only [sameSlot, Number.int, Number.isInteger, Number.strictEqual, Rat.den_intCast,
        beq_self_eq_true, Bool.true_and, beq_iff_eq, Option.some.injEq]
      exact eq_comm
    | _ => simp [sameSlot, Number.int, Number.isInteger, Number.strictEqual]

theorem isText_iff {s t : Text} : (Value.string s).isText t = true ↔ t = s :=
  beq_iff_eq.trans eq_comm

theorem sameText_self (s : Text) : sameText (.string s) (.string s) = true := beq_self_eq_true s

/-- The scope of the claims passes for what the ticket was made for, and nothing else. -/
theorem checkScope_iff {c : Claims} {expected : Expected} (version : c.version = 2)
    (audience : c.audience = ticketAudience) (issuer : TicketIssuer.validDeviceID c.issuer = true)
    (subject : TicketIssuer.validDeviceID c.subject = true)
    (case : Scoped c.issuer c.subject c.role c.slot) :
    checkScope (properties c) expected = .ok () ↔ expected = matching c.subject c.role c.slot := by
  have r := reads c
  have front : (Value.number (.int 2)).isNumber 2 = true ∧
      (Value.string (ascii ticketAudience)).isText TicketVerifier.audience = true := by decide
  have devices : isDeviceID (.string (ascii c.issuer)) = true ∧
      isDeviceID (.string (ascii c.subject)) = true :=
    ⟨pattern_device issuer, pattern_device subject⟩
  obtain ⟨-, -, slot⟩ := expected
  rw [checkScope, r.version, r.audience, r.issuer, r.subject, r.role, r.slot, version, audience,
    failIf_then, failIf_then, failIf_then, front.1, front.2, devices.1, devices.2, matching,
    Expected.mk.injEq]
  simp only [Bool.true_eq_false, or_self, not_false_eq_true, true_and, not_or, Bool.not_eq_false,
    isText_iff, and_assoc]
  refine and_congr_right fun _ => and_congr_right fun _ => ?_
  cases case with
  | agent own kind low =>
    have some : c.slot ≠ 0 := by omega
    rw [kind, own, if_pos (by decide), failIf_eq_ok, sameText_self, if_neg some, if_neg some]
    simp only [Bool.true_eq_false, false_or, Bool.not_eq_false]
    exact sameSlot_iff low slot
  | client kind none =>
    rw [kind, if_neg (by decide), if_pos (by decide), failIf_eq_ok, if_pos none, if_pos none]
    simp [isUndefined]
  | authorize own kind none =>
    rw [kind, own, if_neg (by decide), if_neg (by decide), if_pos (by decide), failIf_eq_ok,
      sameText_self, if_pos none, if_pos none]
    simp [isUndefined]

theorem checkLifetime_iff {c : Claims} {now : Int} (plain : PlainClaims c)
    (lifetime : c.expiresAt = c.issuedAt + 90) :
    checkLifetime (properties c) now = .ok () ↔ c.issuedAt - 30 ≤ now ∧ now ≤ c.expiresAt + 30 := by
  have r := reads c
  rw [checkLifetime, r.issuedAt, r.expiresAt]
  simp only [safeInteger, safeInteger?_int plain.issuedAt, safeInteger?_int plain.expiresAt]
  rw [failIf_then, failIf_then, failIf_eq_ok, maxLifetimeSeconds, clockSkewSeconds]
  omega

theorem decodeValue_encoded {bytes : Bytes} (nonempty : bytes ≠ []) :
    decodeValue (.string (ascii (rawURLEncode bytes))) = .ok bytes :=
  decodeBase64URL_encoded nonempty

theorem nonempty_of_length {bytes : Bytes} {n : Nat} (h : bytes.length = n + 1) : bytes ≠ [] := by
  rintro rfl
  cases h

/-- The text that is signed, in both languages -/
theorem signed_bytes (payload : Bytes) :
    utf8 (TicketVerifier.signingContext ++ ascii (rawURLEncode payload)) =
      TicketIssuer.signingContext ++ rawURLEncode payload := by
  have joined : TicketVerifier.signingContext ++ ascii (rawURLEncode payload) =
      ascii (TicketIssuer.signingContext ++ rawURLEncode payload) := map_append.symm
  rw [joined, utf8_ascii, map_ascii]
  intro u member
  obtain ⟨c, inside, rfl⟩ := mem_map.mp member
  rcases mem_append.mp inside with front | back
  · have all : TicketIssuer.signingContext.all (fun c => c.toNat < 128) = true := by decide
    exact of_decide_eq_true (all_eq_true.mp all c front)
  · exact (word_char (word_encoded payload c back)).2.1

theorem checkProof_issued {crypto : Crypto} {c : Claims}
    {privateKey nonce publicKey payload : Bytes}
    (pair : crypto.KeyPair publicKey privateKey) (tokenID : c.tokenID = rawURLEncode nonce)
    (key : c.publicKey = rawURLEncode publicKey) (issuer : c.issuer = deviceID crypto publicKey)
    (nonceLength : nonce.length = 16) (keyLength : publicKey.length = 32) :
    checkProof crypto (properties c) (ascii (rawURLEncode payload))
      (ascii (rawURLEncode (crypto.sign privateKey
        (TicketIssuer.signingContext ++ rawURLEncode payload)))) = .ok () := by
  have r := reads c
  have signature := crypto.sign_length privateKey
    (TicketIssuer.signingContext ++ rawURLEncode payload)
  have valid := crypto.verify_sign publicKey privateKey
    (TicketIssuer.signingContext ++ rawURLEncode payload) pair
  have ownKey : (Value.string (ascii c.issuer)).isText (deviceIDFromPublicKey crypto publicKey) =
      true := by
    rw [isText_iff, deviceID_agrees, issuer]
  rw [checkProof, r.tokenID, tokenID, r.publicKey, key, r.issuer]
  refine bind_eq_ok.mpr ⟨nonce, decodeValue_encoded (nonempty_of_length nonceLength), ?_⟩
  refine failIf_then.mpr ⟨not_not.mpr nonceLength, ?_⟩
  refine bind_eq_ok.mpr ⟨publicKey, decodeValue_encoded (nonempty_of_length keyLength), ?_⟩
  refine failIf_then.mpr ⟨not_not.mpr keyLength, ?_⟩
  refine failIf_then.mpr ⟨Bool.not_eq_false _ |>.mpr ownKey, ?_⟩
  refine bind_eq_ok.mpr ⟨_, decodeBase64URL_encoded (nonempty_of_length signature), ?_⟩
  refine failIf_then.mpr ⟨not_not.mpr signature, ?_⟩
  rw [failIf_eq_ok, signed_bytes, valid]
  exact Bool.noConfusion

theorem ascii_append (a b : Bytes) : ascii (a ++ b) = ascii a ++ ascii b := map_append

theorem ascii_length (a : Bytes) : (ascii a).length = a.length := length_map _

theorem undotted {text : Bytes} (h : Word text) : (46 : UInt16) ∉ ascii text := by
  intro member
  obtain ⟨c, inside, dot⟩ := mem_map.mp member
  have other := (word_char (h c inside)).2.2.2.2.2
  refine other (UInt8.toNat_inj.mp ?_)
  have same := congrArg UInt16.toNat dot
  rwa [UInt8.toNat_toUInt16] at same

theorem ticketParts_sealed (payload signature : Bytes) :
    ticketParts (ascii (ticketPrefix ++ literal "." ++ rawURLEncode payload ++ literal "." ++
      rawURLEncode signature)) =
      .ok (ascii (rawURLEncode payload), ascii (rawURLEncode signature)) := by
  have joined : ascii (ticketPrefix ++ literal "." ++ rawURLEncode payload ++ literal "." ++
      rawURLEncode signature) = [(46 : UInt16)].intercalate
        [tokenPrefix, ascii (rawURLEncode payload), ascii (rawURLEncode signature)] := by
    have dot : ascii (literal ".") = [46] := by decide
    have front : ascii ticketPrefix = tokenPrefix := rfl
    simp [ascii_append, dot, front, intercalate]
  have parts : ∀ part ∈ [tokenPrefix, ascii (rawURLEncode payload), ascii (rawURLEncode signature)],
      (46 : UInt16) ∉ part := by
    intro part member
    simp only [mem_cons, not_mem_nil, or_false] at member
    rcases member with rfl | rfl | rfl
    · decide
    · exact undotted (word_encoded payload)
    · exact undotted (word_encoded signature)
  rw [ticketParts, joined, splitOn_intercalate _ parts (cons_ne_nil _ _)]
  exact if_pos rfl

theorem sealed_length (payload signature : Bytes) :
    (ticketPrefix ++ literal "." ++ rawURLEncode payload ++ literal "." ++
      rawURLEncode signature).length =
      6 + (payload.length * 4 + 2) / 3 + (signature.length * 4 + 2) / 3 := by
  have encoded : ∀ bytes : Bytes, (rawURLEncode bytes).length = (bytes.length * 4 + 2) / 3 := by
    intro bytes
    rw [rawURLEncode, length_map, sixBit_length]
  have front : ticketPrefix.length = 4 ∧ (literal ".").length = 1 := by decide
  simp only [length_append, encoded, front.1, front.2]
  omega

/-- The checks that are left once the worker has read the claims -/
theorem verify_sealed (js : Runtime) (crypto : Crypto) {c : Claims} {privateKey : Bytes}
    (plain : PlainClaims c) (expected : Expected) (now : Int) :
    verifyRelayTicket js crypto (.string (ascii (sealed crypto privateKey c.json.render))) expected
      now = (do
        checkScope (properties c) expected
        checkLifetime (properties c) now
        checkProof crypto (properties c) (ascii (rawURLEncode c.json.render))
          (ascii (rawURLEncode (crypto.sign privateKey
            (TicketIssuer.signingContext ++ rawURLEncode c.json.render))))
        return .object (properties c)) := by
  obtain ⟨⟨-, short⟩, -, -⟩ := render_claims plain
  have nonempty : c.json.render ≠ [] := by
    exact cons_ne_nil _ _
  have positive := length_pos_iff.mpr nonempty
  have signature := crypto.sign_length privateKey
    (TicketIssuer.signingContext ++ rawURLEncode c.json.render)
  have length := sealed_length c.json.render
    (crypto.sign privateKey (TicketIssuer.signingContext ++ rawURLEncode c.json.render))
  have fair : ¬ ((ascii (sealed crypto privateKey c.json.render)).length < 32 ∨
      (ascii (sealed crypto privateKey c.json.render)).length > maxTicketLength) := by
    rw [ascii_length, sealed, length, maxTicketLength]
    omega
  have payload : ¬ (c.json.render.length = 0 ∨ c.json.render.length > 1024) := by omega
  rw [verifyRelayTicket, failIf_pass fair, sealed, ticketParts_sealed]
  simp only [ok_then, decodeBase64URL_encoded nonempty, failIf_pass payload, decode_claims js plain,
    Option.elim, shape_claims plain]

/-- What is known of a ticket that was issued -/
structure Issued (crypto : Crypto) (id : Identity crypto) (target role : Bytes) (slot : Int)
    (now : Time) (nonce ticket : Bytes) : Prop where
  key : id.publicKey.length = 32
  own : id.id = deviceID crypto id.publicKey
  valid : TicketIssuer.validDeviceID target = true
  case : Scoped id.id target role slot
  length : nonce.length = 16
  shape : ticket = sealed crypto id.privateKey
    (claimsFor id.id target role slot now nonce id.publicKey).json.render

theorem issued_of_issue {crypto : Crypto} {id : Identity crypto} {target role : Bytes} {slot : Int}
    {now : Time} {nonce ticket : Bytes}
    (h : issue crypto id target role slot now nonce = .ok ticket) :
    Issued crypto id target role slot now nonce ticket := by
  obtain ⟨keys, h⟩ := failIf_then.mp h
  obtain ⟨own, h⟩ := failIf_then.mp h
  obtain ⟨valid, h⟩ := failIf_then.mp h
  obtain ⟨_, case, h⟩ := bind_eq_ok.mp h
  obtain ⟨length, h⟩ := failIf_then.mp h
  rw [not_or, not_not] at keys
  exact {
    key := keys.1
    own := (not_not.mp own).symm
    valid := Bool.not_eq_false _ |>.mp valid
    case := scoped_of_checkRole case
    length := not_not.mp length
    shape := (Except.ok.inj h).symm }

theorem label_device {s : Bytes} (h : TicketIssuer.validDeviceID s = true) : Label s := by
  obtain ⟨rest, rfl, length, -⟩ := validDeviceID_iff.mp h
  refine ⟨word_device h, append_ne_nil_of_left_ne_nil (by decide) _, ?_⟩
  rw [length_append, length]
  decide

theorem label_encoded {bytes : Bytes} (some : bytes ≠ []) (short : bytes.length ≤ 32) :
    Label (rawURLEncode bytes) := by
  have length : (rawURLEncode bytes).length = (bytes.length * 4 + 2) / 3 := by
    rw [rawURLEncode, length_map, sixBit_length]
  have positive := length_pos_iff.mpr some
  refine ⟨word_encoded bytes, length_pos_iff.mp ?_, ?_⟩ <;> omega

theorem claimsFor_times (id target role : Bytes) (slot : Int) (now : Time)
    (nonce publicKey : Bytes) :
    (claimsFor id target role slot now nonce publicKey).issuedAt = now.unix ∧
      (claimsFor id target role slot now nonce publicKey).expiresAt = now.unix + 90 := by
  simp only [claimsFor, Time.unix, Time.truncateSecond, Time.utc, Time.add, ticketTTL,
    Time.nanosPerSecond]
  omega

theorem Scoped.label {id target role : Bytes} {slot : Int} (h : Scoped id target role slot) :
    Label role ∧ slot.natAbs ≤ maxSafeInteger := by
  cases h with
  | agent own kind =>
    refine ⟨by rw [kind]; decide, ?_⟩
    rw [maxSafeInteger]
    omega
  | client kind none =>
    rw [kind, none]
    decide
  | authorize own kind none =>
    rw [kind, none]
    decide

theorem Issued.plain {crypto : Crypto} {id : Identity crypto} {target role : Bytes} {slot : Int}
    {now : Time} {nonce ticket : Bytes} (h : Issued crypto id target role slot now nonce ticket)
    (issuedAt : now.unix.natAbs ≤ maxSafeInteger)
    (expiresAt : (now.unix + 90).natAbs ≤ maxSafeInteger) :
    PlainClaims (claimsFor id.id target role slot now nonce id.publicKey) := by
  have times := claimsFor_times id.id target role slot now nonce id.publicKey
  exact {
    version := show (2 : Int).natAbs ≤ maxSafeInteger by decide
    audience := show Label ticketAudience by decide
    issuer := by
      rw [h.own]
      exact label_device (valid_deviceID crypto id.publicKey)
    subject := label_device h.valid
    role := h.case.label.1
    slot := h.case.label.2
    issuedAt := by rwa [times.1]
    expiresAt := by rwa [times.2]
    tokenID := label_encoded (nonempty_of_length h.length) (by rw [h.length]; decide)
    publicKey := label_encoded (nonempty_of_length h.key) (Nat.le_of_eq h.key) }

/-- A ticket is accepted for what it was made for, from half a minute before it is issued until half
a minute after it expires, and for nothing else; and the two base 32 encodings are the same. -/
theorem ticket_agreement (js : Runtime) (crypto : Crypto) : (∀ id target role slot now nonce ticket,
      issue crypto id target role slot now nonce = .ok ticket →
      now.unix.natAbs ≤ maxSafeInteger → (now.unix + 90).natAbs ≤ maxSafeInteger →
      ∀ expected nowSeconds,
        (∃ claims, verifyRelayTicket js crypto (.string (ascii ticket)) expected nowSeconds =
          .ok claims) ↔
        expected = matching target role slot ∧
          now.unix - 30 ≤ nowSeconds ∧ nowSeconds ≤ now.unix + 90 + 30) ∧
    ∀ bytes, base32NoPadding bytes = ascii (toLower (base32Encode bytes)) := by
  refine ⟨?_, base32NoPadding_eq⟩
  intro id target role slot now nonce ticket made issuedAt expiresAt expected nowSeconds
  have issued := issued_of_issue made
  have plain := issued.plain issuedAt expiresAt
  have times := claimsFor_times id.id target role slot now nonce id.publicKey
  have issuer : TicketIssuer.validDeviceID id.id = true := by
    rw [issued.own]
    exact valid_deviceID crypto id.publicKey
  have scope := @checkScope_iff (claimsFor id.id target role slot now nonce id.publicKey) expected
    rfl rfl issuer issued.valid issued.case
  have lifetime := @checkLifetime_iff (claimsFor id.id target role slot now nonce id.publicKey)
    nowSeconds plain (by rw [times.1, times.2])
  have proof := @checkProof_issued crypto
    (claimsFor id.id target role slot now nonce id.publicKey) id.privateKey nonce id.publicKey
    (claimsFor id.id target role slot now nonce id.publicKey).json.render id.keyPair rfl rfl
    issued.own issued.length issued.key
  rw [times.1, times.2] at lifetime
  rw [issued.shape, verify_sealed js crypto plain, ← lifetime]
  constructor
  · rintro ⟨claims, accepted⟩
    obtain ⟨_, passed, accepted⟩ := bind_eq_ok.mp accepted
    obtain ⟨_, intime, -⟩ := bind_eq_ok.mp accepted
    exact ⟨scope.mp passed, intime⟩
  · rintro ⟨asked, intime⟩
    refine ⟨.object (properties (claimsFor id.id target role slot now nonce id.publicKey)), ?_⟩
    refine bind_eq_ok.mpr ⟨(), scope.mpr asked, bind_eq_ok.mpr ⟨(), intime, ?_⟩⟩
    exact bind_eq_ok.mpr ⟨(), proof, rfl⟩

def sampleCrypto : Crypto where
  sha256 message := (message ++ replicate 32 0).take 32
  KeyPair publicKey privateKey := privateKey.drop 32 = publicKey
  sign privateKey message := (privateKey.drop 32 ++ message ++ replicate 64 0).take 64
  verify publicKey message signature :=
    signature == (publicKey ++ message ++ replicate 64 0).take 64
  sha256_length message := by simp
  sign_length privateKey message := by
    simp
    omega
  verify_sign publicKey privateKey message pair := by
    rw [← pair]
    exact beq_self_eq_true _

def sampleIdentity : Identity sampleCrypto where
  id := literal "wd_aaaaaaaaaaaaaaaa"
  publicKey := replicate 32 0
  privateKey := replicate 64 0
  keyPair := rfl

def sampleRuntime : Runtime where
  objectText _ := none
  objectNumber _ := none
  numberText _ := []
  textNumber s :=
    if s = text "9007199254740992" then .int 9007199254740992
    else if s = text "9007199254741082" then .int 9007199254741082 else .nan
  lowerCase s := s
  parseDate _ := none

def sampleNonce : Bytes := replicate 16 7

/-- A ticket of an agent is accepted while it lasts. -/
theorem ticket_accepted : ∃ ticket, issue sampleCrypto sampleIdentity sampleIdentity.id
      (literal "agent") 3 (Time.wall 1700000000500000000) sampleNonce = .ok ticket ∧
    ∃ claims, verifyRelayTicket sampleRuntime sampleCrypto (.string (ascii ticket))
      (matching sampleIdentity.id (literal "agent") 3) 1700000120 = .ok claims := by
  obtain ⟨ticket, made⟩ := exists_ok (show (issue sampleCrypto sampleIdentity sampleIdentity.id
    (literal "agent") 3 (Time.wall 1700000000500000000) sampleNonce).toOption.isSome = true by
      decide +kernel)
  refine ⟨ticket, made, ?_⟩
  exact ((ticket_agreement sampleRuntime sampleCrypto).1 _ _ _ _ _ _ _ made (by decide) (by decide)
    _ _).mpr ⟨rfl, by decide, by decide⟩

/-- A ticket that is issued when the seconds are no safe integer is refused at once. -/
theorem unsafe_time_refused : ∃ ticket, issue sampleCrypto sampleIdentity sampleIdentity.id
      (literal "client") 0 (Time.wall (9007199254740992 * 1000000000)) sampleNonce = .ok ticket ∧
    ¬ ∃ claims, verifyRelayTicket sampleRuntime sampleCrypto (.string (ascii ticket))
      (matching sampleIdentity.id (literal "client") 0) 9007199254740992 = .ok claims := by
  have refused : ((issue sampleCrypto sampleIdentity sampleIdentity.id (literal "client") 0
      (Time.wall (9007199254740992 * 1000000000)) sampleNonce).toOption.any fun ticket =>
        !(verifyRelayTicket sampleRuntime sampleCrypto (.string (ascii ticket))
          (matching sampleIdentity.id (literal "client") 0) 9007199254740992).toOption.isSome) =
      true := by
    decide +kernel
  obtain ⟨ticket, made, rejected⟩ := (Option.any_eq_true _ _).mp refused
  refine ⟨ticket, ok_of_toOption made, ?_⟩
  rintro ⟨claims, accepted⟩
  rw [accepted] at rejected
  cases rejected

end TicketAgreement
