import WeDecent.Library.GoUnmarshal
import WeDecent.TicketIssuer

/-!
# Signed announcements

`verifyAnnouncement` and `signingBytes` of `discovery/discovery.go`. The signed text joins the
fields with NUL bytes, and nothing keeps these out of the name. It is taken apart from both ends:
the fields before the name and those after it have none.
-/

namespace Discovery

open List ByteDigits Decimal Fallible GoText GoUnmarshal
open TicketIssuer (Bytes Crypto toLower)

structure SignedAnnouncement where
  version : Int64
  deviceID : Bytes
  name : Bytes
  port : Int64
  publicKey : Bytes
  unixTime : Int64
  signature : Bytes
  deriving DecidableEq

def announcementFields : List (StructField SignedAnnouncement) :=
  [.of "version" (·.version) (fun a v => { a with version := v }) int64,
    .of "device_id" (·.deviceID) (fun a v => { a with deviceID := v }) string,
    .of "name" (·.name) (fun a v => { a with name := v }) string,
    .of "port" (·.port) (fun a v => { a with port := v }) int64,
    .of "public_key" (·.publicKey) (fun a v => { a with publicKey := v }) string,
    .of "unix_time" (·.unixTime) (fun a v => { a with unixTime := v }) int64,
    .of "signature" (·.signature) (fun a v => { a with signature := v }) string]

def unmarshalAnnouncement (data : Bytes) : Option SignedAnnouncement :=
  unmarshal ⟨0, [], [], 0, [], 0, []⟩ (struct announcementFields) data

/-- The value of a character of the standard alphabet. -/
def stdValue (c : UInt8) : Option Nat :=
  if c = 43 then some 62
  else if c = 47 then some 63
  else if c = 45 ∨ c = 95 then none
  else base64Value c

/-- `base64.RawStdEncoding.DecodeString`; `none` is its error. -/
def rawStdDecode (text : Bytes) : Option Bytes :=
  ((text.filter fun c => c != 10 && c != 13).mapM stdValue).bind base64Groups

def message (a : SignedAnnouncement) : Bytes :=
  integer a.version.toInt ++ 0 :: (a.deviceID ++ 0 :: (a.name ++ 0 :: (integer a.port.toInt ++
    0 :: (a.publicKey ++ 0 :: integer a.unixTime.toInt))))

def signingBytes (crypto : Crypto) (a : SignedAnnouncement) : Bytes := crypto.sha256 (message a)

structure Result where
  deviceID : Bytes
  name : Bytes
  endpoint : Bytes
  fingerprint : Bytes
  deriving DecidableEq

inductive VerifyError where
  | json
  | stale
  | publicKey
  | signature
  | deviceID
  | fingerprint

/-- `net.JoinHostPort` -/
def joinHostPort (host port : Bytes) : Bytes :=
  if host.contains 58 then 91 :: host ++ [93, 58] ++ port
  else host ++ 58 :: port

def orElse {α : Type} (e : VerifyError) : Option α → Except VerifyError α
  | some a => .ok a
  | none => .error e

/-- The clock is read twice, for `time.Since` and for `time.Until`, in nanoseconds. -/
def verifyAnnouncement (crypto : Crypto) (fingerprintPublicKey : Bytes → Option Bytes)
    (since upTo : Int) (ip data : Bytes) : Except VerifyError Result := do
  let a ← orElse .json (unmarshalAnnouncement data)
  let sent := a.unixTime.toInt * 1000000000
  let limit := 30000000000
  failIf (a.version ≠ 1 ∨ a.port < 1 ∨ 65535 < a.port ∨ limit < since - sent ∨ limit < sent - upTo)
    .stale
  let pub ← orElse .publicKey (rawStdDecode a.publicKey)
  failIf (pub.length ≠ 32) .publicKey
  let sig ← orElse .signature (rawStdDecode a.signature)
  failIf (crypto.verify pub (signingBytes crypto a) sig ≠ true) .signature
  failIf (TicketIssuer.deviceID crypto pub ≠ a.deviceID) .deviceID
  let fp ← orElse .fingerprint (fingerprintPublicKey pub)
  .ok ⟨a.deviceID, a.name, joinHostPort ip (integer a.port.toInt), fp⟩

section Split

variable {α : Type} {sep : α} {a b x y : List α}

theorem split_first (left : sep ∉ a) (right : sep ∉ b) (same : a ++ sep :: x = b ++ sep :: y) :
    a = b ∧ x = y := by
  induction a generalizing b with
  | nil =>
    cases b with
    | nil => exact ⟨rfl, (cons.inj same).2⟩
    | cons c b => exact absurd ((cons.inj same).1 ▸ mem_cons_self) right
  | cons c a ih =>
    cases b with
    | nil => exact absurd ((cons.inj same).1 ▸ mem_cons_self) left
    | cons d b =>
      obtain ⟨head, tail⟩ := cons.inj same
      obtain ⟨rest, back⟩ := ih (mt (mem_cons_of_mem c) left) (mt (mem_cons_of_mem d) right) tail
      exact ⟨head ▸ rest ▸ rfl, back⟩

theorem split_last (left : sep ∉ a) (right : sep ∉ b) (same : x ++ sep :: a = y ++ sep :: b) :
    x = y ∧ a = b := by
  have back := congrArg reverse same
  simp only [reverse_append, reverse_cons, append_assoc, singleton_append] at back
  obtain ⟨ends, fronts⟩ := split_first (mt mem_reverse.mp left) (mt mem_reverse.mp right) back
  exact ⟨reverse_inj.mp fronts, reverse_inj.mp ends⟩

end Split

theorem stdValue_zero : stdValue 0 = none := by decide

theorem decoded_plain {text bytes : Bytes} (h : rawStdDecode text = some bytes) : 0 ∉ text := by
  intro member
  obtain ⟨values, decoded, -⟩ := Option.bind_eq_some_iff.mp h
  obtain ⟨n, value⟩ := mapM_some decoded 0 (mem_filter.mpr ⟨member, rfl⟩)
  cases stdValue_zero.symm.trans value

theorem integer_plain (n : Int) : 0 ∉ integer n := by
  have digits : 0 ∉ numeral n.natAbs := fun member => by
    cases isDigit_numeral n.natAbs 0 member
  unfold integer
  split
  · exact not_mem_cons_of_ne_of_not_mem (by decide) digits
  · exact digits

theorem numeral_injective {m n : Nat} (same : numeral m = numeral n) : m = n := by
  have read := congrArg number same
  rw [number_numeral, number_numeral] at read
  exact Option.some.inj read

theorem integer_injective {m n : Int} (same : integer m = integer n) : m = n := by
  have unsigned : ∀ {k : Nat} {rest}, numeral k ≠ 45 :: rest := by
    intro k rest signed
    cases isDigit_numeral k 45 (signed ▸ mem_cons_self)
  unfold integer at same
  split at same
  · split at same
    · have size := numeral_injective (cons.inj same).2
      omega
    · exact absurd same.symm unsigned
  · split at same
    · exact absurd same unsigned
    · have size := numeral_injective same
      omega

theorem deviceID_plain (crypto : Crypto) (pub : Bytes) : 0 ∉ TicketIssuer.deviceID crypto pub := by
  intro member
  rcases mem_append.mp member with front | back
  · exact absurd front (by decide)
  rw [toLower, base32Encode, map_map] at back
  obtain ⟨d, inside, zero⟩ := mem_map.mp back
  have digits : ∀ n < 32, (fun c => if 65 ≤ c ∧ c ≤ 90 then c + 32 else c) (base32Digit n) ≠ 0 := by
    decide
  exact digits d (fiveBit_lt _ d inside) zero

variable {crypto : Crypto} {fingerprintPublicKey : Bytes → Option Bytes} {since upTo : Int}
  {ip data : Bytes} {a : SignedAnnouncement} {r : Result}

theorem orElse_eq_ok {α : Type} {e : VerifyError} {x : Option α} {v : α} :
    orElse e x = .ok v ↔ x = some v := by
  cases x <;> simp [orElse]

theorem accepted_plain (decoded : unmarshalAnnouncement data = some a)
    (accepted : verifyAnnouncement crypto fingerprintPublicKey since upTo ip data = .ok r) :
    a.version = 1 ∧ 0 ∉ a.deviceID ∧ 0 ∉ a.publicKey := by
  unfold verifyAnnouncement at accepted
  rw [decoded] at accepted
  obtain ⟨fresh, accepted⟩ := failIf_then.mp accepted
  obtain ⟨pub, key, accepted⟩ := bind_eq_ok.mp accepted
  obtain ⟨-, accepted⟩ := failIf_then.mp accepted
  obtain ⟨sig, -, accepted⟩ := bind_eq_ok.mp accepted
  obtain ⟨-, accepted⟩ := failIf_then.mp accepted
  obtain ⟨device, -⟩ := failIf_then.mp accepted
  refine ⟨not_not.mp fun other => fresh (.inl other), ?_, decoded_plain (orElse_eq_ok.mp key)⟩
  exact not_not.mp device ▸ deviceID_plain crypto pub

/-- Two accepted announcements whose signed text is the same, as it is where their digests are,
agree on what is signed. -/
theorem signed_fields_unambiguous {since' upTo' : Int} {ip' data' : Bytes}
    {b : SignedAnnouncement} {r' : Result} (decoded : unmarshalAnnouncement data = some a)
    (accepted : verifyAnnouncement crypto fingerprintPublicKey since upTo ip data = .ok r)
    (decoded' : unmarshalAnnouncement data' = some b)
    (accepted' : verifyAnnouncement crypto fingerprintPublicKey since' upTo' ip' data' = .ok r')
    (collisionFree : crypto.sha256 (message a) = crypto.sha256 (message b) →
      message a = message b)
    (same : signingBytes crypto a = signingBytes crypto b) :
    a.version = b.version ∧ a.deviceID = b.deviceID ∧ a.name = b.name ∧ a.port = b.port ∧
      a.publicKey = b.publicKey ∧ a.unixTime = b.unixTime := by
  obtain ⟨version, device, key⟩ := accepted_plain decoded accepted
  obtain ⟨version', device', key'⟩ := accepted_plain decoded' accepted'
  have text := collisionFree same
  unfold message at text
  obtain ⟨-, text⟩ := split_first (integer_plain _) (integer_plain _) text
  obtain ⟨sameDevice, text⟩ := split_first device device' text
  -- from here on the text is taken apart from its end
  simp only [← cons_append, ← append_assoc] at text
  obtain ⟨text, time⟩ := split_last (integer_plain _) (integer_plain _) text
  obtain ⟨text, sameKey⟩ := split_last key key' text
  obtain ⟨sameName, port⟩ := split_last (integer_plain _) (integer_plain _) text
  exact ⟨version.trans version'.symm, sameDevice, sameName, Int64.toInt_inj.mp
    (integer_injective port), sameKey, Int64.toInt_inj.mp (integer_injective time)⟩

theorem filled_length (m : Bytes) : ((m ++ replicate 32 0).take 32).length = 32 := by simp

def plainCrypto : Crypto where
  sha256 message := (message ++ replicate 32 0).take 32
  KeyPair _ _ := True
  sign _ _ := replicate 64 0
  verify _ _ signature := signature == replicate 64 0
  sha256_length := filled_length
  sign_length _ _ := length_replicate
  verify_sign _ _ _ _ := beq_self_eq_true _

def sampleData (ending : String) : Bytes :=
  literal "\x7b\"version\":1,\"device_id\":\"wd_aaaaaaaaaaaaaaaa\",\"name\":\"a\\u0000b\","
    ++ literal "\"port\":7,\"unix_time\":0,\"public_key\":\"" ++ replicate 43 65 ++
    literal "\",\"signature\":\"" ++ replicate 86 65 ++ literal (ending ++ "\"\x7d")

def sample (ending : Bytes) : SignedAnnouncement :=
  ⟨1, literal "wd_aaaaaaaaaaaaaaaa", [97, 0, 98], 7, replicate 43 65, 0, replicate 86 65 ++ ending⟩

def sampleResult : Result :=
  ⟨literal "wd_aaaaaaaaaaaaaaaa", [97, 0, 98], literal "10.0.0.1:7", replicate 32 0⟩

theorem sample_decoded : unmarshalAnnouncement (sampleData "") = some (sample []) ∧
    unmarshalAnnouncement (sampleData "\\n") = some (sample [10]) := by decide +kernel

theorem sample_accepted (ending : String) (found : ending = "" ∨ ending = "\\n") :
    verifyAnnouncement plainCrypto some 0 0 (literal "10.0.0.1") (sampleData ending) =
      .ok sampleResult := by
  rcases found with rfl | rfl <;> exact ok_of_toOption (by decide +kernel)

/-- The name contains the separator, and the signatures are different texts. -/
theorem signed_fields_unambiguous_nul : (sample []).version = (sample [10]).version ∧
    (sample []).deviceID = (sample [10]).deviceID ∧ (sample []).name = (sample [10]).name ∧
      (sample []).port = (sample [10]).port ∧ (sample []).publicKey = (sample [10]).publicKey ∧
        (sample []).unixTime = (sample [10]).unixTime :=
  signed_fields_unambiguous sample_decoded.1 (sample_accepted _ (.inl rfl)) sample_decoded.2
    (sample_accepted _ (.inr rfl)) (fun _ => rfl) rfl

end Discovery
