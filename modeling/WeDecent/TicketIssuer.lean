import WeDecent.Library.ByteDigits
import WeDecent.Library.Fallible
import WeDecent.Library.GoJson
import WeDecent.Library.GoTime
import WeDecent.Library.Json

/-!
# Relay tickets

`issue` in `relayauth/ticket.go`, with `DeviceID` of `identity/identity.go`. An endpoint proves to
the cloud relay who it is with a ticket that it signs with its own key: the claims as JSON and the
signature, both in base 64.
-/

namespace TicketIssuer

open ByteDigits Decimal Fallible GoText GoTime

abbrev Bytes := List UInt8

/-- SHA-256 and Ed25519 -/
structure Crypto where
  sha256 : Bytes → Bytes
  -- The private key of a public key
  KeyPair : Bytes → Bytes → Prop
  sign : Bytes → Bytes → Bytes
  verify : Bytes → Bytes → Bytes → Bool
  sha256_length : ∀ message, (sha256 message).length = 32
  sign_length : ∀ privateKey message, (sign privateKey message).length = 64
  verify_sign : ∀ publicKey privateKey message, KeyPair publicKey privateKey →
    verify publicKey message (sign privateKey message) = true

/-- `strings.ToLower`, for ASCII -/
def toLower (text : Bytes) : Bytes := text.map fun c => if 65 ≤ c ∧ c ≤ 90 then c + 32 else c

def deviceID (crypto : Crypto) (publicKey : Bytes) : Bytes :=
  literal "wd_" ++ toLower (base32Encode ((crypto.sha256 publicKey).take 10))

/-- The keys of an identity are a pair: `ensure` takes the public key from the private one. -/
structure Identity (crypto : Crypto) where
  id : Bytes
  publicKey : Bytes
  privateKey : Bytes
  keyPair : crypto.KeyPair publicKey privateKey

def ticketPrefix : Bytes := literal "wdt2"
def ticketAudience : Bytes := literal "wedecent-relay"
def ticketTTL : Int := 90 * Time.nanosPerSecond
def signingContext : Bytes := literal "wedecent-relay-ticket-v2\n"
def maxAgentSlots : Int := 32

structure Claims where
  version : Int
  audience : Bytes
  issuer : Bytes
  subject : Bytes
  role : Bytes
  slot : Int
  issuedAt : Int
  expiresAt : Int
  tokenID : Bytes
  publicKey : Bytes

def jsonString (text : Bytes) : Json := .string (GoJson.escaped text.length text)

def jsonInt (n : Int) : Json := .number (integer n)

/-- The struct tags name the members; the slot is left out when it is zero. -/
def Claims.json (c : Claims) : Json :=
  .object ([(literal "v", jsonInt c.version), (literal "aud", jsonString c.audience),
    (literal "iss", jsonString c.issuer), (literal "sub", jsonString c.subject),
    (literal "role", jsonString c.role)] ++
    (if c.slot = 0 then [] else [(literal "slot", jsonInt c.slot)]) ++
    [(literal "iat", jsonInt c.issuedAt), (literal "exp", jsonInt c.expiresAt),
      (literal "jti", jsonString c.tokenID), (literal "pk", jsonString c.publicKey)])

def validDeviceID (s : Bytes) : Bool :=
  s.length == 19 && (literal "wd_").isPrefixOf s && (s.drop 3).all fun c =>
    (97 ≤ c && c ≤ 122) || (50 ≤ c && c ≤ 55)

/-- The `switch` over the role -/
def checkRole (id target role : Bytes) (slot : Int) : Except String Unit :=
  if role = literal "agent" then do
    failIf (target ≠ id) "agent relay ticket must target its own device ID"
    failIf (slot < 1 ∨ slot > maxAgentSlots) "agent relay ticket slot must be between 1 and 32"
  else if role = literal "client" then
    failIf (slot ≠ 0) "client relay ticket must not contain an agent slot"
  else if role = literal "authorize" then do
    failIf (target ≠ id) "authorization ticket must target its own device ID"
    failIf (slot ≠ 0) "authorization ticket must not contain an agent slot"
  else .error "invalid relay ticket role"

def claimsFor (id target role : Bytes) (slot : Int) (now : Time) (nonce publicKey : Bytes) :
    Claims :=
  let now := now.utc.truncateSecond
  { version := 2
    audience := ticketAudience
    issuer := id
    subject := target
    role := role
    slot := slot
    issuedAt := now.unix
    expiresAt := (now.add ticketTTL).unix
    tokenID := rawURLEncode nonce
    publicKey := rawURLEncode publicKey }

/-- The ticket of a payload -/
def sealed (crypto : Crypto) (privateKey payload : Bytes) : Bytes :=
  let payloadPart := rawURLEncode payload
  let signature := crypto.sign privateKey (signingContext ++ payloadPart)
  ticketPrefix ++ literal "." ++ payloadPart ++ literal "." ++ rawURLEncode signature

def issue (crypto : Crypto) (id : Identity crypto) (target role : Bytes) (slot : Int) (now : Time)
    (nonce : Bytes) : Except String Bytes := do
  failIf (id.publicKey.length ≠ 32 ∨ id.privateKey.length ≠ 64)
    "relay ticket identity is incomplete"
  failIf (deviceID crypto id.publicKey ≠ id.id) "relay ticket identity ID does not match public key"
  failIf (validDeviceID target = false) "invalid relay ticket target device ID"
  checkRole id.id target role slot
  failIf (nonce.length ≠ 16) "relay ticket nonce must contain 16 bytes"
  let claims := claimsFor id.id target role slot now nonce id.publicKey
  return sealed crypto id.privateKey claims.json.render

end TicketIssuer
