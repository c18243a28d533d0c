import WeDecent.Library.JsJson
import WeDecent.TicketIssuer

/-!
# The worker's check of relay tickets

`cloudflare/relay-worker/src/relay-auth.js`. The worker takes a ticket apart, reads the claims and
compares them with what the request asks for, and checks that the key of the ticket belongs to the
issuer and has signed the ticket. Times are whole seconds; `Date.now()` is so small that the sums
are exact.
-/

namespace TicketVerifier

open Fallible JavaScript TicketIssuer

def tokenPrefix : Text := text "wdt2"
def audience : Text := text "wedecent-relay"
def signingContext : Text := text "wedecent-relay-ticket-v2\n"
def maxTicketLength : Nat := 2048
def maxLifetimeSeconds : Int := 120
def clockSkewSeconds : Int := 30
def base32Alphabet : Text := text "abcdefghijklmnopqrstuvwxyz234567"
def requiredKeys : List String := ["v", "aud", "iss", "sub", "role", "iat", "exp", "jti", "pk"]
def allowedKeys : List String := requiredKeys ++ ["slot"]

/-- `[a-z2-7]` -/
def isBase32 (u : UInt16) : Bool := (97 ≤ u && u ≤ 122) || (50 ≤ u && u ≤ 55)

def deviceIDPattern (s : Text) : Bool :=
  s.take 3 == text "wd_" && (s.drop 3).length == 16 && (s.drop 3).all isBase32

/-- What the request asks for -/
structure Expected where
  deviceId : Text
  role : Text
  slot : Option Number

/-- `[A-Za-z0-9_-]` -/
def isBase64URL (u : UInt16) : Bool :=
  (65 ≤ u && u ≤ 90) || (97 ≤ u && u ≤ 122) || (48 ≤ u && u ≤ 57) || u == 95 || u == 45

/-- The value of a character of the standard alphabet -/
def base64Value (u : UInt16) : Option Nat :=
  let n := u.toNat
  if 65 ≤ n ∧ n ≤ 90 then some (n - 65)
  else if 97 ≤ n ∧ n ≤ 122 then some (n - 71)
  else if 48 ≤ n ∧ n ≤ 57 then some (n + 4)
  else if n = 43 then some 62
  else if n = 47 then some 63
  else none

def dropPadding (s : Text) : Text :=
  match s.reverse with
  | 61 :: 61 :: rest => rest.reverse
  | 61 :: rest => rest.reverse
  | _ => s

/-- `atob`; `none` where it throws -/
def atob (s : Text) : Option Bytes :=
  let s := s.filter fun u => !([9, 10, 12, 13, 32].contains u)
  let s := if s.length % 4 = 0 then dropPadding s else s
  if s.length % 4 = 1 then none else (s.mapM base64Value).bind GoText.base64Groups

/-- The two characters that differ are replaced by those of the standard alphabet. -/
def standard (s : Text) : Text := s.map fun u => if u = 45 then 43 else if u = 95 then 47 else u

def decodeBase64URL (s : Text) : Except Thrown Bytes :=
  if s.length = 0 ∨ s.length % 4 = 1 ∨ s.all isBase64URL = false then
    .error (.error "invalid base64url value")
  else
    match atob (standard s ++ List.replicate ((4 - s.length % 4) % 4) 61) with
    | some bytes => .ok bytes
    | none => .error (.error "invalid base64url value")

/-- The digits that are shifted out while there are five bits, and the bits that are left. Shift
counts are taken modulo 32. -/
def shiftOut (value : BitVec 32) : Nat → Text × Nat
  | bits + 5 =>
    let (out, left) := shiftOut value bits
    (base32Alphabet.getD ((value >>> (bits % 32)) &&& 31).toNat 0 :: out, left)
  | bits => ([], bits)

structure Register where
  value : BitVec 32
  bits : Nat
  out : Text

def Register.shiftIn (r : Register) (byte : UInt8) : Register :=
  let value := (r.value <<< 8) ||| byte.toBitVec.setWidth 32
  let (out, bits) := shiftOut value (r.bits + 8)
  { value := if bits > 24 then value &&& ((1 <<< (bits % 32)) - 1) else value
    bits := bits
    out := r.out ++ out }

def base32NoPadding (bytes : Bytes) : Text :=
  let r := bytes.foldl Register.shiftIn ⟨0, 0, []⟩
  if r.bits > 0 then
    r.out ++ [base32Alphabet.getD ((r.value <<< ((5 - r.bits) % 32)) &&& 31).toNat 0]
  else r.out

def deviceIDFromPublicKey (crypto : Crypto) (publicKey : Bytes) : Text :=
  text "wd_" ++ base32NoPadding ((crypto.sha256 publicKey).take 10)

/-- `claims.name` -/
def field (properties : List (Text × Value)) (name : String) : Value :=
  ((properties.find? fun p => p.1 == text name).map Prod.snd).getD .undefined

def safeInteger : Value → Option Int
  | .number n => n.safeInteger?
  | _ => none

/-- A string that is not empty -/
def given : Value → Bool
  | .string s => !s.isEmpty
  | _ => false

def validateClaimsShape (claims : Value) : Except Thrown (List (Text × Value)) :=
  match claims with
  | .object properties => do
    failIf (requiredKeys.any (fun key => !properties.any (·.1 == text key)) = true)
      (.error "relay ticket is missing required claims")
    failIf (properties.any (fun p => !allowedKeys.any (fun key => p.1 == text key)) = true)
      (.error "relay ticket contains unsupported claims")
    failIf (["aud", "iss", "sub", "role", "jti", "pk"].any
      (fun key => !given (field properties key)) = true) (.error "invalid relay ticket claim type")
    failIf (safeInteger (field properties "v") = none) (.error "invalid relay ticket version")
    return properties
  | _ => .error (.error "invalid relay ticket claims")

def isDeviceID : Value → Bool
  | .string s => deviceIDPattern s
  | _ => false

/-- `a === b`, for strings -/
def sameText : Value → Value → Bool
  | .string s, .string t => s == t
  | _, _ => false

def isUndefined : Value → Bool
  | .undefined => true
  | _ => false

/-- `Number.isInteger(slot) && slot === expected` -/
def sameSlot : Value → Option Number → Bool
  | .number n, some m => n.isInteger && n.strictEqual m
  | _, _ => false

/-- The checks of the version, the device IDs and the role -/
def checkScope (claims : List (Text × Value)) (expected : Expected) : Except Thrown Unit := do
  failIf ((field claims "v").isNumber 2 = false ∨ (field claims "aud").isText audience = false)
    (.error "unsupported relay ticket")
  failIf (isDeviceID (field claims "iss") = false ∨ isDeviceID (field claims "sub") = false)
    (.error "invalid relay ticket device ID")
  failIf ((field claims "sub").isText expected.deviceId = false ∨
    (field claims "role").isText expected.role = false) (.error "relay ticket scope mismatch")
  if (field claims "role").isText (text "agent") then
    failIf (sameText (field claims "iss") (field claims "sub") = false ∨
      sameSlot (field claims "slot") expected.slot = false)
      (.error "invalid agent relay ticket scope")
  else if (field claims "role").isText (text "client") then
    failIf (isUndefined (field claims "slot") = false ∨ expected.slot ≠ none)
      (.error "invalid client relay ticket scope")
  else if (field claims "role").isText (text "authorize") then
    failIf (sameText (field claims "iss") (field claims "sub") = false ∨
      isUndefined (field claims "slot") = false ∨ expected.slot ≠ none)
      (.error "invalid authorization ticket scope")
  else .error (.error "invalid relay ticket role")

def checkLifetime (claims : List (Text × Value)) (nowSeconds : Int) : Except Thrown Unit :=
  match safeInteger (field claims "iat"), safeInteger (field claims "exp") with
  | some iat, some exp => do
    failIf (exp ≤ iat) (.error "invalid relay ticket lifetime")
    failIf (exp - iat > maxLifetimeSeconds) (.error "relay ticket lifetime is too long")
    failIf (iat > nowSeconds + clockSkewSeconds ∨ exp < nowSeconds - clockSkewSeconds)
      (.error "relay ticket is not currently valid")
  | _, _ => .error (.error "invalid relay ticket lifetime")

/-- `decodeBase64URL(value)` -/
def decodeValue : Value → Except Thrown Bytes
  | .string s => decodeBase64URL s
  | _ => .error (.error "invalid base64url value")

/-- The checks of the ID, the key and the signature -/
def checkProof (crypto : Crypto) (claims : List (Text × Value)) (payload signature : Text) :
    Except Thrown Unit := do
  let tokenID ← decodeValue (field claims "jti")
  failIf (tokenID.length ≠ 16) (.error "invalid relay ticket ID")
  let publicKey ← decodeValue (field claims "pk")
  failIf (publicKey.length ≠ 32) (.error "invalid relay ticket public key")
  failIf ((field claims "iss").isText (deviceIDFromPublicKey crypto publicKey) = false)
    (.error "relay ticket issuer does not match public key")
  let signature ← decodeBase64URL signature
  failIf (signature.length ≠ 64) (.error "invalid relay ticket signature length")
  failIf (crypto.verify publicKey (utf8 (signingContext ++ payload)) signature = false)
    (.error "invalid relay ticket signature")

/-- `token.split(".")`, where it gives three parts of which the first is the prefix -/
def ticketParts (token : Text) : Except Thrown (Text × Text) :=
  match token.splitOn 46 with
  | [version, payload, signature] =>
    if version = tokenPrefix then .ok (payload, signature)
    else .error (.error "invalid relay ticket format")
  | _ => .error (.error "invalid relay ticket format")

def verifyRelayTicket (js : Runtime) (crypto : Crypto) (token : Value) (expected : Expected)
    (nowSeconds : Int) : Except Thrown Value :=
  match token with
  | .string token => do
    failIf (token.length < 32 ∨ token.length > maxTicketLength)
      (.error "invalid relay ticket length")
    let (payload, signature) ← ticketParts token
    let payloadBytes ← decodeBase64URL payload
    failIf (payloadBytes.length = 0 ∨ payloadBytes.length > 1024)
      (.error "invalid relay ticket payload length")
    let claims ← ((JsJson.decode js payloadBytes).elim
      (.error (.error "invalid relay ticket payload")) .ok : Except Thrown Value)
    let properties ← validateClaimsShape claims
    checkScope properties expected
    checkLifetime properties nowSeconds
    checkProof crypto properties payload signature
    return claims
  | _ => .error (.error "invalid relay ticket length")

end TicketVerifier
