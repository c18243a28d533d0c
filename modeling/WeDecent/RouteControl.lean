import WeDecent.Library.Codec
import WeDecent.Library.Fallible
import WeDecent.Library.GoText

/-!
# Route control frames

`mesh/routecontrol.go`: a header of twelve bytes (magic, version, type, two reserved
bytes and the length of the payload) and a JSON payload. The request is decoded by a
function that the router's model takes as an argument; the responses are few, and
their texts are written out here.
-/

namespace RouteControl

open List Codec Fallible GoText

abbrev Bytes := List UInt8

def routeControlVersion : UInt8 := 2
def maxRouteControlPayload : Nat := 65536
def routeControlHeaderSize : Nat := 12
def routeControlMagic : Bytes := literal "WDRT"

def routeControlOpen : UInt8 := 1
def routeControlResponse : UInt8 := 2

/-- The header `writeRouteControlFrame` makes for a payload of this length. -/
def header (typ : UInt8) (length : Nat) : Bytes :=
  routeControlMagic ++ [routeControlVersion, typ, 0, 0] ++ bigEndian 4 length

def frame (typ : UInt8) (payload : Bytes) : Bytes := header typ payload.length ++ payload

inductive FrameError where
  | shortHeader
  | magic
  | version
  | type
  | reserved
  | empty
  | tooLarge
  | shortPayload

/-- What `readRouteControlFrame` checks of the header; the length of the payload. -/
def readHeader (h : Bytes) (expected : UInt8) : Except FrameError Nat := do
  failIf (h.take 4 ≠ routeControlMagic) .magic
  failIf (h[4]? ≠ some routeControlVersion) .version
  failIf (h[5]? ≠ some expected) .type
  failIf (h[6]? ≠ some 0 ∨ h[7]? ≠ some 0) .reserved
  let length := ofBigEndian ((h.drop 8).take 4)
  failIf (length = 0) .empty
  failIf (length > maxRouteControlPayload) .tooLarge
  return length

@[simp] theorem header_length (typ : UInt8) (length : Nat) :
    (header typ length).length = routeControlHeaderSize := by
  simp only [header, length_append, bigEndian_length]
  rfl

/-- The payloads that fit into a frame. -/
def Fits (payload : Bytes) : Prop := payload ≠ [] ∧ payload.length ≤ maxRouteControlPayload

theorem readHeader_header {typ : UInt8} {length : Nat} (some_length : length ≠ 0)
    (fits : length ≤ maxRouteControlPayload) : readHeader (header typ length) typ = .ok length := by
  have small : length < 256 ^ 4 := by
    unfold maxRouteControlPayload at fits
    omega
  have value : ofBigEndian (((header typ length).drop 8).take 4) = length := by
    have field : ((header typ length).drop 8).take 4 = bigEndian 4 length := by
      change (bigEndian 4 length).take 4 = bigEndian 4 length
      exact take_of_length_le (Nat.le_of_eq (bigEndian_length 4 length))
    rw [field, ofBigEndian_bigEndian small]
  simp only [readHeader, value, bind_eq_ok, failIf_eq_ok]
  refine ⟨(), ?_, (), ?_, (), ?_, (), ?_, (), some_length, (), Nat.not_lt.mpr fits, rfl⟩
  · exact not_not.mpr rfl
  · exact not_not.mpr rfl
  · exact not_not.mpr rfl
  · exact not_or.mpr ⟨not_not.mpr rfl, not_not.mpr rfl⟩

/-- Who reads a header and as many bytes as it says from a stream that begins with a
frame has read that frame. -/
theorem frame_read {typ : UInt8} {payload tail h body rest : Bytes} (fits : Fits payload)
    (size : h.length = routeControlHeaderSize) (ok : readHeader h typ = .ok body.length)
    (same : frame typ payload ++ tail = h ++ body ++ rest) : body = payload ∧ rest = tail := by
  simp only [frame, append_assoc] at same
  have sizes : (header typ payload.length).length = h.length := by rw [size, header_length]
  obtain ⟨rfl, bodies⟩ := append_inj same sizes
  have some_length : payload.length ≠ 0 := fun none => fits.1 (length_eq_zero_iff.mp none)
  rw [readHeader_header some_length fits.2, Except.ok.injEq] at ok
  obtain ⟨rfl, rfl⟩ := append_inj bodies ok
  exact ⟨rfl, rfl⟩

inductive RouteOpenCode where
  | invalidRequest
  | denied
  | busy
  | unavailable
  deriving DecidableEq

def RouteOpenCode.text : RouteOpenCode → Bytes
  | .invalidRequest => literal "invalid_request"
  | .denied => literal "route_denied"
  | .busy => literal "router_busy"
  | .unavailable => literal "route_unavailable"

/-- The responses that pass `RouteOpenResponse.validate`: a code stands in a rejection
only, and it is one of four. -/
inductive RouteOpenResponse where
  | accepted
  | rejected (code : RouteOpenCode)
  deriving DecidableEq

/-- `json.Marshal` of the response -/
def RouteOpenResponse.payload : RouteOpenResponse → Bytes
  | .accepted => literal "\x7b\"accepted\":true\x7d"
  | .rejected code =>
    literal "\x7b\"accepted\":false,\"code\":\"" ++ code.text ++ literal "\"\x7d"

/-- The two writes of `writeRouteControlFrame` for a response. -/
def RouteOpenResponse.writes (r : RouteOpenResponse) : List Bytes :=
  [header routeControlResponse r.payload.length, r.payload]

def RouteOpenResponse.frame (r : RouteOpenResponse) : Bytes :=
  RouteControl.frame routeControlResponse r.payload

theorem writes_flatten (r : RouteOpenResponse) : r.writes.flatten = r.frame := by
  simp [RouteOpenResponse.writes, RouteOpenResponse.frame, frame]

end RouteControl
