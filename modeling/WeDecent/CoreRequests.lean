import WeDecent.Library.GoText

/-!
# Requests and errors of the local Core

The checks that the services of `internal/coreapi` share, and their error values.
-/

namespace CoreRequests

open GoText

abbrev Bytes := List UInt8

/-- The error values that callers test for with `errors.Is` -/
inductive Sentinel where
  | canceled
  | deadlineExceeded
  | invalidConnectionRequest
  | connectionNotFound
  | connectionLimit
  | connectionOperation
  | connectionServiceClosed
  | invalidTerminalRequest
  | terminalUnavailable
  | terminalOperation
  | invalidFileTransferRequest
  | fileTransferUnavailable
  | fileTransferLimit
  | fileTransferNotFound
  | fileTransferOperation
  | other (detail : Nat)
deriving DecidableEq

/-- An error, as the sentinels that it wraps -/
structure Err where
  wraps : List Sentinel
deriving DecidableEq

namespace Err

/-- `errors.Is` -/
def is (err : Err) (target : Sentinel) : Bool := err.wraps.contains target

/-- The error is, or wraps, the error of an ended context. -/
def isContext (err : Err) : Bool := err.is .canceled || err.is .deadlineExceeded

def of (s : Sentinel) : Err := ⟨[s]⟩

end Err

/-- The two values of `ctx.Err()` once the context has ended -/
inductive ContextError where
  | canceled
  | deadlineExceeded
deriving DecidableEq

def ContextError.err : ContextError → Err
  | .canceled => .of .canceled
  | .deadlineExceeded => .of .deadlineExceeded

/-- The runes below 0x20 and 0x7f are single bytes, and no other rune has such a byte. -/
def containsControl (value : Bytes) : Bool := value.any fun c => c < 0x20 || c == 0x7f

def validBoundedVisible (value : Bytes) (maxBytes : Nat) : Bool :=
  !value.isEmpty && value == trimSpace value && value.length ≤ maxBytes && !containsControl value

def validConnectionID (value : Bytes) : Bool := validBoundedVisible value 128

def validPublicID (value : Bytes) : Bool := validBoundedVisible value 128

def operationIDByte (c : UInt8) : Bool :=
  (97 ≤ c && c ≤ 122) || (65 ≤ c && c ≤ 90) || (48 ≤ c && c ≤ 57) || c == 45 || c == 95

/-- The loop that `validConnectOperationID` and `validTerminalWriteOperationID` have in common -/
def validOperationID (maxBytes : Nat) (value : Bytes) : Bool :=
  !value.isEmpty && value.length ≤ maxBytes && value.all operationIDByte

def nanosPerMinute : Int := 60000000000

end CoreRequests
