import WeDecent.Library.Fallible
import WeDecent.Library.GoText

/-!
# The account session file

`Save` and `Load` (`account/session.go`) where any file operation of a save may fail. The storage
format differs between the systems and is a parameter, which reads back what it has written; so is
the normal form of a URL.
-/

namespace AccountSession

open Fallible GoText

def sessionVersion : Int := 1
def maxSessionSize : Nat := 65536

structure Session where
  version : Int
  supabaseURL : List UInt8
  publishableKey : List UInt8
  userID : List UInt8
  email : List UInt8
  accessToken : List UInt8
  refreshToken : List UInt8
  expiresAt : Int
  deriving DecidableEq

structure Storage where
  normalizeSupabaseURL : List UInt8 → Except String (List UInt8)
  /-- `encodeSessionStorage` before it appends the line feed -/
  render : Session → Except String (List UInt8)
  /-- `decodeSessionStorage`, with the permissions of the file -/
  decode : Nat → List UInt8 → Except String Session
  roundTrip : ∀ s data, render s = .ok data → decode 0o600 (data ++ [10]) = .ok s

/-- The operations of `Save` that are not a clean-up, in their order -/
inductive FileOp where
  | mkdirAll | chmodDir | createTemp | chmodTemp | write | sync | close
  | rename | stat | remove | renameAgain | chmod
  deriving DecidableEq

/-- What is at the path of the session -/
inductive Entry where
  | absent
  | link (resolves : Bool)
  -- A directory, or a file that cannot be read
  | unreadable
  | file (mode : Nat) (data : List UInt8)
  deriving DecidableEq

def Entry.stats : Entry → Bool
  | .absent => false
  | .link resolves => resolves
  | _ => true

def Session.validate (st : Storage) (s : Session) : Except String Unit := do
  failIf (s.version ≠ sessionVersion) s!"unsupported version {s.version}"
  let baseURL ← st.normalizeSupabaseURL s.supabaseURL
  failIf (baseURL ≠ s.supabaseURL) "Supabase URL is not normalized"
  failIf (trimSpace s.publishableKey = []) "publishable key is missing"
  failIf (trimSpace s.accessToken = []) "access token is missing"
  failIf (trimSpace s.refreshToken = []) "refresh token is missing"
  failIf (s.expiresAt ≤ 0) "expiry is missing"

def invalid (err : String) : String := "invalid account session: " ++ err

inductive LoadError where
  -- `ErrNoSession`
  | noSession
  | other (text : String)
  deriving DecidableEq

def load (st : Storage) : Entry → Except LoadError Session
  | .absent => .error .noSession
  | .link _ => .error (.other "account session file must not be a symbolic link")
  | .unreadable => .error (.other "read account session")
  | .file mode data => do
    failIf (data.length = 0 ∨ maxSessionSize < data.length)
      (.other "account session file has an invalid size")
    let session ← orFail .other (st.decode mode data)
    orFail (fun err => .other (invalid err)) (session.validate st)
    return session

/-- `Save` up to the temporary file, which is written and closed then -/
def prepare (st : Storage) (fails : FileOp → Bool) (session : Option Session) :
    Except String (List UInt8) := do
  let some s := session | .error "account session is nil"
  orFail invalid (s.validate st)
  failIf (fails .mkdirAll) "create account session directory"
  failIf (fails .chmodDir) "protect account session directory"
  let data ← st.render s
  failIf (fails .createTemp) "create account session temp file"
  failIf (fails .chmodTemp) "protect account session temp file"
  failIf (fails .write) "write account session"
  failIf (fails .sync) "sync account session"
  failIf (fails .close) "close account session"
  return data ++ [10]

/-- The old file is taken away, and the new one does not get to its place. -/
def loses (fails : FileOp → Bool) (path : Entry) : Bool :=
  fails .rename && !fails .stat && path.stats && !fails .remove && fails .renameAgain

/-- The new file gets to its place. -/
def replaces (fails : FileOp → Bool) (path : Entry) : Bool :=
  !fails .rename || (!fails .stat && path.stats && !fails .remove && !fails .renameAgain)

/-- What a save has to meet where it gets as far as the rename: the old file is not lost; and where
the new one is in its place, it is not longer than `Load` allows, or, if `Chmod` fails then, `Load`
finds in it what it found before. -/
def careful (st : Storage) (fails : FileOp → Bool) (session : Option Session) (path : Entry) :
    Bool :=
  (prepare st fails session).toOption.all fun data =>
    !loses fails path && (!replaces fails path ||
      if fails .chmod then decide (load st (.file 0o600 data) = load st path)
      else decide (data.length ≤ maxSessionSize))

section Save

variable {st : Storage} {fails : FileOp → Bool} {session : Option Session}

end Save

section Sample

def earlier : Session := ⟨1, literal "https://a.example", [1], [2], [3], [4], [5], 1000⟩
def later : Session := { earlier with accessToken := [6] }

end Sample

end AccountSession
