import WeDecent.Library.Weights
import Mathlib.Tactic.Common

/-!
# Typed stream messages and credit

The frames of one typed stream with their validators (`protocol/typed_stream.go`)
and the credit counter both server engines use (`session/typed_stream_flow.go`).

A control frame carries the value its JSON payload parses to, and `none` when
`ParseTypedStreamJSON` rejects the payload. Close reasons and error codes are
wire strings; the types below keep apart what the code distinguishes. The stream
ID is checked when a stream is reserved and is left out of the other messages.
-/

namespace StreamProtocol

abbrev Bytes := List UInt8

def minTypedStreamID : Nat := 2
def maxTypedStreamChunk : Nat := 65536
def maxTypedStreamWindow : Nat := 1048576
def maxTypedStreamTermLength : Nat := 64

inductive StreamKind where
  | terminal
  | fileUpload
  | fileDownload
  | empty
  | unlisted
  deriving DecidableEq

/-- The two kinds of file streams. -/
inductive FileKind where
  | upload
  | download
  deriving DecidableEq

def FileKind.kind : FileKind → StreamKind
  | .upload => .fileUpload
  | .download => .fileDownload

/-- `overlong` stands for every text above `MaxTypedStreamCloseReasonLength`. -/
inductive CloseReason where
  | clientClose
  | peerClose
  | processExit
  | ptyDrainTimeout
  | uploadComplete
  | downloadComplete
  | unlisted
  | overlong
  deriving DecidableEq

/-- `invalid` stands for an empty or overlong code or an overlong message. -/
inductive ErrorCode where
  | ptyStartFailed
  | ptyWriteFailed
  | ptyResizeFailed
  | clientCancelled
  | resourceLimit
  | authorizationDenied
  | fileOpenFailed
  | uploadWriteFailed
  | uploadCommitFailed
  | downloadReadFailed
  | unlisted
  | invalid
  deriving DecidableEq

structure StreamOpen where
  kind : StreamKind
  cols : Nat
  rows : Nat
  term : String
  metadata : Bytes
  initialWindow : Nat
  deriving DecidableEq

structure Resize where
  cols : Nat
  rows : Nat
  deriving DecidableEq

inductive Message where
  | streamOpen (parsed : Option StreamOpen)
  | streamAccepted (initialWindow : Option Nat)
  | streamData (payload : Bytes)
  | streamWindowUpdate (bytes : Option Nat)
  | streamResize (size : Option Resize)
  | streamClose (reason : Option CloseReason)
  | streamError (code : Option ErrorCode)
  deriving DecidableEq

def validateStreamWindow (initialWindow : Nat) : Bool :=
  decide (0 < initialWindow ∧ initialWindow ≤ maxTypedStreamWindow)

def validateStreamOpen (o : StreamOpen) : Bool :=
  validateStreamWindow o.initialWindow && decide (o.kind = .terminal) &&
    o.metadata.isEmpty && decide (o.cols ≠ 0 ∧ o.rows ≠ 0) &&
    decide (o.term.utf8ByteSize ≤ maxTypedStreamTermLength)

def validateStreamAccepted (initialWindow : Nat) : Bool :=
  validateStreamWindow initialWindow

def validateStreamData (payload : Bytes) : Bool :=
  decide (0 < payload.length ∧ payload.length ≤ maxTypedStreamChunk)

def validateStreamResize (size : Resize) : Bool :=
  decide (size.cols ≠ 0 ∧ size.rows ≠ 0)

def validateStreamWindowUpdate (bytes : Nat) : Bool :=
  decide (0 < bytes ∧ bytes ≤ maxTypedStreamWindow)

def validateStreamClose (reason : CloseReason) : Bool :=
  decide (reason ≠ .overlong)

def validateStreamError (code : ErrorCode) : Bool :=
  decide (code ≠ .invalid)

/-- The frames after which the peer sends nothing more on the stream. -/
def Message.ends : Message → Bool
  | .streamClose _ => true
  | .streamError _ => true
  | _ => false

/-- A frame that ends the stream is among `frames`. -/
def ended (frames : List Message) : Bool := frames.any Message.ends

/-- Nothing follows a frame that ends the stream. -/
def EndsLast : List Message → Prop
  | [] => True
  | m :: rest => (m.ends = true → rest = []) ∧ EndsLast rest

@[simp] theorem ended_nil : ended [] = false := rfl

@[simp] theorem ended_cons (m : Message) (rest : List Message) :
    ended (m :: rest) = (m.ends || ended rest) := rfl

@[simp] theorem ended_append (first second : List Message) :
    ended (first ++ second) = (ended first || ended second) :=
  List.any_append

theorem endsLast_append_one {frames : List Message} (m : Message) (open_ : ended frames = false) :
    EndsLast (frames ++ [m]) := by
  induction frames with
  | nil => exact ⟨fun _ => rfl, trivial⟩
  | cons f rest ih =>
    rw [ended_cons, Bool.or_eq_false_iff] at open_
    refine ⟨?_, ih open_.2⟩
    intro hf
    rw [open_.1] at hf
    cases hf

/-- Data bytes a frame carries. -/
def Message.load : Message → Nat
  | .streamData payload => payload.length
  | _ => 0

/-- Credit a frame gives back to its receiver. -/
def Message.credit : Message → Nat
  | .streamAccepted (some n) => n
  | .streamWindowUpdate (some n) => n
  | _ => 0

def load (frames : List Message) : Nat := Weights.weight Message.load frames

def credit (frames : List Message) : Nat := Weights.weight Message.credit frames

@[simp] theorem load_nil : load [] = 0 := rfl

@[simp] theorem credit_nil : credit [] = 0 := rfl

@[simp] theorem load_cons (m : Message) (rest : List Message) :
    load (m :: rest) = m.load + load rest :=
  Weights.weight_cons _ _ _

@[simp] theorem credit_cons (m : Message) (rest : List Message) :
    credit (m :: rest) = m.credit + credit rest :=
  Weights.weight_cons _ _ _

@[simp] theorem load_append (first second : List Message) :
    load (first ++ second) = load first + load second :=
  Weights.weight_append _ _ _

@[simp] theorem credit_append (first second : List Message) :
    credit (first ++ second) = credit first + credit second :=
  Weights.weight_append _ _ _

theorem carries_nothing : load [] = 0 ∧ credit [] = 0 := ⟨rfl, rfl⟩

/-- `typedStreamCredit`: the window bound travels with the counter. -/
structure Credit where
  remaining : Nat
  bounded : remaining ≤ maxTypedStreamWindow

namespace Credit

theorem ext {c d : Credit} (h : c.remaining = d.remaining) : c = d := by
  cases c
  cases d
  cases h
  rfl

def zero : Credit := ⟨0, Nat.zero_le _⟩

/-- `newTypedStreamCredit` -/
def new (initial : Nat) : Option Credit :=
  if h : 0 < initial ∧ initial ≤ maxTypedStreamWindow then some ⟨initial, h.2⟩ else none

def consume (c : Credit) (bytes : Nat) : Option Credit :=
  if bytes = 0 ∨ c.remaining < bytes then none
  else some ⟨c.remaining - bytes, Nat.le_trans (Nat.sub_le _ _) c.bounded⟩

def add (c : Credit) (bytes : Nat) : Option Credit :=
  if h : 0 < bytes ∧ bytes ≤ maxTypedStreamWindow ∧ c.remaining ≤ maxTypedStreamWindow - bytes then
    some ⟨c.remaining + bytes, by omega⟩
  else none

theorem consume_eq_some {c d : Credit} {n : Nat} :
    c.consume n = some d ↔ 0 < n ∧ d.remaining + n = c.remaining := by
  unfold consume
  split
  · rename_i h
    simp only [reduceCtorEq, false_iff]
    omega
  · rename_i h
    simp only [Option.some.injEq]
    constructor
    · rintro rfl
      dsimp only
      omega
    · intro hd
      exact ext (by dsimp only; omega)

theorem consume_isSome {c : Credit} {n : Nat} (pos : 0 < n) (le : n ≤ c.remaining) :
    ∃ d, c.consume n = some d ∧ d.remaining + n = c.remaining :=
  ⟨⟨c.remaining - n, Nat.le_trans (Nat.sub_le _ _) c.bounded⟩,
    consume_eq_some.mpr ⟨pos, by dsimp only; omega⟩, by dsimp only; omega⟩

theorem add_eq_some {c d : Credit} {n : Nat} :
    c.add n = some d ↔ 0 < n ∧ d.remaining = c.remaining + n := by
  unfold add
  split
  · rename_i h
    simp only [Option.some.injEq]
    constructor
    · rintro rfl
      exact ⟨h.1, rfl⟩
    · intro hd
      exact ext hd.2.symm
  · rename_i h
    have := d.bounded
    simp only [reduceCtorEq, false_iff]
    omega

theorem add_eq_none {c : Credit} {n : Nat} :
    c.add n = none ↔ n = 0 ∨ maxTypedStreamWindow < c.remaining + n := by
  unfold add
  split
  · rename_i h
    simp only [reduceCtorEq, false_iff]
    omega
  · rename_i h
    simp only [true_iff]
    omega

end Credit

end StreamProtocol
