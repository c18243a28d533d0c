import WeDecent.Library.Weights
import WeDecent.StreamProtocol

/-!
# The client's child of a multiplexed session

`managedMuxChild` (`session/managed_multiplex.go`), which terminal and file
streams share, and the ways in which a call on it may go on. Each function here is
what its caller does under `child.mu`; the channels of capacity one are flags, and
`done` says that the channel of that name is closed.
-/

namespace MuxChild

open List StreamProtocol

def managedMuxReceiveWindow : Nat := 262144
def managedTerminalOutputLimit : Nat := 262144
def managedTerminalChunkLimit : Nat := 32768

/-- How a step of a call goes on: it runs, its frame is written or fails, or its
select takes the named channel. -/
inductive Event where
  | run
  | wrote
  | writeFailed
  | ctxDone
  | sessionDone
  | childDone
  | notified

/-- `outputBytes` counts the queue and stays within its limit, and there is no
credit to send before the peer has accepted the stream. -/
structure Child where
  outputQueue : List Bytes
  outputBytes : Nat
  outputNotify : Bool
  sendCredit : Nat
  recvCredit : Nat
  creditNotify : Bool
  acceptedOK : Bool
  closing : Bool
  done : Bool
  counted : outputBytes = Weights.weight length outputQueue
  limited : outputBytes ≤ managedTerminalOutputLimit
  uncredited : acceptedOK = false → sendCredit = 0

/-- `newManagedMuxChild(id, true)` -/
def Child.new : Child where
  outputQueue := []
  outputBytes := 0
  outputNotify := false
  sendCredit := 0
  recvCredit := managedMuxReceiveWindow
  creditNotify := false
  acceptedOK := false
  closing := false
  done := false
  counted := rfl
  limited := Nat.zero_le _
  uncredited := fun _ => rfl

namespace Child

/-- `handleAccepted`; `none` is its `false`. -/
def accept (c : Child) (initialWindow : Nat) : Option Child :=
  if c.acceptedOK || c.closing then none
  else some { c with acceptedOK := true, sendCredit := initialWindow, uncredited := nofun }

/-- `handleTypedData` and `handleFileData` -/
def receiveData (c : Child) (payload : Bytes) : Option Child :=
  if fits : c.acceptedOK = true ∧ payload.length ≤ c.recvCredit ∧
      payload.length ≤ managedTerminalOutputLimit - c.outputBytes then
    some { c with
      recvCredit := c.recvCredit - payload.length
      outputQueue := c.outputQueue ++ [payload]
      outputBytes := c.outputBytes + payload.length
      outputNotify := true
      counted := by simp [c.counted]
      limited := by have := c.limited; omega }
  else none

/-- `handleWindowUpdate` -/
def receiveUpdate (c : Child) (bytes : Nat) : Option Child :=
  if fits : c.acceptedOK = true ∧ bytes ≤ maxTypedStreamWindow - c.sendCredit then
    some { c with
      sendCredit := c.sendCredit + bytes
      creditNotify := true
      uncredited := fun h => by rw [fits.1] at h; cases h }
  else none

/-- The first chunk of the queue, cut at `maxBytes`, with the `closed` the
caller reports; `none` when the queue is empty. -/
def takeOutput (c : Child) (maxBytes : Nat) : Option (Bytes × Bool × Child) :=
  match hqueue : c.outputQueue with
  | [] => none
  | chunk :: rest =>
    let n := min chunk.length maxBytes
    let left := c.outputBytes - n
    some (chunk.take n, c.done && decide (left = 0), { c with
      outputQueue := if n = chunk.length then rest else chunk.drop n :: rest
      outputBytes := left
      counted := by
        have hcount := c.counted
        rw [hqueue, Weights.weight_cons] at hcount
        split
        · omega
        · rw [Weights.weight_cons, length_drop]
          omega
      limited := Nat.le_trans (Nat.sub_le _ _) c.limited })

/-- What a write of `remaining` bytes takes from `sendCredit`. -/
def takeCredit (c : Child) (remaining : Nat) : Nat × Child :=
  let n := min (min remaining maxTypedStreamChunk) c.sendCredit
  (n, { c with
    sendCredit := c.sendCredit - n
    uncredited := fun h => by rw [c.uncredited h, Nat.zero_sub] })

/-- `closeOnce` of `closeChild` -/
def close (c : Child) : Child :=
  { c with done := true, outputNotify := true, creditNotify := true }

variable {c : Child}

theorem receiveData_isSome {payload : Bytes} :
    (c.receiveData payload).isSome ↔ c.acceptedOK = true ∧ payload.length ≤ c.recvCredit ∧
      payload.length ≤ managedTerminalOutputLimit - c.outputBytes := by
  unfold receiveData
  split
  · rename_i fits
    exact ⟨fun _ => fits, fun _ => rfl⟩
  · rename_i refused
    exact ⟨nofun, fun fits => absurd fits refused⟩

/-- A payload that is accepted moves from the credit to the end of the queue. -/
theorem receiveData_eq_some {c' : Child} {payload : Bytes} (h : c.receiveData payload = some c') :
    c.acceptedOK = true ∧ c'.recvCredit + payload.length = c.recvCredit ∧
      c'.outputQueue = c.outputQueue ++ [payload] ∧
      c'.outputBytes = c.outputBytes + payload.length ∧
      c'.sendCredit = c.sendCredit ∧ c'.acceptedOK = c.acceptedOK ∧
      c'.closing = c.closing ∧ c'.done = c.done := by
  unfold receiveData at h
  split at h
  · rename_i fits
    cases h
    exact ⟨fits.1, Nat.sub_add_cancel fits.2.1, rfl, rfl, rfl, rfl, rfl, rfl⟩
  · cases h

theorem receiveUpdate_eq_some {c' : Child} {bytes : Nat} (h : c.receiveUpdate bytes = some c') :
    c.acceptedOK = true ∧ c'.sendCredit = c.sendCredit + bytes ∧
      c'.outputQueue = c.outputQueue ∧ c'.outputBytes = c.outputBytes ∧
      c'.recvCredit = c.recvCredit ∧ c'.acceptedOK = c.acceptedOK ∧
      c'.closing = c.closing ∧ c'.done = c.done := by
  unfold receiveUpdate at h
  split at h
  · rename_i fits
    cases h
    exact ⟨fits.1, rfl, rfl, rfl, rfl, rfl, rfl, rfl⟩
  · cases h

theorem accept_eq_some {c' : Child} {initialWindow : Nat} (h : c.accept initialWindow = some c') :
    c.acceptedOK = false ∧ c.closing = false ∧ c'.sendCredit = initialWindow ∧
      c'.outputQueue = c.outputQueue ∧ c'.outputBytes = c.outputBytes ∧
      c'.recvCredit = c.recvCredit ∧ c'.acceptedOK = true ∧
      c'.closing = c.closing ∧ c'.done = c.done := by
  unfold accept at h
  split at h
  · cases h
  · rename_i fresh
    rw [Bool.or_eq_true, not_or, Bool.not_eq_true, Bool.not_eq_true] at fresh
    cases h
    exact ⟨fresh.1, fresh.2, rfl, rfl, rfl, rfl, rfl, rfl, rfl⟩

/-- Reading moves bytes from the queue's front to the caller and loses none. -/
theorem takeOutput_spec {c' : Child} {maxBytes : Nat} {out : Bytes} {closed : Bool}
    (h : c.takeOutput maxBytes = some (out, closed, c')) :
    c.outputQueue.flatten = out ++ c'.outputQueue.flatten ∧
      c'.outputBytes + out.length = c.outputBytes ∧
      closed = (c.done && decide (c'.outputBytes = 0)) ∧
      c'.sendCredit = c.sendCredit ∧ c'.recvCredit = c.recvCredit ∧
      c'.acceptedOK = c.acceptedOK ∧ c'.closing = c.closing ∧ c'.done = c.done := by
  unfold takeOutput at h
  split at h
  · cases h
  rename_i chunk rest hqueue
  have hcount := c.counted
  rw [hqueue, Weights.weight_cons] at hcount
  have hle := Nat.min_le_left chunk.length maxBytes
  dsimp only at h
  cases h
  refine ⟨?_, ?_, rfl, rfl, rfl, rfl, rfl, rfl⟩
  · dsimp only
    rw [hqueue, flatten_cons]
    by_cases whole : min chunk.length maxBytes = chunk.length
    · simp [whole]
    · simp [whole, ← append_assoc, take_append_drop]
  · dsimp only
    rw [length_take]
    omega

/-- A reader of at most `maxBytes` turns `queue` into what it gets and what is left. -/
def Dequeues (maxBytes : Nat) (queue : List Bytes) (out : Bytes) (left : List Bytes) : Prop :=
  ∃ chunk rest, queue = chunk :: rest ∧ ((chunk.length ≤ maxBytes ∧ out = chunk ∧ left = rest) ∨
      (maxBytes < chunk.length ∧ out = chunk.take maxBytes ∧
        left = chunk.drop maxBytes :: rest))

theorem takeOutput_dequeues {c' : Child} {maxBytes : Nat} {out : Bytes} {closed : Bool}
    (h : c.takeOutput maxBytes = some (out, closed, c')) :
    Dequeues maxBytes c.outputQueue out c'.outputQueue := by
  unfold takeOutput at h
  split at h
  · cases h
  rename_i chunk rest hqueue
  dsimp only at h
  cases h
  refine ⟨chunk, rest, hqueue, ?_⟩
  by_cases fits : chunk.length ≤ maxBytes
  · refine .inl ⟨fits, ?_, ?_⟩
    · rw [Nat.min_eq_left fits, take_length]
    · dsimp only
      rw [Nat.min_eq_left fits, if_pos rfl]
  · have cut : maxBytes < chunk.length := Nat.lt_of_not_le fits
    refine .inr ⟨cut, ?_, ?_⟩
    · rw [Nat.min_eq_right (Nat.le_of_lt cut)]
    · dsimp only
      rw [Nat.min_eq_right (Nat.le_of_lt cut), if_neg (Nat.ne_of_lt cut)]

/-- A reader with room for it gets the whole first chunk. -/
theorem takeOutput_whole {maxBytes : Nat} {chunk : Bytes} {rest : List Bytes}
    (queue : c.outputQueue = chunk :: rest) (fits : chunk.length ≤ maxBytes) :
    ∃ closed c', c.takeOutput maxBytes = some (chunk, closed, c') := by
  unfold takeOutput
  split
  · rename_i hempty
    rw [queue] at hempty
    cases hempty
  · rename_i first others hqueue
    obtain ⟨rfl, rfl⟩ := cons.inj (queue.symm.trans hqueue)
    have whole : chunk.take (min chunk.length maxBytes) = chunk := by
      rw [Nat.min_eq_left fits, take_length]
    dsimp only
    rw [whole]
    exact ⟨_, _, rfl⟩

theorem takeOutput_eq_none {maxBytes : Nat} (h : c.takeOutput maxBytes = none) :
    c.outputQueue = [] := by
  unfold takeOutput at h
  split at h
  · assumption
  · cases h

theorem flatten_eq_nil (empty : c.outputBytes = 0) : c.outputQueue.flatten = [] := by
  have hcount := c.counted
  rw [empty] at hcount
  refine flatten_eq_nil_iff.mpr ?_
  intro chunk hmem
  exact eq_nil_of_length_eq_zero (Weights.weight_eq_zero.mp hcount.symm chunk hmem)

theorem takeCredit_spec (c : Child) (remaining : Nat) :
    (c.takeCredit remaining).2.sendCredit + (c.takeCredit remaining).1 = c.sendCredit ∧
      (c.takeCredit remaining).1 ≤ remaining ∧
      (c.takeCredit remaining).1 ≤ maxTypedStreamChunk := by
  have hcredit := Nat.min_le_right (min remaining maxTypedStreamChunk) c.sendCredit
  have hframe := Nat.min_le_left (min remaining maxTypedStreamChunk) c.sendCredit
  refine ⟨?_, Nat.le_trans hframe (Nat.min_le_left _ _), Nat.le_trans hframe (Nat.min_le_right _ _)⟩
  simp only [takeCredit]
  omega

end Child

end MuxChild
