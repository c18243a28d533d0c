import Mathlib.Tactic.Common

/-!
# Streams that are read and written in pieces

A reader delivers its stream in pieces of any size; one `Read` hands out the next piece, or as
much of it as the buffer holds, and an empty piece is a `Read` of nothing. That the last piece may
come together with the end of the stream makes no difference to `readFull`, which asks for the
error only when the buffer is not full. A writer takes as much of each `Write` as it likes, or
fails; the answers it has not been asked for are listed, and then it takes everything.
-/

namespace Streams

open List

universe u
variable {α : Type u}

inductive ReadError where
  | eof
  | unexpectedEOF

/-- `io.ReadFull` into a buffer of `size`, of which `buf` is filled -/
def readFull (size : Nat) (buf : List α) : List (List α) → Except ReadError (List α × List (List α))
  | [] =>
    if size ≤ buf.length then .ok (buf, [])
    else if buf = [] then .error .eof
    else .error .unexpectedEOF
  | piece :: rest =>
    if size ≤ buf.length then .ok (buf, piece :: rest)
    else if buf.length + piece.length ≤ size then readFull size (buf ++ piece) rest
    else .ok (buf ++ piece.take (size - buf.length), piece.drop (size - buf.length) :: rest)

variable {pieces : List (List α)}

/-- What fills the buffer is the front of the stream. -/
theorem readFull_eq_ok {size : Nat} {buf out : List α} {rest : List (List α)}
    (room : buf.length ≤ size) (h : readFull size buf pieces = .ok (out, rest)) :
    out.length = size ∧ buf ++ pieces.flatten = out ++ rest.flatten := by
  induction pieces generalizing buf with
  | nil =>
    rw [readFull] at h
    split at h
    · rename_i full
      cases h
      exact ⟨Nat.le_antisymm room full, rfl⟩
    · split at h <;> cases h
  | cons piece others ih =>
    rw [readFull] at h
    split at h
    · rename_i full
      cases h
      exact ⟨Nat.le_antisymm room full, rfl⟩
    · split at h
      · rename_i fits
        obtain ⟨length, same⟩ := ih (by rw [length_append]; exact fits) h
        refine ⟨length, ?_⟩
        rw [flatten_cons, ← append_assoc, same]
      · cases h
        constructor
        · rw [length_append, length_take]
          omega
        · have whole : piece.take (size - buf.length) ++
              (piece.drop (size - buf.length) ++ others.flatten) = piece ++ others.flatten := by
            rw [← append_assoc, take_append_drop]
          rw [flatten_cons, flatten_cons, append_assoc, whole]

/-- A stream that is long enough fills the buffer. -/
theorem readFull_fills {size : Nat} {buf : List α}
    (enough : size ≤ buf.length + pieces.flatten.length) :
    ∃ out rest, readFull size buf pieces = .ok (out, rest) := by
  induction pieces generalizing buf with
  | nil => exact ⟨buf, [], if_pos enough⟩
  | cons piece others ih =>
    rw [flatten_cons, length_append] at enough
    rw [readFull]
    split
    · exact ⟨_, _, rfl⟩
    split
    · refine ih ?_
      rw [length_append]
      omega
    · exact ⟨_, _, rfl⟩

/-- Reading a message off the front of a stream, however it is cut -/
theorem readFull_front {message trailing : List α}
    (delivered : pieces.flatten = message ++ trailing) :
    ∃ rest, readFull message.length [] pieces = .ok (message, rest) ∧ rest.flatten = trailing := by
  have enough : message.length ≤ ([] : List α).length + pieces.flatten.length := by
    rw [delivered, length_append]
    omega
  obtain ⟨out, rest, filled⟩ := readFull_fills enough
  obtain ⟨length, same⟩ := readFull_eq_ok (Nat.zero_le _) filled
  obtain ⟨rfl, rfl⟩ := append_inj (delivered.symm.trans same) length.symm
  exact ⟨rest, filled, rfl⟩

inductive WriteError where
  | failed
  | shortWrite

/-- What was written, and the answers to the next calls of `Write`: how much is taken, and whether
the call fails -/
structure Sink (α : Type u) where
  written : List α
  answers : List (Nat × Bool)

/-- Every call takes something and none fails. -/
def Sink.Accepts (sink : Sink α) : Prop := ∀ a ∈ sink.answers, 0 < a.1 ∧ a.2 = false

/-- A loop of `Write` until the data is gone -/
def writeAll (written data : List α) : List (Nat × Bool) → Except WriteError Unit × Sink α
  | [] => (.ok (), ⟨written ++ data, []⟩)
  | (n, fails) :: answers =>
    if data = [] then (.ok (), ⟨written, (n, fails) :: answers⟩)
    else if fails then (.error .failed, ⟨written ++ data.take n, answers⟩)
    else if n = 0 then (.error .shortWrite, ⟨written, answers⟩)
    else writeAll (written ++ data.take n) (data.drop n) answers

def Sink.writeAll (sink : Sink α) (data : List α) : Except WriteError Unit × Sink α :=
  Streams.writeAll sink.written data sink.answers

/-- A writer that accepts something at each call gets all of the data. -/
theorem Sink.writeAll_accepts {sink : Sink α} (accepts : sink.Accepts) (data : List α) :
    ∃ sink', sink.writeAll data = (.ok (), sink') ∧ sink'.written = sink.written ++ data ∧
      sink'.Accepts := by
  obtain ⟨written, answers⟩ := sink
  unfold Sink.writeAll
  induction answers generalizing written data with
  | nil => exact ⟨_, rfl, rfl, accepts⟩
  | cons answer answers ih =>
    obtain ⟨n, fails⟩ := answer
    obtain ⟨⟨positive, fine⟩, later⟩ := forall_mem_cons.mp accepts
    dsimp only at positive fine
    rw [Streams.writeAll]
    by_cases empty : data = []
    · rw [if_pos empty, empty, append_nil]
      exact ⟨_, rfl, rfl, accepts⟩
    · rw [if_neg empty, fine, if_neg (by decide), if_neg (Nat.ne_of_gt positive)]
      obtain ⟨sink', wrote, all, accepts'⟩ := ih (data.drop n) (written ++ data.take n) later
      refine ⟨sink', wrote, ?_, accepts'⟩
      rw [all, append_assoc, take_append_drop]

end Streams
