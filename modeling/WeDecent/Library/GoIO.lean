import Mathlib.Tactic.Common

/-!
# Reading, writing and copying in pieces

A reader hands out what it has in pieces of any size, and a writer may take less
than it is offered. Each definition here is one call of `Read` or `Write` in the
loops that `io.ReadFull`, a write-all loop and `io.Copy` make of them.
-/

namespace GoIO

open List Option

universe u
variable {α : Type u}

inductive Filled (α : Type u) where
  | more (buf : List α)
  | full (buf : List α)
  | failed

/-- One `Read` of `io.ReadFull`: an error counts only while the buffer is not full. -/
def readFull (size : Nat) (buf piece : List α) (err : Bool) : Filled α :=
  if size ≤ (buf ++ piece).length then .full (buf ++ piece)
  else if err then .failed
  else .more (buf ++ piece)

theorem readFull_eq_more {size : Nat} {buf piece buf' : List α} {err : Bool}
    (h : readFull size buf piece err = .more buf') : buf' = buf ++ piece := by
  unfold readFull at h
  split at h
  · cases h
  · split at h
    · cases h
    · cases h
      rfl

theorem readFull_eq_full {size : Nat} {buf piece buf' : List α} {err : Bool}
    (h : readFull size buf piece err = .full buf') : buf' = buf ++ piece ∧ size ≤ buf'.length := by
  unfold readFull at h
  split at h
  · rename_i enough
    cases h
    exact ⟨rfl, enough⟩
  · split at h <;> cases h

inductive Written (α : Type u) where
  | more (left : List α)
  | done
  | failed

/-- One `Write` of a loop that goes on until the data is gone, and takes a write of
nothing for an error. -/
def writeAll (data : List α) (n : Nat) (err : Bool) : Written α :=
  if err then .failed
  else if n = 0 then .failed
  else if data.length ≤ n then .done
  else .more (data.drop n)

theorem writeAll_eq_more {data left : List α} {n : Nat} {err : Bool}
    (h : writeAll data n err = .more left) : left = data.drop n := by
  unfold writeAll at h
  split at h
  · cases h
  split at h
  · cases h
  · split at h
    · cases h
    · cases h
      rfl

theorem writeAll_eq_done {data : List α} {n : Nat} {err : Bool}
    (h : writeAll data n err = .done) : data.take n = data := by
  unfold writeAll at h
  split at h
  · cases h
  split at h
  · cases h
  · split at h
    · rename_i enough
      exact take_of_length_le enough
    · cases h

/-- How `io.Copy` ends: `closed` stands for the ends of a stream and closed connections. -/
inductive CopyEnd where
  | eof
  | closed
  | failed
  deriving DecidableEq

/-- An `io.Copy`: what it has written, what it has read and could not write, and what it
has not read. -/
structure Copy (α : Type u) where
  source : List α
  sink : List α
  lost : List α
  rest : List α
  ended : Option CopyEnd
  whole : source = sink ++ lost ++ rest
  unlost : ended = none → lost = []

namespace Copy

def start (source : List α) : Copy α := ⟨source, [], [], source, none, rfl, fun _ => rfl⟩

/-- A `Read` of `taken` elements and the `Write` of them, which takes `written`; a short
write ends the copy with its error. -/
def move (c : Copy α) (taken written : Nat) (how : CopyEnd) : Option (Copy α) :=
  if running : c.ended = none ∧ taken ≤ c.rest.length ∧ written ≤ taken then
    some {
      source := c.source
      sink := c.sink ++ (c.rest.take taken).take written
      lost := (c.rest.take taken).drop written
      rest := c.rest.drop taken
      ended := if written < taken then some how else none
      whole := by
        have whole := c.whole
        rw [c.unlost running.1, append_nil] at whole
        rw [whole, append_assoc c.sink, take_append_drop, append_assoc, take_append_drop]
      unlost := by
        intro going
        have all : ¬ written < taken := by
          intro short
          rw [if_pos short] at going
          cases going
        rw [drop_eq_nil_iff, length_take]
        omega }
  else none

/-- The copy returns. -/
def finish (c : Copy α) (how : CopyEnd) : Option (Copy α) :=
  if c.ended = none then some { c with ended := some how, unlost := nofun } else none

theorem sink_prefix (c : Copy α) : c.sink <+: c.source := by
  refine ⟨c.lost ++ c.rest, ?_⟩
  rw [c.whole, append_assoc]

theorem move_source {c c' : Copy α} {taken written : Nat} {how : CopyEnd}
    (h : c.move taken written how = some c') : c'.source = c.source := by
  unfold move at h
  split at h
  · cases h
    rfl
  · cases h

theorem finish_source {c c' : Copy α} {how : CopyEnd} (h : c.finish how = some c') :
    c'.source = c.source := by
  obtain ⟨-, ⟨⟩⟩ := ite_none_right_eq_some.mp h
  rfl

/-- A copy that has returned does nothing more. -/
theorem move_running {c c' : Copy α} {taken written : Nat} {how : CopyEnd}
    (h : c.move taken written how = some c') : c.ended = none := by
  unfold move at h
  split at h
  · rename_i running
    exact running.1
  · cases h

theorem finish_running {c c' : Copy α} {how : CopyEnd} (h : c.finish how = some c') :
    c.ended = none :=
  (ite_none_right_eq_some.mp h).1

end Copy

end GoIO
