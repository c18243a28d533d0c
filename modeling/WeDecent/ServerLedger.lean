import WeDecent.Library.CreditLoop
import WeDecent.StreamProtocol

/-!
# The bytes a stream's server accounts for

`typedTerminalServer` and `typedFileServer` keep the same books for a child: what
`Handle` has of the client's window, what the forwarding goroutine has taken from
`sendCredit`, and the two counters. `Entry` lists all that a step of either may do to
them, and the rest of this module follows from the list: each direction of the
stream is a credit loop, and `recvCredit` misses only what `Handle` has in hand.
-/

namespace ServerLedger

open StreamProtocol CreditLoop

/-- What `Handle` has of a client's window: data not yet taken from `recvCredit`,
data consumed and not granted back, data granted and still missing from
`recvCredit`, or credit not yet added to `sendCredit`. -/
inductive Place where
  | none
  | inArrival (n : Nat)
  | inHand (n : Nat)
  | inDebt (n : Nat)
  | inReturn (n : Nat)

def Place.arriving : Place → Nat
  | .inArrival n => n
  | _ => 0

def Place.held : Place → Nat
  | .inHand n => n
  | _ => 0

/-- Bytes that are missing from `recvCredit`. -/
def Place.owed : Place → Nat
  | .inHand n => n
  | .inDebt n => n
  | _ => 0

def Place.returning : Place → Nat
  | .inReturn n => n
  | _ => 0

structure Ledger where
  place : Place
  staged : Nat
  sendCredit : Nat
  recvCredit : Nat

/-- What a step that reads `input` and writes `output` may do to the bytes. Bytes are
dropped only by a step after which the stream is dead. -/
inductive Entry (outside dead : Prop) (g : Ledger) (input output : List Message)
    (g' : Ledger) : Prop
  | quiet (same : g' = g) (ins : load input = 0 ∧ credit input = 0)
      (outs : load output = 0 ∧ credit output = 0)
  | exempt (h : outside)
  | drop (lost : g' = { g with place := .none }) (outs : output = []) (past : dead)
  | takeData (n : Nat) (size : 0 < n ∧ n ≤ maxTypedStreamChunk) (idle : g.place = .none)
      (moved : g' = { g with place := .inArrival n })
      (ins : load input = n ∧ credit input = 0) (outs : output = [])
  | takeUpdate (n : Nat) (pos : 0 < n) (idle : g.place = .none)
      (moved : g' = { g with place := .inReturn n })
      (ins : load input = 0 ∧ credit input = n) (outs : output = [])
  | consume (n : Nat) (pos : 0 < n) (enough : n ≤ g.recvCredit) (before : g.place = .inArrival n)
      (moved : g' = { g with
        place := .inHand n, recvCredit := g.recvCredit - n })
      (ins : input = []) (outs : output = [])
  | grant (n : Nat) (before : g.place = .inHand n) (moved : g' = { g with place := .inDebt n })
      (ins : input = []) (outs : load output = 0 ∧ credit output = n)
  | restore (n : Nat) (before : g.place = .inDebt n) (moved : g' = { g with
        place := .none, recvCredit := g.recvCredit + n })
      (ins : input = []) (outs : output = [])
  | refund (n : Nat) (before : g.place = .inReturn n) (moved : g' = { g with
        place := .none, sendCredit := g.sendCredit + n })
      (ins : input = []) (outs : output = [])
  | stage (n : Nat) (enough : n ≤ g.sendCredit) (before : g.staged = 0) (moved : g' = { g with
        staged := n, sendCredit := g.sendCredit - n })
      (ins : input = []) (outs : output = [])
  | send (n : Nat) (before : g.staged = n) (moved : g' = { g with staged := 0 })
      (ins : input = []) (outs : load output = n ∧ credit output = 0)

section Loops

variable {outside dead : Prop} {g g' : Ledger} {input output : List Message}

/-- The server's window: `held` bytes are with the client, `up` is credit and `down`
data on the wire. -/
def downLoop (g : Ledger) (held up down : Nat) : Loop where
  credit := g.sendCredit
  staged := g.staged
  flight := down
  held := held
  returning := up + g.place.returning

/-- The client's window: `credit` and `staged` are with the client, `up` is data and
`down` credit on the wire. -/
def upLoop (g : Ledger) (credit staged up down : Nat) : Loop where
  credit := credit
  staged := staged
  flight := up + g.place.arriving
  held := g.place.held
  returning := down

/-- The server's steps on its own window. -/
theorem Entry.downLoop_step (entry : Entry outside dead g input output g') (inside : ¬ outside)
    {held up up' down down' : Nat} (taken : up = credit input + up')
    (written : down' = down + load output) :
    Step (downLoop g held up down) (downLoop g' held up' down') := by
  have stay : g'.sendCredit = g.sendCredit → g'.staged = g.staged →
      credit input + g.place.returning = g'.place.returning → load output = 0 →
      downLoop g' held up' down' = downLoop g held up down := by
    intro hsend hstaged hreturn hout
    simp only [downLoop, hsend, hstaged, Loop.mk.injEq, true_and]
    omega
  cases entry with
  | quiet same ins outs =>
    exact .inl (.stay (stay (by rw [same]) (by rw [same]) (by rw [same, ins.2, Nat.zero_add])
      outs.1))
  | exempt h => exact absurd h inside
  | drop lost outs =>
    rw [outs, load_nil] at written
    refine .inr ⟨?_, ?_, ?_, ?_, ?_⟩
    · simp [downLoop, lost]
    · simp [downLoop, lost]
    · simp only [downLoop]
      omega
    · simp [downLoop]
    · simp only [downLoop, lost, Place.returning]
      omega
  | takeData n size idle moved ins outs | takeUpdate n pos idle moved ins outs =>
    refine .inl (.stay (stay (by rw [moved]) (by rw [moved]) ?_ (by rw [outs, load_nil])))
    rw [moved, idle, ins.2]
    rfl
  | grant n before moved ins outs =>
    refine .inl (.stay (stay (by rw [moved]) (by rw [moved]) ?_ outs.1))
    rw [moved, before, ins, credit_nil]
    rfl
  | refund n before moved ins outs =>
    refine .inl (.refund n ?_)
    rw [ins, credit_nil] at taken
    rw [outs, load_nil] at written
    simp only [Refund, downLoop, moved, before, Place.returning, and_true, true_and]
    omega
  | stage n enough before moved ins outs =>
    refine .inl (.stage n ?_)
    rw [ins, credit_nil] at taken
    rw [outs, load_nil] at written
    simp only [Stage, downLoop, moved, before, true_and]
    omega
  | send n before moved ins =>
    refine .inl (.send n ?_)
    rw [ins, credit_nil] at taken
    simp only [Send, downLoop, moved, before, true_and]
    omega
  | _ =>
    rename_i before moved ins outs
    refine .inl (.stay (stay (by rw [moved]) (by rw [moved]) ?_ (by rw [outs, load_nil])))
    rw [moved, before, ins, credit_nil]
    rfl

/-- The server's steps on the client's window, as long as the stream is open. -/
theorem Entry.upLoop_move (entry : Entry outside dead g input output g') (inside : ¬ outside)
    (alive : ¬ dead) {held staged up up' down down' : Nat} (taken : up = load input + up')
    (written : down' = down + credit output) :
    Move (upLoop g held staged up down) (upLoop g' held staged up' down') := by
  have stay : load input + g.place.arriving = g'.place.arriving →
      g'.place.held = g.place.held → credit output = 0 →
      Move (upLoop g held staged up down) (upLoop g' held staged up' down') := by
    intro harriving hheld hout
    refine .stay ?_
    simp only [upLoop, hheld, Loop.mk.injEq, true_and]
    omega
  cases entry with
  | quiet same ins outs =>
    exact stay (by rw [same, ins.1, Nat.zero_add]) (by rw [same]) outs.2
  | exempt h => exact absurd h inside
  | drop lost outs past => exact absurd past alive
  | consume n pos enough before moved ins outs =>
    refine .arrive n ?_
    rw [ins, load_nil] at taken
    rw [outs, credit_nil] at written
    simp only [Arrive, upLoop, moved, before, Place.arriving, Place.held, true_and]
    omega
  | grant n before moved ins =>
    refine .grant n ?_
    rw [ins, load_nil] at taken
    simp only [Grant, upLoop, moved, before, Place.arriving, Place.held, true_and]
    omega
  | restore n before moved ins outs | refund n before moved ins outs =>
    refine stay ?_ ?_ (by rw [outs, credit_nil])
    · rw [moved, before, ins, load_nil]
      rfl
    · rw [moved, before]
      rfl
  | stage n enough before moved ins outs =>
    refine stay ?_ ?_ (by rw [outs, credit_nil])
    · rw [moved, ins, load_nil, Nat.zero_add]
    · rw [moved]
  | send n before moved ins outs =>
    refine stay ?_ ?_ outs.2
    · rw [moved, ins, load_nil, Nat.zero_add]
    · rw [moved]
  | _ =>
    rename_i idle moved ins outs
    refine stay ?_ ?_ (by rw [outs, credit_nil])
    · rw [moved, idle, ins.1]
      rfl
    · rw [moved, idle]
      rfl

end Loops

/-- What `Handle` has is never empty, and data fits one frame. -/
def Place.Sized : Place → Prop
  | .none => True
  | .inArrival n => 0 < n ∧ n ≤ maxTypedStreamChunk
  | .inHand n => 0 < n
  | .inDebt n => 0 < n
  | .inReturn n => 0 < n

/-- While the stream is open or `Handle` is busy, what `Handle` has taken from
`recvCredit` is all that is missing from it. -/
structure Balanced (window : Nat) (isOpen : Bool) (g : Ledger) : Prop where
  credited : isOpen = true ∨ g.place ≠ .none → g.recvCredit + g.place.owed = window
  sized : g.place.Sized

section Balanced

variable {outside dead : Prop} {g g' : Ledger} {input output : List Message} {window : Nat}
  {isOpen isOpen' : Bool}

/-- A step keeps the balance if the stream does not open again and frames are taken
only while it is open. -/
theorem Balanced.step (balanced : Balanced window isOpen g)
    (entry : Entry outside dead g input output g') (inside : ¬ outside)
    (stays : isOpen' = true → isOpen = true) (closed : dead → isOpen' = false)
    (received : input ≠ [] → isOpen = true) : Balanced window isOpen' g' := by
  obtain ⟨credited, sized⟩ := balanced
  have whole : g.place ≠ .none → g.recvCredit + g.place.owed = window :=
    fun h => credited (.inr h)
  have full : input ≠ [] → g.place = .none → g.recvCredit + 0 = window := by
    intro takes idle
    have := credited (.inl (received takes))
    rwa [idle] at this
  cases entry with
  | quiet same =>
    refine ⟨?_, same ▸ sized⟩
    rw [same]
    exact fun h => credited (h.imp stays id)
  | exempt h => exact absurd h inside
  | drop lost outs past =>
    rw [lost]
    refine ⟨?_, trivial⟩
    rintro (h | h)
    · rw [closed past] at h
      cases h
    · exact absurd rfl h
  | takeData n size idle moved ins =>
    rw [moved]
    refine ⟨fun _ => full ?_ idle, size⟩
    rintro rfl
    exact absurd ins.1 (Nat.ne_of_lt size.1)
  | takeUpdate n pos idle moved ins =>
    rw [moved]
    refine ⟨fun _ => full ?_ idle, pos⟩
    rintro rfl
    exact absurd ins.2 (Nat.ne_of_lt pos)
  | consume n pos enough before moved =>
    rw [before] at whole
    have := whole nofun
    rw [moved]
    refine ⟨fun _ => ?_, pos⟩
    simp only [Place.owed] at this ⊢
    omega
  | grant n before moved =>
    rw [before] at whole sized
    rw [moved]
    exact ⟨fun _ => whole nofun, sized⟩
  | stage n enough before moved | send n before moved =>
    rw [moved]
    exact ⟨fun h => credited (h.imp stays id), sized⟩
  | _ =>
    rename_i before moved _ _
    rw [before] at whole
    rw [moved]
    exact ⟨fun _ => whole nofun, trivial⟩

theorem Balanced.data_fits (balanced : Balanced window isOpen g) {n : Nat}
    (large : maxTypedStreamChunk ≤ window) (arrived : g.place = .inArrival n) :
    0 < n ∧ n ≤ g.recvCredit := by
  obtain ⟨credited, sized⟩ := balanced
  rw [arrived] at credited sized
  have full := credited (.inr nofun)
  have small := sized.2
  simp only [Place.owed] at full
  exact ⟨sized.1, by omega⟩

theorem Balanced.restore_fits (balanced : Balanced window isOpen g) {n : Nat}
    (legal : window ≤ maxTypedStreamWindow) (owed : g.place = .inDebt n) :
    0 < n ∧ g.recvCredit + n ≤ maxTypedStreamWindow := by
  obtain ⟨credited, sized⟩ := balanced
  rw [owed] at credited sized
  have full := credited (.inr nofun)
  simp only [Place.owed] at full
  exact ⟨sized, by omega⟩

end Balanced

end ServerLedger
