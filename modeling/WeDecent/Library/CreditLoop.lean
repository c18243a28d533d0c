import Mathlib.Tactic.Common

/-!
# Credit-based flow control

A receiver grants a window of credit and a sender may only send what it holds
credit for. Every byte of the window is at one of five places: credit the
sender holds, staged by the sender but not yet sent, in flight, held by the
receiver, or on its way back as returned credit. The moves of the protocol
carry bytes from one place to the next, so the window is conserved; a party
that drops bytes on the floor can only make it smaller.
-/

namespace CreditLoop

structure Loop where
  credit : Nat
  staged : Nat
  flight : Nat
  held : Nat
  returning : Nat

def Loop.total (l : Loop) : Nat :=
  l.credit + l.staged + l.flight + l.held + l.returning

/-- The sender takes `n` bytes of credit for a message it is about to send. -/
def Stage (n : Nat) (l l' : Loop) : Prop :=
  l.credit = l'.credit + n ∧ l'.staged = l.staged + n ∧
    l'.flight = l.flight ∧ l'.held = l.held ∧ l'.returning = l.returning

def Send (n : Nat) (l l' : Loop) : Prop :=
  l.staged = l'.staged + n ∧ l'.flight = l.flight + n ∧
    l'.credit = l.credit ∧ l'.held = l.held ∧ l'.returning = l.returning

def Arrive (n : Nat) (l l' : Loop) : Prop :=
  l.flight = l'.flight + n ∧ l'.held = l.held + n ∧
    l'.credit = l.credit ∧ l'.staged = l.staged ∧ l'.returning = l.returning

/-- The receiver is done with `n` bytes and sends their credit back. -/
def Grant (n : Nat) (l l' : Loop) : Prop :=
  l.held = l'.held + n ∧ l'.returning = l.returning + n ∧
    l'.credit = l.credit ∧ l'.staged = l.staged ∧ l'.flight = l.flight

def Refund (n : Nat) (l l' : Loop) : Prop :=
  l.returning = l'.returning + n ∧ l'.credit = l.credit + n ∧
    l'.staged = l.staged ∧ l'.flight = l.flight ∧ l'.held = l.held

/-- Bytes vanish: a message is refused, or its sender gives up on it. -/
def Lose (l l' : Loop) : Prop :=
  l'.credit ≤ l.credit ∧ l'.staged ≤ l.staged ∧ l'.flight ≤ l.flight ∧
    l'.held ≤ l.held ∧ l'.returning ≤ l.returning

/-- The moves that keep the window whole. -/
inductive Move (l l' : Loop) : Prop
  | stay (h : l' = l)
  | stage (n : Nat) (h : Stage n l l')
  | send (n : Nat) (h : Send n l l')
  | arrive (n : Nat) (h : Arrive n l l')
  | grant (n : Nat) (h : Grant n l l')
  | refund (n : Nat) (h : Refund n l l')

theorem Move.total_eq {l l' : Loop} (m : Move l l') : l'.total = l.total := by
  cases m with
  | stay h => rw [h]
  | _ =>
    rename_i h
    obtain ⟨h1, h2, h3, h4, h5⟩ := h; simp only [Loop.total]; omega

theorem Lose.total_le {l l' : Loop} (h : Lose l l') : l'.total ≤ l.total := by
  obtain ⟨h1, h2, h3, h4, h5⟩ := h
  simp only [Loop.total]
  omega

/-- A step of a party that may also drop bytes. -/
def Step (l l' : Loop) : Prop := Move l l' ∨ Lose l l'

theorem Step.total_le {l l' : Loop} (h : Step l l') : l'.total ≤ l.total := by
  rcases h with h | h
  · exact Nat.le_of_eq h.total_eq
  · exact h.total_le

/-- No message in flight is larger than what the receiver left free of its window. -/
theorem flight_fits {l : Loop} {window n : Nat} (whole : l.total ≤ window)
    (arriving : n ≤ l.flight) : n + l.held ≤ window := by
  simp only [Loop.total] at whole
  omega

end CreditLoop
