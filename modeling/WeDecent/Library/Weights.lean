import Mathlib.Tactic.Common

/-!
# Weights of pools and of channels

A pool is the list of the goroutines that run one kind of call, each at its own
program point; a channel is the list of messages between two parties, oldest
first. Both carry bytes or tokens, and `weight` adds up what they carry.
-/

namespace Weights

open List

universe u
variable {α : Type u}

def weight (f : α → Nat) (l : List α) : Nat := l.foldr (fun a total => f a + total) 0

@[simp] theorem weight_nil (f : α → Nat) : weight f [] = 0 := rfl

@[simp] theorem weight_cons (f : α → Nat) (a : α) (l : List α) :
    weight f (a :: l) = f a + weight f l := rfl

@[simp] theorem weight_append (f : α → Nat) (l m : List α) :
    weight f (l ++ m) = weight f l + weight f m := by
  induction l with
  | nil => exact (Nat.zero_add _).symm
  | cons a rest ih => rw [cons_append, weight_cons, weight_cons, ih, Nat.add_assoc]

theorem weight_replicate (f : α → Nat) (n : Nat) (a : α) : weight f (replicate n a) = n * f a := by
  induction n with
  | zero => exact (Nat.zero_mul _).symm
  | succ n ih => rw [replicate_succ, weight_cons, ih, Nat.succ_mul, Nat.add_comm]

/-- A weight of ones and zeros counts. -/
theorem weight_toNat (p : α → Bool) (l : List α) :
    weight (fun a => (p a).toNat) l = l.countP p := by
  induction l with
  | nil => rfl
  | cons a rest ih =>
    rw [weight_cons, ih, countP_cons, Nat.add_comm]
    cases p a <;> rfl

/-- One goroutine moves and the others stay where they are. -/
theorem weight_set (f : α → Nat) {l : List α} {i : Nat} {a : α} (b : α)
    (h : l[i]? = some a) : weight f (l.set i b) + f a = weight f l + f b := by
  induction l generalizing i with
  | nil => simp at h
  | cons c rest ih =>
    cases i with
    | zero =>
      have same : c = a := by simpa using h
      subst same
      simp only [set_cons_zero, weight_cons]
      omega
    | succ i =>
      have tail := ih (i := i) (by simpa using h)
      simp only [set_cons_succ, weight_cons]
      omega

theorem le_weight (f : α → Nat) {l : List α} {a : α} (h : a ∈ l) : f a ≤ weight f l := by
  induction l with
  | nil => cases h
  | cons c rest ih =>
    rw [weight_cons]
    rcases mem_cons.mp h with rfl | h
    · omega
    · have := ih h
      omega

theorem weight_eq_zero {f : α → Nat} {l : List α} : weight f l = 0 ↔ ∀ a ∈ l, f a = 0 := by
  constructor
  · intro h a ha
    have := le_weight f ha
    omega
  · intro h
    induction l with
    | nil => rfl
    | cons c rest ih =>
      have hc := h c mem_cons_self
      have hr := ih fun a ha => h a (mem_cons_of_mem c ha)
      rw [weight_cons, hc, hr]

/-- A property of every goroutine survives a move that ends in it. -/
theorem forall_set {P : α → Prop} {l : List α} (h : ∀ a ∈ l, P a) (i : Nat) {b : α}
    (hb : P b) : ∀ a ∈ l.set i b, P a := by
  intro a ha
  rcases mem_or_eq_of_mem_set ha with ha | rfl
  · exact h a ha
  · exact hb

end Weights
