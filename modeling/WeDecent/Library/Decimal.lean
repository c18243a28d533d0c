import Mathlib.Algebra.Group.Nat.Defs
import Mathlib.Tactic.Common

/-!
# Decimal numbers in ASCII

Numerals of a fixed width and numerals without leading zeros, and reading them
back. Reading refuses every byte that is not a digit.
-/

namespace Decimal

open List Option

def digit (n : Nat) : UInt8 := UInt8.ofNat (48 + n)

def isDigit (c : UInt8) : Bool := 48 ≤ c.toNat && c.toNat ≤ 57

/-- The number that a text of digits stands for. -/
def number (text : List UInt8) : Option Nat :=
  text.foldlM (fun n c => if isDigit c then some (n * 10 + (c.toNat - 48)) else none) 0

/-- The last `width` digits of a number. -/
def padded : Nat → Nat → List UInt8
  | 0, _ => []
  | width + 1, n => padded width (n / 10) ++ [digit (n % 10)]

def numeralFrom : Nat → Nat → List UInt8
  | 0, _ => []
  | fuel + 1, n => if n < 10 then [digit n] else numeralFrom fuel (n / 10) ++ [digit (n % 10)]

/-- A number without leading zeros. -/
def numeral (n : Nat) : List UInt8 := numeralFrom (n + 1) n

variable {n : Nat}

theorem digit_toNat (h : n < 10) : (digit n).toNat = 48 + n := by
  rw [digit, UInt8.toNat_ofNat']
  omega

theorem isDigit_iff {c : UInt8} : isDigit c = true ↔ 48 ≤ c.toNat ∧ c.toNat ≤ 57 := by
  simp [isDigit]

theorem isDigit_digit (h : n < 10) : isDigit (digit n) = true := by
  rw [isDigit_iff, digit_toNat h]
  omega

theorem number_nil : number [] = some 0 := rfl

theorem number_snoc {text : List UInt8} {d : Nat} (front : number text = some n) (h : d < 10) :
    number (text ++ [digit d]) = some (n * 10 + d) := by
  unfold number at *
  rw [foldlM_append, front]
  simp [isDigit_digit h, digit_toNat h]

@[simp] theorem padded_length (width n : Nat) : (padded width n).length = width := by
  induction width generalizing n with
  | zero => rfl
  | succ width ih => rw [padded, length_append, ih, length_singleton]

theorem number_padded {width : Nat} (fits : n < 10 ^ width) : number (padded width n) = some n := by
  induction width generalizing n with
  | zero =>
    have zero : n = 0 := by simpa using fits
    rw [zero]
    rfl
  | succ width ih =>
    have front : n / 10 < 10 ^ width := by
      rw [Nat.pow_succ] at fits
      exact Nat.div_lt_of_lt_mul (by rwa [Nat.mul_comm])
    rw [padded, number_snoc (ih front) (Nat.mod_lt n (by decide)), Nat.div_add_mod']

theorem isDigit_padded {width : Nat} : ∀ c ∈ padded width n, isDigit c = true := by
  induction width generalizing n with
  | zero => nofun
  | succ width ih =>
    intro c member
    rcases mem_append.mp member with member | member
    · exact ih c member
    · rw [mem_singleton.mp member]
      exact isDigit_digit (Nat.mod_lt n (by decide))

/-- Read a number of fixed width between two bounds from the front. -/
def field (width low high : Nat) (text : List UInt8) : Option (Nat × List UInt8) :=
  if text.length < width then none
  else (number (text.take width)).bind fun n =>
    if low ≤ n ∧ n ≤ high then some (n, text.drop width) else none

/-- Read a given character from the front. -/
def expect (c : UInt8) : List UInt8 → Option (List UInt8)
  | [] => none
  | d :: rest => if d = c then some rest else none

@[simp] theorem expect_cons (c : UInt8) (rest : List UInt8) : expect c (c :: rest) = some rest :=
  if_pos rfl

theorem field_padded {width low high : Nat} {rest : List UInt8} (fits : n < 10 ^ width)
    (above : low ≤ n) (below : n ≤ high) :
    field width low high (padded width n ++ rest) = some (n, rest) := by
  have long : ¬ (padded width n ++ rest).length < width := by
    rw [length_append, padded_length]
    omega
  have front : (padded width n ++ rest).take width = padded width n :=
    take_left' (padded_length width n)
  have back : (padded width n ++ rest).drop width = rest :=
    drop_left' (padded_length width n)
  rw [field, if_neg long, front, back, number_padded fits, bind_some, if_pos ⟨above, below⟩]

theorem numeralFrom_enough {fuel fuel' : Nat} (h : n < fuel) (h' : n < fuel') :
    numeralFrom fuel n = numeralFrom fuel' n := by
  induction fuel generalizing fuel' n with
  | zero => cases h
  | succ fuel ih =>
    cases fuel' with
    | zero => cases h'
    | succ fuel' =>
      rw [numeralFrom, numeralFrom]
      split
      · rfl
      · have shorter : numeralFrom fuel (n / 10) = numeralFrom fuel' (n / 10) :=
          ih (by omega) (by omega)
        rw [shorter]

theorem numeral_small (h : n < 10) : numeral n = [digit n] := if_pos h

theorem numeral_large (h : ¬ n < 10) : numeral n = numeral (n / 10) ++ [digit (n % 10)] := by
  rw [numeral, numeralFrom, if_neg h, numeral]
  congr 1
  exact numeralFrom_enough (by omega) (Nat.lt_succ_self _)

theorem number_numeral (n : Nat) : number (numeral n) = some n := by
  induction n using Nat.strongRecOn with
  | ind n ih =>
    by_cases h : n < 10
    · have one := number_snoc number_nil h
      rwa [Nat.zero_mul, Nat.zero_add, nil_append, ← numeral_small h] at one
    · rw [numeral_large h, number_snoc (ih (n / 10) (by omega)) (Nat.mod_lt n (by decide)),
        Nat.div_add_mod']

theorem isDigit_numeral (n : Nat) : ∀ c ∈ numeral n, isDigit c = true := by
  induction n using Nat.strongRecOn with
  | ind n ih =>
    intro c member
    by_cases h : n < 10
    · rw [numeral_small h, mem_singleton] at member
      rw [member]
      exact isDigit_digit h
    · rw [numeral_large h] at member
      rcases mem_append.mp member with member | member
      · exact ih (n / 10) (by omega) c member
      · rw [mem_singleton.mp member]
        exact isDigit_digit (Nat.mod_lt n (by decide))

/-- The first digit is zero only for zero itself. -/
theorem numeral_head (n : Nat) :
    ∃ d rest, numeral n = digit d :: rest ∧ d < 10 ∧ (d = 0 → rest = []) := by
  induction n using Nat.strongRecOn with
  | ind n ih =>
    by_cases h : n < 10
    · exact ⟨n, [], numeral_small h, h, fun _ => rfl⟩
    obtain ⟨d, rest, shape, small, zero⟩ := ih (n / 10) (by omega)
    refine ⟨d, rest ++ [digit (n % 10)], ?_, small, ?_⟩
    · rw [numeral_large h, shape, cons_append]
    -- a leading zero would make `n / 10` zero
    intro leading
    have value := number_numeral (n / 10)
    rw [shape, zero leading, leading] at value
    have nothing : (0 : Nat) = n / 10 := Option.some.inj value
    omega

theorem numeral_length {width : Nat} (positive : 0 < width) (small : n < 10 ^ width) :
    (numeral n).length ≤ width := by
  induction width generalizing n with
  | zero => cases positive
  | succ width ih =>
    by_cases one : n < 10
    · rw [numeral_small one]
      exact positive
    rw [numeral_large one, length_append, length_singleton]
    have left : 0 < width := by
      rcases Nat.eq_zero_or_pos width with rfl | h
      · exact absurd small one
      · exact h
    have shorter : n / 10 < 10 ^ width := by
      rw [Nat.div_lt_iff_lt_mul (by decide), ← Nat.pow_succ]
      exact small
    exact Nat.succ_le_succ (ih left shorter)

/-- An integer, with its sign -/
def integer (n : Int) : List UInt8 :=
  if n < 0 then 45 :: numeral n.natAbs else numeral n.natAbs

end Decimal
