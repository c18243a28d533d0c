import Mathlib.Data.List.Induction
import Mathlib.Tactic.Common
import Mathlib.Tactic.Ring

/-!
# Positional encodings that can be taken apart again

A message is a concatenation of fields. Where every field tells where it ends,
because its width is fixed or because its length stands in front of it, equal
messages have equal fields. `Splits` says this of one encoder, under a condition
on the values, and the lemmas below carry it to sequences of fields.
-/

namespace Codec

open List

universe u v
variable {α : Type u} {σ : Type v}

/-- Of two encoded values at the front of the same message, each is the other. -/
def Splits (ok : α → Prop) (encode : α → List σ) : Prop :=
  ∀ a b rest rest', ok a → ok b → encode a ++ rest = encode b ++ rest' → a = b ∧ rest = rest'

variable {encode : α → List σ}

/-- An injective encoder of fixed width. -/
theorem splits_of_width {ok : α → Prop} {width : Nat} (fixed : ∀ a, (encode a).length = width)
    (injective : ∀ a b, ok a → ok b → encode a = encode b → a = b) : Splits ok encode := by
  intro a b rest rest' ha hb same
  have lengths : (encode a).length = (encode b).length := (fixed a).trans (fixed b).symm
  obtain ⟨front, back⟩ := append_inj same lengths
  exact ⟨injective a b ha hb front, back⟩

/-- Two sequences of the same number of fields. -/
theorem Splits.sequence {ok : α → Prop} (splits : Splits ok encode) {fields fields' : List α}
    {rest rest' : List σ} (count : fields.length = fields'.length) (left : ∀ a ∈ fields, ok a)
    (right : ∀ a ∈ fields', ok a)
    (same : fields.flatMap encode ++ rest = fields'.flatMap encode ++ rest') :
    fields = fields' ∧ rest = rest' := by
  induction fields generalizing fields' with
  | nil =>
    have empty : fields' = [] := length_eq_zero_iff.mp count.symm
    subst empty
    exact ⟨rfl, by simpa using same⟩
  | cons a fields ih =>
    cases fields' with
    | nil => simp at count
    | cons b =>
      simp only [flatMap_cons, append_assoc] at same
      obtain ⟨head, tail⟩ := splits a b _ _ (left a mem_cons_self) (right b mem_cons_self) same
      have heads : a = b := head
      obtain ⟨tails, back⟩ := ih (Nat.succ.inj count) (fun c hc => left c (mem_cons_of_mem a hc))
        (fun c hc => right c (mem_cons_of_mem b hc)) tail
      exact ⟨by rw [heads, tails], back⟩

/-- A fallible writer that appends the encoding of the values it accepts. -/
def Writes {ε : Type*} (ok : α → Prop) (encode : α → List σ)
    (write : List σ → α → Except ε (List σ)) : Prop :=
  ∀ b a b', write b a = .ok b' ↔ ok a ∧ b' = b ++ encode a

theorem Writes.sequence {ε : Type*} {ok : α → Prop} {write : List σ → α → Except ε (List σ)}
    (writes : Writes ok encode write) (fields : List α) :
    ∀ b b', fields.foldlM write b = .ok b' ↔
      (∀ a ∈ fields, ok a) ∧ b' = b ++ fields.flatMap encode := by
  induction fields with
  | nil =>
    intro b b'
    simp [pure, Except.pure, eq_comm]
  | cons a fields ih =>
    intro b b'
    rw [foldlM_cons]
    cases hwrite : write b a with
    | error =>
      have refused : ¬ ok a := by
        intro ha
        have := (writes b a _).mpr ⟨ha, rfl⟩
        rw [hwrite] at this
        cases this
      simp [bind, Except.bind, refused]
    | ok mid =>
      obtain ⟨ha, hmid⟩ := (writes b a mid).mp hwrite
      simp [bind, Except.bind, ih, ha, hmid]

def bigEndian : Nat → Nat → List UInt8
  | 0, _ => []
  | width + 1, n => UInt8.ofNat (n / 256 ^ width) :: bigEndian width n

def ofBigEndian (bytes : List UInt8) : Nat :=
  bytes.foldl (fun n byte => n * 256 + byte.toNat) 0

@[simp] theorem bigEndian_length (width n : Nat) : (bigEndian width n).length = width := by
  induction width with
  | zero => rfl
  | succ width ih => rw [bigEndian, length_cons, ih]

theorem foldl_bigEndian (width n acc : Nat) :
    (bigEndian width n).foldl (fun n byte => n * 256 + byte.toNat) acc =
      acc * 256 ^ width + n % 256 ^ width := by
  induction width generalizing acc with
  | zero => simp [bigEndian, Nat.mod_one]
  | succ width ih =>
    have digit : (UInt8.ofNat (n / 256 ^ width)).toNat = n / 256 ^ width % 256 := by
      rw [UInt8.toNat_ofNat']
    have parts : n % 256 ^ (width + 1) =
        n % 256 ^ width + 256 ^ width * (n / 256 ^ width % 256) := Nat.mod_mul
    rw [bigEndian, foldl_cons, ih, digit, parts, Nat.pow_succ]
    ring

theorem ofBigEndian_bigEndian {width n : Nat} (fits : n < 256 ^ width) :
    ofBigEndian (bigEndian width n) = n := by
  rw [ofBigEndian, foldl_bigEndian, Nat.zero_mul, Nat.zero_add, Nat.mod_eq_of_lt fits]

theorem ofBigEndian_concat (bytes : List UInt8) (byte : UInt8) :
    ofBigEndian (bytes ++ [byte]) = ofBigEndian bytes * 256 + byte.toNat := by
  rw [ofBigEndian, foldl_append]
  rfl

theorem ofBigEndian_lt (bytes : List UInt8) : ofBigEndian bytes < 256 ^ bytes.length := by
  induction bytes using reverseRecOn with
  | nil => decide
  | append_singleton bytes byte ih =>
    have digit : byte.toNat < 256 := byte.toNat_lt
    rw [ofBigEndian_concat, length_append, length_singleton, Nat.pow_succ]
    omega

/-- The last digit comes off first. -/
theorem bigEndian_concat (width n : Nat) :
    bigEndian (width + 1) n = bigEndian width (n / 256) ++ [UInt8.ofNat n] := by
  induction width with
  | zero => simp [bigEndian]
  | succ width ih =>
    have shifted : n / 256 ^ (width + 1) = n / 256 / 256 ^ width := by
      rw [Nat.div_div_eq_div_mul, Nat.pow_succ, Nat.mul_comm]
    rw [bigEndian, ih, bigEndian, shifted]
    rfl

theorem bigEndian_ofBigEndian (bytes : List UInt8) :
    bigEndian bytes.length (ofBigEndian bytes) = bytes := by
  induction bytes using reverseRecOn with
  | nil => rfl
  | append_singleton bytes byte ih =>
    have digit : byte.toNat < 256 := byte.toNat_lt
    have front : (ofBigEndian bytes * 256 + byte.toNat) / 256 = ofBigEndian bytes := by omega
    have last : UInt8.ofNat (ofBigEndian bytes * 256 + byte.toNat) = byte := by
      rw [← UInt8.toNat_inj, UInt8.toNat_ofNat']
      omega
    rw [ofBigEndian_concat, length_append, length_singleton, bigEndian_concat, front, ih, last]

theorem splits_bigEndian (width : Nat) : Splits (· < 256 ^ width) (bigEndian width) := by
  refine splits_of_width (bigEndian_length width) ?_
  intro a b ha hb same
  rw [← ofBigEndian_bigEndian ha, same, ofBigEndian_bigEndian hb]

def framed (width : Nat) (text : List UInt8) : List UInt8 :=
  bigEndian width text.length ++ text

theorem splits_framed (width : Nat) :
    Splits (fun text => text.length < 256 ^ width) (framed width) := by
  intro text text' rest rest' short short' same
  simp only [framed, append_assoc] at same
  obtain ⟨lengths, bodies⟩ := splits_bigEndian width _ _ _ _ short short' same
  exact append_inj bodies lengths

end Codec
