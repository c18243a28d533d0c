import WeDecent.Library.GoText

/-!
# Bytes as digits

The digits of base 64 and of base 32: three bytes are four digits of six bits, five bytes are eight
digits of five. The last digit of an incomplete group is filled up with zeros.
-/

namespace ByteDigits

open List GoText

def sixBit : List UInt8 → List Nat
  | [] => []
  | [a] => [a.toNat / 4, a.toNat % 4 * 16]
  | [a, b] => [a.toNat / 4, a.toNat % 4 * 16 + b.toNat / 16, b.toNat % 16 * 4]
  | a :: b :: c :: rest =>
    a.toNat / 4 :: (a.toNat % 4 * 16 + b.toNat / 16) :: (b.toNat % 16 * 4 + c.toNat / 64) ::
      c.toNat % 64 :: sixBit rest

theorem sixBit_lt (bytes : List UInt8) : ∀ d ∈ sixBit bytes, d < 64 := by
  induction bytes using sixBit.induct with
  | case1 => nofun
  | case2 a =>
    have := a.toNat_lt
    simp only [sixBit, forall_mem_cons]
    exact ⟨by omega, by omega, nofun⟩
  | case3 a b =>
    have := a.toNat_lt
    have := b.toNat_lt
    simp only [sixBit, forall_mem_cons]
    exact ⟨by omega, by omega, by omega, nofun⟩
  | case4 a b c rest ih =>
    have := a.toNat_lt
    have := b.toNat_lt
    have := c.toNat_lt
    simp only [sixBit, forall_mem_cons]
    exact ⟨by omega, by omega, by omega, by omega, ih⟩

theorem sixBit_length (bytes : List UInt8) :
    (sixBit bytes).length = (bytes.length * 4 + 2) / 3 := by
  induction bytes using sixBit.induct with
  | case1 => rfl
  | case2 a => simp [sixBit]
  | case3 a b => simp [sixBit]
  | case4 a b c rest ih =>
    simp only [sixBit, length_cons, ih]
    omega

/-- A byte is what its number is. -/
theorem ofNat_eq {a : UInt8} {n : Nat} (h : n % 256 = a.toNat) : UInt8.ofNat n = a := by
  rw [← UInt8.toNat_inj, UInt8.toNat_ofNat']
  exact h

/-- The digits give the bytes back. -/
theorem base64Groups_sixBit (bytes : List UInt8) : base64Groups (sixBit bytes) = some bytes := by
  induction bytes using sixBit.induct with
  | case1 => rfl
  | case2 a =>
    have := a.toNat_lt
    rw [sixBit, base64Groups, ofNat_eq (a := a) (by omega)]
  | case3 a b =>
    have := a.toNat_lt
    have := b.toNat_lt
    rw [sixBit, base64Groups, ofNat_eq (a := a) (by omega), ofNat_eq (a := b) (by omega)]
  | case4 a b c rest ih =>
    have := a.toNat_lt
    have := b.toNat_lt
    have := c.toNat_lt
    rw [sixBit, base64Groups, ih, ofNat_eq (a := a) (by omega), ofNat_eq (a := b) (by omega),
      ofNat_eq (a := c) (by omega)]
    rfl

/-- The URL alphabet -/
def base64Digit (n : Nat) : UInt8 :=
  UInt8.ofNat (if n < 26 then 65 + n else if n < 52 then 71 + n else if n < 62 then n - 4
    else if n = 62 then 45 else 95)

/-- `base64.RawURLEncoding.EncodeToString` -/
def rawURLEncode (bytes : List UInt8) : List UInt8 := (sixBit bytes).map base64Digit

def fiveBit : List UInt8 → List Nat
  | [] => []
  | [a] => [a.toNat / 8, a.toNat % 8 * 4]
  | [a, b] => [a.toNat / 8, a.toNat % 8 * 4 + b.toNat / 64, b.toNat / 2 % 32, b.toNat % 2 * 16]
  | [a, b, c] => [a.toNat / 8, a.toNat % 8 * 4 + b.toNat / 64, b.toNat / 2 % 32,
      b.toNat % 2 * 16 + c.toNat / 16, c.toNat % 16 * 2]
  | [a, b, c, d] => [a.toNat / 8, a.toNat % 8 * 4 + b.toNat / 64, b.toNat / 2 % 32,
      b.toNat % 2 * 16 + c.toNat / 16, c.toNat % 16 * 2 + d.toNat / 128, d.toNat / 4 % 32,
      d.toNat % 4 * 8]
  | a :: b :: c :: d :: e :: rest =>
    [a.toNat / 8, a.toNat % 8 * 4 + b.toNat / 64, b.toNat / 2 % 32,
      b.toNat % 2 * 16 + c.toNat / 16, c.toNat % 16 * 2 + d.toNat / 128, d.toNat / 4 % 32,
      d.toNat % 4 * 8 + e.toNat / 32, e.toNat % 32] ++ fiveBit rest

theorem fiveBit_lt (bytes : List UInt8) : ∀ d ∈ fiveBit bytes, d < 32 := by
  induction bytes using fiveBit.induct with
  | case1 => nofun
  | case2 a =>
    have := a.toNat_lt
    simp only [fiveBit, forall_mem_cons]
    exact ⟨by omega, by omega, nofun⟩
  | case3 a b =>
    have := a.toNat_lt
    have := b.toNat_lt
    simp only [fiveBit, forall_mem_cons]
    exact ⟨by omega, by omega, by omega, by omega, nofun⟩
  | case4 a b c =>
    have := a.toNat_lt
    have := b.toNat_lt
    have := c.toNat_lt
    simp only [fiveBit, forall_mem_cons]
    exact ⟨by omega, by omega, by omega, by omega, by omega, nofun⟩
  | case5 a b c d =>
    have := a.toNat_lt
    have := b.toNat_lt
    have := c.toNat_lt
    have := d.toNat_lt
    simp only [fiveBit, forall_mem_cons]
    exact ⟨by omega, by omega, by omega, by omega, by omega, by omega, by omega, nofun⟩
  | case6 a b c d e rest ih =>
    have := a.toNat_lt
    have := b.toNat_lt
    have := c.toNat_lt
    have := d.toNat_lt
    have := e.toNat_lt
    simp only [fiveBit, cons_append, nil_append, forall_mem_cons]
    exact ⟨by omega, by omega, by omega, by omega, by omega, by omega, by omega, by omega, ih⟩

theorem fiveBit_length (bytes : List UInt8) :
    (fiveBit bytes).length = (bytes.length * 8 + 4) / 5 := by
  induction bytes using fiveBit.induct with
  | case1 => rfl
  | case2 a => simp [fiveBit]
  | case3 a b => simp [fiveBit]
  | case4 a b c => simp [fiveBit]
  | case5 a b c d => simp [fiveBit]
  | case6 a b c d e rest ih =>
    simp only [fiveBit, length_append, length_cons, length_nil, ih]
    omega

/-- The standard alphabet -/
def base32Digit (n : Nat) : UInt8 := UInt8.ofNat (if n < 26 then 65 + n else 24 + n)

/-- `base32.StdEncoding.WithPadding(base32.NoPadding).EncodeToString` -/
def base32Encode (bytes : List UInt8) : List UInt8 := (fiveBit bytes).map base32Digit

end ByteDigits
