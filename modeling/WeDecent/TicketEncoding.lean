import Mathlib.Tactic.IntervalCases
import WeDecent.TicketVerifier

/-!
# The encodings of relay tickets

Go's encoders of base 32 and base 64 and the worker's own functions for them. The worker turns bytes
into base 32 with a register of 32 bits that it never clears; a digit is shifted out while its bits
are among the last twelve, so what runs over at the top is never read.
-/

namespace TicketEncoding

open Bool List ByteDigits GoText JavaScript TicketIssuer TicketVerifier

theorem shifted_toNat (value : BitVec 32) (byte : UInt8) :
    ((value <<< 8) ||| byte.toBitVec.setWidth 32).toNat =
      (value.toNat * 256 + byte.toNat) % 4294967296 := by
  have apart : (value <<< 8) &&& byte.toBitVec.setWidth 32 = 0 := by
    ext i h
    simp only [BitVec.getElem_and, BitVec.getElem_shiftLeft, BitVec.getElem_setWidth,
      BitVec.ofNat_eq_ofNat, BitVec.getElem_zero, and_eq_false_imp, and_eq_true,
      not_eq_eq_eq_not, Bool.not_true, decide_eq_false_iff_not, not_lt, and_imp]
    intro high _
    exact BitVec.getLsbD_of_ge _ _ high
  rw [← BitVec.add_eq_or_of_and_eq_zero _ _ apart, BitVec.toNat_add, BitVec.toNat_shiftLeft,
    BitVec.toNat_setWidth]
  have bound := byte.toNat_lt
  have same : byte.toBitVec.toNat = byte.toNat := rfl
  rw [same, Nat.shiftLeft_eq]
  omega

theorem low_digit (value : BitVec 32) (n : Nat) :
    ((value >>> n) &&& 31).toNat = value.toNat / 2 ^ n % 32 := by
  rw [BitVec.toNat_and, BitVec.toNat_ushiftRight, Nat.shiftRight_eq_div_pow]
  exact Nat.and_two_pow_sub_one_eq_mod _ 5

theorem last_digit (value : BitVec 32) (n : Nat) :
    ((value <<< n) &&& 31).toNat = value.toNat * 2 ^ n % 32 := by
  rw [BitVec.toNat_and, BitVec.toNat_shiftLeft, Nat.shiftLeft_eq]
  have low := Nat.and_two_pow_sub_one_eq_mod (value.toNat * 2 ^ n % 2 ^ 32) 5
  exact low.trans (Nat.mod_mod_of_dvd _ (by decide))

/-- The register after a byte -/
def shifted (value : BitVec 32) (byte : UInt8) : BitVec 32 :=
  (value <<< 8) ||| byte.toBitVec.setWidth 32

def base32Char (n : Nat) : UInt16 := base32Alphabet.getD n 0

/-- A digit that is shifted out lies in the last two bytes. -/
theorem digit_of_two (value : BitVec 32) (a b : UInt8) {n : Nat} (low : n ≤ 7) :
    ((shifted (shifted value a) b >>> n) &&& 31).toNat =
      (a.toNat * 256 + b.toNat) / 2 ^ n % 32 := by
  have ha := a.toNat_lt
  have hb := b.toNat_lt
  rw [low_digit, shifted, shifted_toNat, shifted, shifted_toNat]
  interval_cases n <;> omega

section Shifts

variable (value : BitVec 32) (out : Text) (a b : UInt8)

theorem shiftIn_zero : Register.shiftIn ⟨value, 0, out⟩ a =
    ⟨shifted value a, 3, out ++ [base32Char (a.toNat / 8)]⟩ := by
  have bound := a.toNat_lt
  have digit : ((shifted value a >>> 3) &&& 31).toNat = a.toNat / 8 := by
    rw [low_digit, shifted, shifted_toNat]
    omega
  rw [← digit]
  rfl

theorem shiftIn_three : Register.shiftIn ⟨shifted value a, 3, out⟩ b =
    ⟨shifted (shifted value a) b, 1,
      out ++ [base32Char (a.toNat % 8 * 4 + b.toNat / 64), base32Char (b.toNat / 2 % 32)]⟩ := by
  have ha := a.toNat_lt
  have hb := b.toNat_lt
  have first := digit_of_two value a b (show 6 ≤ 7 by decide)
  have second := digit_of_two value a b (show 1 ≤ 7 by decide)
  have high : (a.toNat * 256 + b.toNat) / 2 ^ 6 % 32 = a.toNat % 8 * 4 + b.toNat / 64 := by omega
  have low : (a.toNat * 256 + b.toNat) / 2 ^ 1 % 32 = b.toNat / 2 % 32 := by omega
  rw [← low, ← high, ← first, ← second]
  rfl

theorem shiftIn_one : Register.shiftIn ⟨shifted value a, 1, out⟩ b =
    ⟨shifted (shifted value a) b, 4, out ++ [base32Char (a.toNat % 2 * 16 + b.toNat / 16)]⟩ := by
  have ha := a.toNat_lt
  have hb := b.toNat_lt
  have first := digit_of_two value a b (show 4 ≤ 7 by decide)
  have high : (a.toNat * 256 + b.toNat) / 2 ^ 4 % 32 = a.toNat % 2 * 16 + b.toNat / 16 := by omega
  rw [← high, ← first]
  rfl

theorem shiftIn_four : Register.shiftIn ⟨shifted value a, 4, out⟩ b =
    ⟨shifted (shifted value a) b, 2,
      out ++ [base32Char (a.toNat % 16 * 2 + b.toNat / 128), base32Char (b.toNat / 4 % 32)]⟩ := by
  have ha := a.toNat_lt
  have hb := b.toNat_lt
  have first := digit_of_two value a b (show 7 ≤ 7 by decide)
  have second := digit_of_two value a b (show 2 ≤ 7 by decide)
  have high : (a.toNat * 256 + b.toNat) / 2 ^ 7 % 32 = a.toNat % 16 * 2 + b.toNat / 128 := by omega
  have low : (a.toNat * 256 + b.toNat) / 2 ^ 2 % 32 = b.toNat / 4 % 32 := by omega
  rw [← low, ← high, ← first, ← second]
  rfl

theorem shiftIn_two : Register.shiftIn ⟨shifted value a, 2, out⟩ b =
    ⟨shifted (shifted value a) b, 0,
      out ++ [base32Char (a.toNat % 4 * 8 + b.toNat / 32), base32Char (b.toNat % 32)]⟩ := by
  have ha := a.toNat_lt
  have hb := b.toNat_lt
  have first := digit_of_two value a b (show 5 ≤ 7 by decide)
  have second := digit_of_two value a b (show 0 ≤ 7 by decide)
  have high : (a.toNat * 256 + b.toNat) / 2 ^ 5 % 32 = a.toNat % 4 * 8 + b.toNat / 32 := by omega
  have low : (a.toNat * 256 + b.toNat) / 2 ^ 0 % 32 = b.toNat % 32 := by omega
  rw [← low, ← high, ← first, ← second]
  rfl

end Shifts

/-- The last digit is filled up with zeros. -/
theorem last_of_byte (value : BitVec 32) (a : UInt8) {n : Nat} (low : n ≤ 5) :
    ((shifted value a <<< n) &&& 31).toNat = a.toNat * 2 ^ n % 32 := by
  have ha := a.toNat_lt
  rw [last_digit, shifted, shifted_toNat]
  interval_cases n <;> omega

/-- What the function returns of a register -/
def finish (r : Register) : Text :=
  if r.bits > 0 then
    r.out ++ [base32Char ((r.value <<< ((5 - r.bits) % 32)) &&& 31).toNat]
  else r.out

theorem finish_left (value : BitVec 32) (out : Text) (a : UInt8) {bits : Nat} (left : 0 < bits) :
    finish ⟨shifted value a, bits, out⟩ = out ++ [base32Char (a.toNat * 2 ^ (5 - bits) % 32)] := by
  have few : 5 - bits ≤ 5 := Nat.sub_le 5 bits
  rw [finish, if_pos left, Nat.mod_eq_of_lt (Nat.lt_of_le_of_lt few (by decide)),
    last_of_byte value a few]

theorem finish_shifts (bytes : Bytes) (value : BitVec 32) (out : Text) :
    finish (bytes.foldl Register.shiftIn ⟨value, 0, out⟩) =
      out ++ (fiveBit bytes).map base32Char := by
  induction bytes using fiveBit.induct generalizing value out with
  | case1 => exact (append_nil out).symm
  | case2 a =>
    have last : a.toNat * 2 ^ (5 - 3) % 32 = a.toNat % 8 * 4 := by omega
    simp only [foldl_cons, foldl_nil, shiftIn_zero,
      finish_left _ _ _ (show 0 < 3 by decide), last, fiveBit, map_cons, map_nil,
      append_assoc, cons_append, nil_append]
  | case3 a b =>
    have last : b.toNat * 2 ^ (5 - 1) % 32 = b.toNat % 2 * 16 := by omega
    simp only [foldl_cons, foldl_nil, shiftIn_zero, shiftIn_three,
      finish_left _ _ _ (show 0 < 1 by decide), last, fiveBit, map_cons, map_nil,
      append_assoc, cons_append, nil_append]
  | case4 a b c =>
    have last : c.toNat * 2 ^ (5 - 4) % 32 = c.toNat % 16 * 2 := by omega
    simp only [foldl_cons, foldl_nil, shiftIn_zero, shiftIn_three, shiftIn_one,
      finish_left _ _ _ (show 0 < 4 by decide), last, fiveBit, map_cons, map_nil,
      append_assoc, cons_append, nil_append]
  | case5 a b c d =>
    have last : d.toNat * 2 ^ (5 - 2) % 32 = d.toNat % 4 * 8 := by omega
    simp only [foldl_cons, foldl_nil, shiftIn_zero, shiftIn_three, shiftIn_one,
      shiftIn_four, finish_left _ _ _ (show 0 < 2 by decide), last, fiveBit, map_cons,
      map_nil, append_assoc, cons_append, nil_append]
  | case6 a b c d e rest ih =>
    simp [shiftIn_zero, shiftIn_three, shiftIn_one, shiftIn_four, shiftIn_two, ih, fiveBit]

theorem base32Char_digit {n : Nat} (h : n < 32) :
    ascii (toLower [base32Digit n]) = [base32Char n] := by
  have all : ∀ n < 32, ascii (toLower [base32Digit n]) = [base32Char n] := by decide
  exact all n h

/-- The shift register gives the digits that Go's encoder gives. -/
theorem base32NoPadding_eq (bytes : Bytes) :
    base32NoPadding bytes = ascii (toLower (base32Encode bytes)) := by
  have digits : ∀ ds : List Nat, (∀ d ∈ ds, d < 32) →
      ascii (toLower (ds.map base32Digit)) = ds.map base32Char := by
    intro ds small
    induction ds with
    | nil => rfl
    | cons d ds ih =>
      have head := base32Char_digit (small d mem_cons_self)
      have tail := ih fun x member => small x (mem_cons_of_mem d member)
      calc ascii (toLower ((d :: ds).map base32Digit))
          = ascii (toLower [base32Digit d]) ++ ascii (toLower (ds.map base32Digit)) := rfl
        _ = (d :: ds).map base32Char := by rw [head, tail]; rfl
  rw [base32Encode, digits _ (fiveBit_lt bytes)]
  exact finish_shifts bytes 0 []

/-- What the worker makes of a digit before it decodes it -/
def standardDigit (n : Nat) : UInt16 :=
  let u := (base64Digit n).toUInt16
  if u = 45 then 43 else if u = 95 then 47 else u

theorem standard_encoded (ds : List Nat) :
    standard (ascii (ds.map base64Digit)) = ds.map standardDigit := by
  rw [standard, ascii, List.map_map, List.map_map]
  rfl

theorem standardDigit_value {n : Nat} (h : n < 64) :
    TicketVerifier.base64Value (standardDigit n) = some n := by
  have all : ∀ n < 64, TicketVerifier.base64Value (standardDigit n) = some n := by decide
  exact all n h

theorem mapM_standardDigit {ds : List Nat} (small : ∀ d ∈ ds, d < 64) :
    (ds.map standardDigit).mapM TicketVerifier.base64Value = some ds := by
  induction ds with
  | nil => rfl
  | cons d ds ih =>
    rw [map_cons, mapM_cons, standardDigit_value (small d mem_cons_self),
      ih fun x member => small x (mem_cons_of_mem d member)]
    rfl

/-- A digit is neither blank nor padding. -/
theorem standardDigit_plain {n : Nat} (h : n < 64) :
    [9, 10, 12, 13, 32].contains (standardDigit n) = false ∧ standardDigit n ≠ 61 := by
  have all : ∀ n < 64, [9, 10, 12, 13, 32].contains (standardDigit n) = false ∧
      standardDigit n ≠ 61 := by decide
  exact all n h

theorem dropPadding_append {s : Text} (plain : ∀ u ∈ s, u ≠ 61) {n : Nat} (few : n ≤ 2) :
    dropPadding (s ++ replicate n 61) = s := by
  have front (rest : Text) : s.reverse ≠ 61 :: rest := by
    intro same
    refine plain 61 ?_ rfl
    rw [← mem_reverse, same]
    exact mem_cons_self
  have reversed : (s ++ replicate n 61).reverse = replicate n 61 ++ s.reverse := by
    rw [reverse_append, reverse_replicate]
  unfold dropPadding
  -- which pattern applies is decided by the padding, as the rest does not begin with it
  split
  · rename_i rest two
    rw [reversed] at two
    interval_cases n
    · exact absurd two (front _)
    · exact absurd (List.cons.inj two).2 (front _)
    · rw [← (List.cons.inj (List.cons.inj two).2).2]
      exact reverse_reverse s
  · rename_i rest other one
    rw [reversed] at one
    interval_cases n
    · exact absurd one (front _)
    · rw [← (List.cons.inj one).2]
      exact reverse_reverse s
    · exact absurd (List.cons.inj one).2.symm (other _)
  · rename_i two one
    rw [reversed] at two one
    interval_cases n
    · exact append_nil s
    · exact absurd rfl (one _)
    · exact absurd rfl (two _)

/-- The length of an encoding is never one more than whole groups. -/
theorem encoded_length (bytes : Bytes) : (rawURLEncode bytes).length % 4 ≠ 1 := by
  rw [rawURLEncode, length_map, sixBit_length]
  omega

theorem atob_encoded (bytes : Bytes) : atob (standard (ascii (rawURLEncode bytes)) ++
      replicate ((4 - (rawURLEncode bytes).length % 4) % 4) 61) = some bytes := by
  have whole := encoded_length bytes
  have small := sixBit_lt bytes
  rw [rawURLEncode, length_map] at whole ⊢
  rw [standard_encoded]
  have kept : ((sixBit bytes).map standardDigit ++
      replicate ((4 - (sixBit bytes).length % 4) % 4) 61).filter
        (fun u => !([9, 10, 12, 13, 32].contains u)) = (sixBit bytes).map standardDigit ++
      replicate ((4 - (sixBit bytes).length % 4) % 4) 61 := by
    refine filter_eq_self.mpr fun u member => ?_
    rcases mem_append.mp member with digit | padding
    · obtain ⟨d, inside, rfl⟩ := List.mem_map.mp digit
      rw [(standardDigit_plain (small d inside)).1]
      rfl
    · rw [(mem_replicate.mp padding).2]
      rfl
  have noPadding : ∀ u ∈ (sixBit bytes).map standardDigit, u ≠ 61 := by
    intro u member
    obtain ⟨d, inside, rfl⟩ := List.mem_map.mp member
    exact (standardDigit_plain (small d inside)).2
  have aligned : ((sixBit bytes).map standardDigit ++
      replicate ((4 - (sixBit bytes).length % 4) % 4) 61).length % 4 = 0 := by
    rw [length_append, length_map, length_replicate]
    omega
  unfold atob
  rw [kept]
  dsimp only
  rw [if_pos aligned, dropPadding_append noPadding (by omega), length_map, if_neg whole,
    mapM_standardDigit small]
  exact base64Groups_sixBit bytes

/-- The worker decodes what Go has encoded. -/
theorem decodeBase64URL_encoded {bytes : Bytes} (nonempty : bytes ≠ []) :
    decodeBase64URL (ascii (rawURLEncode bytes)) = .ok bytes := by
  have whole := encoded_length bytes
  have length : (ascii (rawURLEncode bytes)).length = (rawURLEncode bytes).length :=
    length_map _
  have some_digit : (rawURLEncode bytes).length ≠ 0 := by
    have := length_pos_iff.mpr nonempty
    rw [rawURLEncode, length_map, sixBit_length]
    omega
  have alphabet : (ascii (rawURLEncode bytes)).all isBase64URL = true := by
    have all : ∀ n < 64, isBase64URL (base64Digit n).toUInt16 = true := by decide
    rw [List.all_eq_true, ascii, rawURLEncode, List.map_map]
    intro u member
    obtain ⟨d, inside, rfl⟩ := List.mem_map.mp member
    exact all d (sixBit_lt bytes d inside)
  unfold decodeBase64URL
  rw [if_neg, length, atob_encoded]
  rw [length, alphabet]
  rintro (h | h | h)
  · exact some_digit h
  · exact whole h
  · cases h

end TicketEncoding
