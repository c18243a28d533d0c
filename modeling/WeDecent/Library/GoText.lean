import Mathlib.Tactic.Common

/-!
# Go strings

A Go string is a sequence of bytes, usually but not necessarily UTF-8. This is
what the packages `strings` and `encoding/base64` do with it: `TrimSpace` cuts
the white space of Unicode at both ends, and `RawURLEncoding.DecodeString` reads
unpadded base64url, skipping line ends and ignoring the unused bits of the last
character.
-/

namespace GoText

open List Option

/-- The bytes of a string literal. -/
def literal (text : String) : List UInt8 := text.toByteArray.data.toList

def asciiSpace (c : UInt8) : Bool := c == 32 || (9 ≤ c && c ≤ 13)

/-- The last byte of a white space rune that starts with `E2 80`. -/
def generalSpace (c : UInt8) : Bool :=
  (0x80 ≤ c && c ≤ 0x8A) || c == 0xA8 || c == 0xA9 || c == 0xAF

/-- How many bytes the white space rune at the front has, if there is one. -/
def leadingSpace : List UInt8 → Nat
  | 0xC2 :: 0x85 :: _ => 2
  | 0xC2 :: 0xA0 :: _ => 2
  | 0xE1 :: 0x9A :: 0x80 :: _ => 3
  | 0xE2 :: 0x80 :: c :: _ => if generalSpace c then 3 else 0
  | 0xE2 :: 0x81 :: 0x9F :: _ => 3
  | 0xE3 :: 0x80 :: 0x80 :: _ => 3
  | c :: _ => if asciiSpace c then 1 else 0
  | [] => 0

/-- The same for the rune at the end of a string whose bytes come in reverse. -/
def trailingSpace : List UInt8 → Nat
  | 0x85 :: 0xC2 :: _ => 2
  | 0xA0 :: 0xC2 :: _ => 2
  | 0x80 :: 0x9A :: 0xE1 :: _ => 3
  | 0x9F :: 0x81 :: 0xE2 :: _ => 3
  | 0x80 :: 0x80 :: 0xE3 :: _ => 3
  | c :: 0x80 :: 0xE2 :: _ => if generalSpace c then 3 else 0
  | c :: _ => if asciiSpace c then 1 else 0
  | [] => 0

/-- Drop what `front` finds at the front, as long as it finds something. -/
def dropFront (front : List UInt8 → Nat) : Nat → List UInt8 → List UInt8
  | 0, text => text
  | fuel + 1, text =>
    if front text = 0 then text else dropFront front fuel (text.drop (front text))

/-- `strings.TrimSpace` -/
def trimSpace (text : List UInt8) : List UInt8 :=
  let left := dropFront leadingSpace text.length text
  (dropFront trailingSpace left.length left.reverse).reverse

/-- `strings.ContainsAny` for a set of ASCII characters -/
def containsAny (text : List UInt8) (chars : List UInt8) : Bool :=
  text.any chars.contains

variable {text : List UInt8}

theorem dropFront_none {front : List UInt8 → Nat} {fuel : Nat} (nothing : front text = 0) :
    dropFront front fuel text = text := by
  cases fuel with
  | zero => rfl
  | succ => rw [dropFront, if_pos nothing]

/-- Printable ASCII other than the blank. -/
def graphic (c : UInt8) : Bool := 33 ≤ c.toNat && c.toNat ≤ 126

theorem graphic_iff {c : UInt8} : graphic c = true ↔ 33 ≤ c.toNat ∧ c.toNat ≤ 126 := by
  simp [graphic]

theorem asciiSpace_graphic {c : UInt8} (h : graphic c = true) : asciiSpace c = false := by
  rw [graphic_iff] at h
  simp only [asciiSpace, Bool.or_eq_false_iff, beq_eq_false_iff_ne, Bool.and_eq_false_iff,
    decide_eq_false_iff_not, UInt8.le_iff_toNat_le, ne_eq, ← UInt8.toNat_inj, UInt8.toNat_ofNat]
  omega

theorem generalSpace_graphic {c : UInt8} (h : graphic c = true) : generalSpace c = false := by
  rw [graphic_iff] at h
  simp only [generalSpace, Bool.or_eq_false_iff, beq_eq_false_iff_ne, Bool.and_eq_false_iff,
    decide_eq_false_iff_not, UInt8.le_iff_toNat_le, ne_eq, ← UInt8.toNat_inj, UInt8.toNat_ofNat]
  omega

theorem leadingSpace_graphic {c : UInt8} {rest : List UInt8} (h : graphic c = true) :
    leadingSpace (c :: rest) = 0 := by
  unfold leadingSpace
  split
  case h_7 heq =>
    cases heq
    rw [asciiSpace_graphic h, if_neg Bool.false_ne_true]
  case h_8 heq => cases heq
  -- the other runes start with a byte that is not ASCII
  all_goals rename_i heq; cases heq; exact absurd h (by decide)

theorem trailingSpace_graphic {c : UInt8} {rest : List UInt8} (h : graphic c = true) :
    trailingSpace (c :: rest) = 0 := by
  unfold trailingSpace
  split
  case h_6 heq =>
    cases heq
    rw [generalSpace_graphic h, if_neg Bool.false_ne_true]
  case h_7 heq =>
    cases heq
    rw [asciiSpace_graphic h, if_neg Bool.false_ne_true]
  case h_8 heq => cases heq
  all_goals rename_i heq; cases heq; exact absurd h (by decide)

/-- `TrimSpace` leaves a string alone that begins and ends with a printable character. -/
theorem trimSpace_graphic (printable : ∀ c ∈ text, graphic c = true) : trimSpace text = text := by
  have front : dropFront leadingSpace text.length text = text := by
    cases text with
    | nil => rfl
    | cons c => exact dropFront_none (leadingSpace_graphic (printable c mem_cons_self))
  have back : dropFront trailingSpace text.length text.reverse = text.reverse := by
    cases hrev : text.reverse with
    | nil =>
      rw [reverse_eq_nil_iff.mp hrev]
      rfl
    | cons c =>
      have last : c ∈ text := mem_reverse.mp (hrev ▸ mem_cons_self)
      exact dropFront_none (trailingSpace_graphic (printable c last))
  rw [trimSpace, front, back, reverse_reverse]

/-- The value of a character of the URL alphabet. -/
def base64Value (c : UInt8) : Option Nat :=
  let n := c.toNat
  if 65 ≤ n ∧ n ≤ 90 then some (n - 65)
  else if 97 ≤ n ∧ n ≤ 122 then some (n - 71)
  else if 48 ≤ n ∧ n ≤ 57 then some (n + 4)
  else if n = 45 then some 62
  else if n = 95 then some 63
  else none

/-- The bytes of whole groups of four characters and of a last group of two or three. -/
def base64Groups : List Nat → Option (List UInt8)
  | [] => some []
  | [_] => none
  | [a, b] => some [UInt8.ofNat (a * 4 + b / 16)]
  | [a, b, c] => some [UInt8.ofNat (a * 4 + b / 16), UInt8.ofNat (b * 16 + c / 4)]
  | a :: b :: c :: d :: rest =>
    (base64Groups rest).map fun bytes =>
      UInt8.ofNat (a * 4 + b / 16) :: UInt8.ofNat (b * 16 + c / 4) ::
        UInt8.ofNat (c * 64 + d) :: bytes

/-- `base64.RawURLEncoding.DecodeString`; `none` is its error. -/
def rawURLDecode (text : List UInt8) : Option (List UInt8) :=
  ((text.filter fun c => c != 10 && c != 13).mapM base64Value).bind base64Groups

theorem base64Value_ascii {c : UInt8} {n : Nat} (h : base64Value c = some n) : c < 0x80 := by
  change c.toNat < 128
  unfold base64Value at h
  dsimp only at h
  split_ifs at h <;> omega

theorem mapM_some {α β : Type} {f : α → Option β} {l : List α} {r : List β}
    (h : l.mapM f = some r) : ∀ a ∈ l, ∃ b, f a = some b := by
  induction l generalizing r with
  | nil => nofun
  | cons a l ih =>
    rw [mapM_cons] at h
    simp only [bind, bind_eq_some_iff, pure] at h
    obtain ⟨b, hb, rest, hrest, -⟩ := h
    intro a' member
    rcases mem_cons.mp member with rfl | member
    · exact ⟨b, hb⟩
    · exact ih hrest a' member

theorem rawURLDecode_ascii {bytes : List UInt8} (h : rawURLDecode text = some bytes) :
    ∀ c ∈ text, c < 0x80 := by
  intro c member
  unfold rawURLDecode at h
  obtain ⟨values, hvalues, -⟩ := bind_eq_some_iff.mp h
  by_cases lineEnd : c = 10 ∨ c = 13
  · rcases lineEnd with rfl | rfl <;> decide
  · rw [not_or] at lineEnd
    have kept : c ∈ text.filter fun c => c != 10 && c != 13 := by simp [member, lineEnd]
    obtain ⟨n, hn⟩ := mapM_some hvalues c kept
    exact base64Value_ascii hn

theorem mapM_digits (digits : ∀ c ∈ text, ∃ n, base64Value c = some n) :
    ∃ values, text.mapM base64Value = some values ∧ values.length = text.length := by
  induction text with
  | nil => exact ⟨[], rfl, rfl⟩
  | cons c text ih =>
    obtain ⟨n, hn⟩ := digits c mem_cons_self
    obtain ⟨values, hvalues, count⟩ := ih fun d member => digits d (mem_cons_of_mem c member)
    refine ⟨n :: values, ?_, by rw [length_cons, count, length_cons]⟩
    rw [mapM_cons, hn, hvalues]
    rfl

/-- Four characters are three bytes. -/
theorem base64Groups_length {values : List Nat} (whole : values.length % 4 ≠ 1) :
    ∃ bytes, base64Groups values = some bytes ∧ bytes.length = values.length * 3 / 4 := by
  induction values using base64Groups.induct with
  | case1 => exact ⟨[], rfl, rfl⟩
  | case2 a => exact absurd rfl whole
  | case3 a b => exact ⟨_, rfl, by simp⟩
  | case4 a b c => exact ⟨_, rfl, by simp⟩
  | case5 a b c d rest ih =>
    simp only [length_cons] at whole
    obtain ⟨bytes, hbytes, count⟩ := ih (by omega)
    refine ⟨_, by rw [base64Groups, hbytes]; rfl, ?_⟩
    simp only [length_cons, count]
    omega

/-- Characters of the alphabet are decoded, unless one is left over. -/
theorem rawURLDecode_digits (digits : ∀ c ∈ text, ∃ n, base64Value c = some n)
    (whole : text.length % 4 ≠ 1) :
    ∃ bytes, rawURLDecode text = some bytes ∧ bytes.length = text.length * 3 / 4 := by
  have kept : text.filter (fun c => c != 10 && c != 13) = text := by
    rw [filter_eq_self]
    intro c member
    obtain ⟨n, hn⟩ := digits c member
    by_contra lineEnd
    simp only [Bool.and_eq_true, bne_iff_ne, not_and_or, not_not] at lineEnd
    rcases lineEnd with rfl | rfl <;> cases hn
  obtain ⟨values, hvalues, count⟩ := mapM_digits digits
  rw [rawURLDecode, kept, hvalues, bind_some, ← count]
  exact base64Groups_length (by rwa [count])

end GoText
