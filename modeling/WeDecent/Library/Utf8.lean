import Mathlib.Tactic.Common

/-!
# UTF-8

The encoding of one code point.
-/

namespace Utf8

/-- The replacement character U+FFFD. -/
def replacement : Nat := 0xFFFD

def encode (point : Nat) : List UInt8 :=
  if point < 0x80 then [UInt8.ofNat point]
  else if point < 0x800 then [UInt8.ofNat (0xC0 + point / 64), UInt8.ofNat (0x80 + point % 64)]
  else if point < 0x10000 then
    [UInt8.ofNat (0xE0 + point / 4096), UInt8.ofNat (0x80 + point / 64 % 64),
      UInt8.ofNat (0x80 + point % 64)]
  else
    [UInt8.ofNat (0xF0 + point / 262144), UInt8.ofNat (0x80 + point / 4096 % 64),
      UInt8.ofNat (0x80 + point / 64 % 64), UInt8.ofNat (0x80 + point % 64)]

/-- A UTF-16 unit that opens a surrogate pair. -/
def isHigh (unit : Nat) : Bool := 0xD800 ≤ unit && unit < 0xDC00

/-- A UTF-16 unit that closes one. -/
def isLow (unit : Nat) : Bool := 0xDC00 ≤ unit && unit < 0xE000

/-- The code point of a surrogate pair. -/
def paired (high low : Nat) : Nat := 0x10000 + (high - 0xD800) * 1024 + (low - 0xDC00)

theorem encode_ascii {point : Nat} (h : point < 0x80) : encode point = [UInt8.ofNat point] :=
  if_pos h

end Utf8
