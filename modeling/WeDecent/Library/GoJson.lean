import WeDecent.Library.GoText

/-!
# Strings in `encoding/json`

The encoder writes a Go string between quotes, escapes what JSON and HTML need
escaped, and replaces every byte that is not part of valid UTF-8 by U+FFFD. So a
string comes back from a file unchanged exactly when it is valid UTF-8.
-/

namespace GoJson

open List

/-- The size of the rune that a byte outside ASCII begins, and the range of its
second byte. -/
def leading (a : UInt8) : Option (Nat × UInt8 × UInt8) :=
  if 0xC2 ≤ a ∧ a ≤ 0xDF then some (2, 0x80, 0xBF)
  else if a = 0xE0 then some (3, 0xA0, 0xBF)
  else if a = 0xED then some (3, 0x80, 0x9F)
  else if 0xE1 ≤ a ∧ a ≤ 0xEF then some (3, 0x80, 0xBF)
  else if a = 0xF0 then some (4, 0x90, 0xBF)
  else if 0xF1 ≤ a ∧ a ≤ 0xF3 then some (4, 0x80, 0xBF)
  else if a = 0xF4 then some (4, 0x80, 0x8F)
  else none

/-- How many bytes the rune at the front has; 0 where there is no valid one. -/
def runeSize : List UInt8 → Nat
  | [] => 0
  | a :: rest =>
    if a < 0x80 then 1
    else
      match leading a, rest with
      | some (size, low, high), b :: more =>
        let tail := more.take (size - 2)
        if low ≤ b ∧ b ≤ high ∧ tail.length = size - 2 ∧ tail.all (fun c => 0x80 ≤ c && c ≤ 0xBF)
        then size
        else 0
      | _, _ => 0

def replacement : List UInt8 := [0xEF, 0xBF, 0xBD]

/-- The string that decoding the encoded string gives, from `fuel` runes of it. -/
def decoded : Nat → List UInt8 → List UInt8
  | 0, _ => []
  | _, [] => []
  | fuel + 1, a :: rest =>
    if runeSize (a :: rest) = 0 then replacement ++ decoded fuel rest
    else
      (a :: rest).take (runeSize (a :: rest)) ++
        decoded fuel ((a :: rest).drop (runeSize (a :: rest)))

/-- What a string is after it was written and read again. -/
def readBack (text : List UInt8) : List UInt8 := decoded text.length text

def hexDigit (n : Nat) : UInt8 := UInt8.ofNat (if n < 10 then 48 + n else 87 + n)

/-- An ASCII character between the quotes. -/
def escapeASCII (c : UInt8) : List UInt8 :=
  if c = 34 ∨ c = 92 then [92, c]
  else if c = 8 then [92, 98]
  else if c = 12 then [92, 102]
  else if c = 10 then [92, 110]
  else if c = 13 then [92, 114]
  else if c = 9 then [92, 116]
  else if c < 32 ∨ c = 38 ∨ c = 60 ∨ c = 62 then
    GoText.literal "\\u00" ++ [hexDigit (c.toNat / 16), hexDigit (c.toNat % 16)]
  else [c]

/-- A rune between the quotes; the line separators are escaped as well. -/
def escapeRune (rune : List UInt8) : List UInt8 :=
  match rune with
  | [c] => escapeASCII c
  | [0xE2, 0x80, 0xA8] => GoText.literal "\\u2028"
  | [0xE2, 0x80, 0xA9] => GoText.literal "\\u2029"
  | _ => rune

def escaped : Nat → List UInt8 → List UInt8
  | 0, _ => []
  | _, [] => []
  | fuel + 1, a :: rest =>
    if runeSize (a :: rest) = 0 then GoText.literal "\\ufffd" ++ escaped fuel rest
    else
      escapeRune ((a :: rest).take (runeSize (a :: rest))) ++
        escaped fuel ((a :: rest).drop (runeSize (a :: rest)))

/-- A string as the encoder writes it. -/
def encodeString (text : List UInt8) : List UInt8 :=
  [34] ++ escaped text.length text ++ [34]

/-- What stands for itself between the quotes -/
def selfEscaped (c : UInt8) : Bool :=
  32 ≤ c && c < 0x80 && !([34, 38, 60, 62, 92].contains c)

theorem escapeASCII_self {c : UInt8} (h : selfEscaped c = true) : escapeASCII c = [c] := by
  simp only [selfEscaped, Bool.and_eq_true, decide_eq_true_eq, Bool.not_eq_true',
    contains_eq_mem, decide_eq_false_iff_not, mem_cons, not_mem_nil, or_false,
    not_or] at h
  obtain ⟨⟨low, -⟩, quote, amp, less, greater, slash⟩ := h
  have control (d : UInt8) (small : d < 32) : c ≠ d := by
    rintro rfl
    exact absurd low (UInt8.not_le.mpr small)
  have above : ¬c < 32 := UInt8.not_lt.mpr low
  unfold escapeASCII
  simp [quote, slash, amp, less, greater, above, control 8 (by decide), control 9 (by decide),
    control 10 (by decide), control 12 (by decide), control 13 (by decide), or_self]

variable {text : List UInt8}

theorem escaped_self (plain : ∀ c ∈ text, selfEscaped c = true) {fuel : Nat}
    (enough : text.length ≤ fuel) : escaped fuel text = text := by
  induction text generalizing fuel with
  | nil => cases fuel <;> rfl
  | cons a rest ih =>
    cases fuel with
    | zero => simp at enough
    | succ =>
      have here := plain a mem_cons_self
      have ascii : a < 0x80 := by
        simp only [selfEscaped, Bool.and_eq_true, decide_eq_true_eq] at here
        exact here.1.2
      have one : runeSize (a :: rest) = 1 := if_pos ascii
      have tail := ih (fun c hc => plain c (mem_cons_of_mem a hc)) (Nat.le_of_succ_le_succ enough)
      have front : escapeRune [a] = [a] := escapeASCII_self here
      rw [escaped, one, if_neg Nat.one_ne_zero, take_succ_cons, take_zero, front,
        drop_succ_cons, drop_zero, tail, singleton_append]

/-- ASCII comes back as it was. -/
theorem decoded_ascii (plain : ∀ c ∈ text, c < 0x80) {fuel : Nat} (enough : text.length ≤ fuel) :
    decoded fuel text = text := by
  induction text generalizing fuel with
  | nil => cases fuel <;> rfl
  | cons a rest ih =>
    cases fuel with
    | zero => simp at enough
    | succ =>
      have one : runeSize (a :: rest) = 1 := if_pos (plain a mem_cons_self)
      have tail := ih (fun c hc => plain c (mem_cons_of_mem a hc)) (Nat.le_of_succ_le_succ enough)
      simp [decoded, one, tail]

theorem readBack_ascii (plain : ∀ c ∈ text, c < 0x80) : readBack text = text :=
  decoded_ascii plain (Nat.le_refl _)

theorem leading_size {a low high : UInt8} {size : Nat} (h : leading a = some (size, low, high)) :
    2 ≤ size := by
  unfold leading at h
  split_ifs at h <;> cases h <;> decide

/-- A valid rune is its own, whatever follows. -/
theorem runeSize_take {n : Nat} (h : runeSize text = n + 1) : (text.take (n + 1)).length = n + 1 ∧
      ∀ more, runeSize (text.take (n + 1) ++ more) = n + 1 := by
  cases text with
  | nil => cases h
  | cons a rest =>
    unfold runeSize at h
    dsimp only at h
    by_cases ascii : a < 0x80
    · rw [if_pos ascii] at h
      obtain rfl : n = 0 := (Nat.succ.inj h).symm
      exact ⟨rfl, fun more => if_pos ascii⟩
    · rw [if_neg ascii] at h
      split at h
      · rename_i size low high b tail shape
        split at h
        · rename_i valid
          obtain ⟨above, below, whole, following⟩ := valid
          subst h
          obtain ⟨k, rfl⟩ : ∃ k, n = k + 1 := ⟨n - 1, by have := leading_size shape; omega⟩
          rw [show k + 1 + 1 - 2 = k by omega] at whole following
          refine ⟨by simp only [take_succ_cons, length_cons, whole], fun more => ?_⟩
          have same : (tail.take k ++ more).take k = tail.take k := by
            rw [take_append_of_le_length (Nat.le_of_eq whole.symm), take_take, Nat.min_self]
          simp only [take_succ_cons, cons_append, runeSize, if_neg ascii, shape]
          rw [show k + 1 + 1 - 2 = k by omega, same, if_pos ⟨above, below, whole, following⟩]
        · cases h
      · cases h

theorem decoded_rune {rune more : List UInt8} {n fuel : Nat} (length : rune.length = n + 1)
    (size : runeSize (rune ++ more) = n + 1) :
    decoded (fuel + 1) (rune ++ more) = rune ++ decoded fuel more := by
  cases rune with
  | nil => cases length
  | cons =>
    rw [cons_append] at size ⊢
    rw [decoded, size, if_neg (Nat.succ_ne_zero n), ← cons_append, ← length, take_left, drop_left]

/-- What was read back is valid UTF-8. -/
theorem decoded_decoded {fuel fuel' : Nat} (enough : (decoded fuel text).length ≤ fuel') :
    decoded fuel' (decoded fuel text) = decoded fuel text := by
  induction fuel generalizing fuel' text with
  | zero => cases fuel' <;> rfl
  | succ fuel ih =>
    cases text with
    | nil => cases fuel' <;> rfl
    | cons a rest =>
      rw [decoded] at enough ⊢
      cases size : runeSize (a :: rest) with
      | zero =>
        rw [if_pos size, length_append] at enough
        rw [if_pos rfl]
        obtain ⟨fuel', rfl⟩ : ∃ k, fuel' = k + 1 :=
          ⟨fuel' - 1, by have : replacement.length = 3 := rfl; omega⟩
        have whole : runeSize (replacement ++ decoded fuel rest) = 2 + 1 :=
          (runeSize_take (show runeSize replacement = 2 + 1 from rfl)).2 _
        rw [decoded_rune rfl whole, ih]
        have : replacement.length = 3 := rfl
        omega
      | succ n =>
        obtain ⟨length, own⟩ := runeSize_take size
        rw [size, if_neg (Nat.succ_ne_zero n), length_append, length] at enough
        rw [if_neg (Nat.succ_ne_zero n)]
        obtain ⟨fuel', rfl⟩ : ∃ k, fuel' = k + 1 := ⟨fuel' - 1, by omega⟩
        rw [decoded_rune length (own _), ih (by omega)]

theorem readBack_readBack (text : List UInt8) : readBack (readBack text) = readBack text :=
  decoded_decoded (Nat.le_refl _)

end GoJson
