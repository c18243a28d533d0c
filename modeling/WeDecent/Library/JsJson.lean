import WeDecent.Library.GoUnmarshal
import WeDecent.Library.JavaScript

/-!
# JSON texts in JavaScript

`JSON.parse(new TextDecoder("utf-8", { fatal: true }).decode(bytes))`: the bytes are valid UTF-8,
a byte order mark at their front is dropped, and of properties with one name the last one counts.
A number outside the safe integers is the double that the runtime reads.
-/

namespace JsJson

open List Decimal GoJson GoUnmarshal JavaScript

def validFrom : Nat → List UInt8 → Bool
  | 0, text => text.isEmpty
  | _, [] => true
  | fuel + 1, a :: rest =>
    runeSize (a :: rest) != 0 && validFrom fuel ((a :: rest).drop (runeSize (a :: rest)))

def validUTF8 (text : List UInt8) : Bool := validFrom text.length text

def dropMark : List UInt8 → List UInt8
  | 0xEF :: 0xBB :: 0xBF :: rest => rest
  | text => text

/-- The code point of a whole sequence -/
def codePoint : List UInt8 → Nat
  | [a] => a.toNat
  | [a, b] => a.toNat % 32 * 64 + b.toNat % 64
  | [a, b, c] => (a.toNat % 16 * 64 + b.toNat % 64) * 64 + c.toNat % 64
  | [a, b, c, d] =>
    ((a.toNat % 8 * 64 + b.toNat % 64) * 64 + c.toNat % 64) * 64 + d.toNat % 64
  | _ => Utf8.replacement

def units (point : Nat) : Text :=
  if point < 0x10000 then [UInt16.ofNat point]
  else [UInt16.ofNat (0xD800 + (point - 0x10000) / 1024),
    UInt16.ofNat (0xDC00 + (point - 0x10000) % 1024)]

/-- What a string literal stands for, from at most `fuel` characters of it -/
def stringFrom : Nat → List UInt8 → Text
  | 0, _ => []
  | _, [] => []
  | fuel + 1, c :: rest =>
    if c = 92 then
      match escapedUnit (c :: rest), rest with
      | some (unit, rest), _ => UInt16.ofNat unit :: stringFrom fuel rest
      | none, d :: rest => (unescape d).toUInt16 :: stringFrom fuel rest
      | none, [] => []
    else
      units (codePoint ((c :: rest).take (runeSize (c :: rest)))) ++
        stringFrom fuel ((c :: rest).drop (runeSize (c :: rest)))

def string (raw : List UInt8) : Text := stringFrom raw.length raw

def number (js : Runtime) (literal : List UInt8) : Number :=
  match literal with
  | 45 :: digits =>
    match if Json.digitsOnly digits then Decimal.number digits else none with
    | some 0 => .negativeZero
    | some n => if n ≤ maxSafeInteger then .int (-n) else js.textNumber (ascii literal)
    | none => js.textNumber (ascii literal)
  | _ =>
    match if Json.digitsOnly literal then Decimal.number literal else none with
    | some n => if n ≤ maxSafeInteger then .int n else js.textNumber (ascii literal)
    | none => js.textNumber (ascii literal)

def setProperty (name : Text) (v : Value) : List (Text × Value) → List (Text × Value)
  | [] => [(name, v)]
  | (other, old) :: more =>
    if other = name then (name, v) :: more else (other, old) :: setProperty name v more

mutual

def value (js : Runtime) : Json → Value
  | .null => .null
  | .bool b => .boolean b
  | .number literal => .number (number js literal)
  | .string raw => .string (string raw)
  | .array items => .array (values js items)
  | .object members => .object (properties js [] members)

def values (js : Runtime) : List Json → List Value
  | [] => []
  | item :: items => value js item :: values js items

def properties (js : Runtime) (before : List (Text × Value)) :
    List (List UInt8 × Json) → List (Text × Value)
  | [] => before
  | (key, item) :: more => properties js (setProperty (string key) (value js item) before) more

end

/-- The bytes as a value; `none` where the decoder or the parser throws -/
def decode (js : Runtime) (bytes : List UInt8) : Option Value :=
  if validUTF8 bytes then (Json.parse bytes.length (dropMark bytes)).map (value js) else none

theorem setProperty_new {name : Text} {v : Value} {before : List (Text × Value)}
    (new : name ∉ before.map Prod.fst) : setProperty name v before = before ++ [(name, v)] := by
  induction before with
  | nil => rfl
  | cons p more ih =>
    rw [map_cons, mem_cons, not_or] at new
    rw [setProperty, if_neg (Ne.symm new.1), ih new.2, cons_append]

/-- Properties with different names come in their order. -/
theorem properties_distinct (js : Runtime) {before : List (Text × Value)}
    {members : List (List UInt8 × Json)}
    (distinct : (before.map Prod.fst ++ members.map fun m => string m.1).Nodup) :
    properties js before members = before ++ members.map fun m => (string m.1, value js m.2) := by
  induction members generalizing before with
  | nil =>
    rw [properties, map_nil, append_nil]
  | cons m more ih =>
    obtain ⟨key, item⟩ := m
    have new : string key ∉ before.map Prod.fst := by
      intro member
      exact (nodup_append.mp distinct).2.2 _ member _ mem_cons_self rfl
    rw [properties, setProperty_new new, ih, append_assoc]
    · rfl
    · rw [map_append, append_assoc]
      exact distinct

theorem validFrom_ascii {text : List UInt8} (plain : ∀ c ∈ text, c < 0x80) {fuel : Nat}
    (enough : text.length ≤ fuel) : validFrom fuel text = true := by
  induction text generalizing fuel with
  | nil => cases fuel <;> rfl
  | cons a rest ih =>
    cases fuel with
    | zero => simp at enough
    | succ =>
      have one : runeSize (a :: rest) = 1 := if_pos (plain a mem_cons_self)
      have tail := ih (fun c hc => plain c (mem_cons_of_mem a hc)) (Nat.le_of_succ_le_succ enough)
      simp [validFrom, one, tail]

theorem stringFrom_plain {raw : List UInt8} (plain : ∀ c ∈ raw, c < 0x80 ∧ c ≠ 92) {fuel : Nat}
    (enough : raw.length ≤ fuel) : stringFrom fuel raw = ascii raw := by
  induction raw generalizing fuel with
  | nil => cases fuel <;> rfl
  | cons a rest ih =>
    cases fuel with
    | zero => simp at enough
    | succ =>
      obtain ⟨small, noEscape⟩ := plain a mem_cons_self
      have one : runeSize (a :: rest) = 1 := if_pos small
      have tail := ih (fun c hc => plain c (mem_cons_of_mem a hc)) (Nat.le_of_succ_le_succ enough)
      have unit : units (codePoint [a]) = [a.toUInt16] := by
        have bound := a.toNat_lt
        rw [codePoint, units, if_pos (by omega), List.cons.injEq, ← UInt16.toNat_inj,
          UInt16.toNat_ofNat', UInt8.toNat_toUInt16]
        exact ⟨Nat.mod_eq_of_lt (by omega), rfl⟩
      simp [stringFrom, noEscape, one, unit, tail, ascii]

theorem string_plain {raw : List UInt8} (plain : ∀ c ∈ raw, c < 0x80 ∧ c ≠ 92) :
    string raw = ascii raw := stringFrom_plain plain (Nat.le_refl _)

theorem digitsOnly_numeral (n : Nat) : Json.digitsOnly (numeral n) = true := by
  rw [Json.digitsOnly, GoUnmarshal.numeral_ne_nil, Bool.not_false, Bool.true_and]
  exact List.all_eq_true.mpr (isDigit_numeral n)

theorem number_integer (js : Runtime) {n : Int} (safe : n.natAbs ≤ maxSafeInteger) :
    number js (integer n) = .int n := by
  have digits : (if Json.digitsOnly (numeral n.natAbs) = true then
      Decimal.number (numeral n.natAbs) else none) = some n.natAbs := by
    rw [if_pos (digitsOnly_numeral _), number_numeral]
  unfold integer
  split
  · rename_i negative
    obtain ⟨m, size⟩ : ∃ m, n.natAbs = m + 1 := ⟨n.natAbs - 1, by omega⟩
    rw [size] at digits safe
    rw [size, number, digits]
    change (if m + 1 ≤ maxSafeInteger then _ else _) = _
    rw [if_pos safe]
    congr
    omega
  · rename_i positive
    obtain ⟨d, rest, shape, small, -⟩ := numeral_head n.natAbs
    rw [shape] at digits
    rw [shape, number.eq_2, digits]
    · dsimp only
      rw [if_pos safe]
      congr
      omega
    · -- A digit is not the sign.
      rintro more same
      have minus : (digit d).toNat = 45 := by rw [(List.cons.inj same).1]; rfl
      rw [digit_toNat small] at minus
      omega

end JsJson
