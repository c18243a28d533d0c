import WeDecent.Library.GoJson
import WeDecent.Library.GoTime
import WeDecent.Library.Json
import WeDecent.Library.Timestamp
import WeDecent.Library.Utf8

/-!
# `encoding/json.Unmarshal`

A value is decoded over the one that is there already: `null` leaves it alone, a
struct keeps the fields the object does not name, and a field named twice is
decoded twice. A struct field is found by its exact name or else by its name up to
case. Every error of the decoder is `none`.
-/

namespace GoUnmarshal

open List Option Decimal GoJson GoText GoTime Timestamp

def hexValue (c : UInt8) : Nat :=
  if isDigit c then c.toNat - 48 else if c.toNat ≤ 70 then c.toNat - 55 else c.toNat - 87

/-- `getu4`: the unit of an escape `\uXXXX` at the front, and what follows it. -/
def escapedUnit : List UInt8 → Option (Nat × List UInt8)
  | 92 :: 117 :: a :: b :: c :: d :: rest =>
    if Json.isHex a && Json.isHex b && Json.isHex c && Json.isHex d then
      some (((hexValue a * 16 + hexValue b) * 16 + hexValue c) * 16 + hexValue d, rest)
    else none
  | _ => none

def unescape (c : UInt8) : UInt8 :=
  if c = 98 then 8 else if c = 102 then 12 else if c = 110 then 10
  else if c = 114 then 13 else if c = 116 then 9 else c

/-- The code point of an escape and of the one after it, if they are a surrogate pair. -/
def unpair (unit : Nat) (rest : List UInt8) : Nat × List UInt8 :=
  if Utf8.isHigh unit || Utf8.isLow unit then
    match escapedUnit rest with
    | some (low, after) =>
      if Utf8.isHigh unit && Utf8.isLow low then (Utf8.paired unit low, after)
      else (Utf8.replacement, rest)
    | none => (Utf8.replacement, rest)
  else (unit, rest)

/-- What a string literal stands for, from at most `fuel` characters of it. -/
def unquoteFrom : Nat → List UInt8 → List UInt8
  | 0, _ => []
  | _, [] => []
  | fuel + 1, c :: rest =>
    if c = 92 then
      match escapedUnit (c :: rest), rest with
      | some (unit, rest), _ =>
        Utf8.encode (unpair unit rest).1 ++ unquoteFrom fuel (unpair unit rest).2
      | none, d :: rest => unescape d :: unquoteFrom fuel rest
      | none, [] => []
    else if runeSize (c :: rest) = 0 then replacement ++ unquoteFrom fuel rest
    else
      (c :: rest).take (runeSize (c :: rest)) ++
        unquoteFrom fuel ((c :: rest).drop (runeSize (c :: rest)))

def unquote (raw : List UInt8) : List UInt8 := unquoteFrom raw.length raw

abbrev Store (α : Type) := α → Json → Option α

def string : Store (List UInt8)
  | old, .null => some old
  | _, .string raw => some (unquote raw)
  | _, _ => none

/-- `strconv.ParseUint(literal, 10, 64)` -/
def parseUint64 (literal : List UInt8) : Option UInt64 :=
  if literal.isEmpty then none
  else (number literal).bind fun n => if n < 2 ^ 64 then some (UInt64.ofNat n) else none

/-- `strconv.ParseInt(literal, 10, 64)` -/
def parseInt64 (literal : List UInt8) : Option Int64 :=
  match expect 45 literal with
  | some digits =>
    if digits.isEmpty then none
    else (number digits).bind fun n => if n ≤ 2 ^ 63 then some (Int64.ofInt (-n)) else none
  | none =>
    if literal.isEmpty then none
    else (number literal).bind fun n => if n < 2 ^ 63 then some (Int64.ofInt n) else none

def uint64 : Store UInt64
  | old, .null => some old
  | _, .number literal => parseUint64 literal
  | _, _ => none

def int64 : Store Int64
  | old, .null => some old
  | _, .number literal => parseInt64 literal
  | _, _ => none

section
variable {α σ : Type}

/-- The items of an array, decoded over the old elements and then over zero values. -/
def fill (zero : α) (store : Store α) : List α → List Json → Option (List α)
  | _, [] => some []
  | old, item :: items => do
    let first ← store (old.headD zero) item
    let rest ← fill zero store old.tail items
    some (first :: rest)

def slice (zero : α) (store : Store α) : Store (List α)
  | _, .null => some []
  | old, .array items => fill zero store old items
  | _, _ => none

structure StructField (σ : Type) where
  name : List UInt8
  store : Store σ

def StructField.of (name : String) (get : σ → α) (set : σ → α → σ) (store : Store α) :
    StructField σ where
  name := literal name
  store old item := (store (get old) item).map (set old)

/-- `foldName`, for comparison with names in ASCII: the Kelvin sign and the long s are the
only other characters that fold to ASCII. -/
def foldName : List UInt8 → List UInt8
  | 0xE2 :: 0x84 :: 0xAA :: rest => 75 :: foldName rest
  | 0xC5 :: 0xBF :: rest => 83 :: foldName rest
  | c :: rest => (if 97 ≤ c.toNat ∧ c.toNat ≤ 122 then c - 32 else c) :: foldName rest
  | [] => []

def lookup (fields : List (StructField σ)) (name : List UInt8) : Option (StructField σ) :=
  (fields.find? fun field => field.name == name).or
    (fields.find? fun field => foldName field.name == foldName name)

def storeMember (fields : List (StructField σ)) (old : σ) (member : List UInt8 × Json) : Option σ :=
  match lookup fields (unquote member.1) with
  | none => some old
  | some field => field.store old member.2

def struct (fields : List (StructField σ)) : Store σ
  | old, .null => some old
  | old, .object members => members.foldlM (storeMember fields) old
  | _, _ => none

/-- A member whose field is known is decoded into it. -/
theorem storeMember_known {fields : List (StructField σ)} {key : List UInt8} {item : Json}
    {name : String} {get : σ → α} {set : σ → α → σ} {store : Store α} {old : σ} {value : α}
    (known : lookup fields (unquote key) = some (.of name get set store))
    (decoded : store (get old) item = some value) :
    storeMember fields old (key, item) = some (set old value) := by
  simp [storeMember, known, StructField.of, decoded]

/-- The members are decoded one after the other. -/
theorem storeMembers_cons {fields : List (StructField σ)} {member : List UInt8 × Json}
    {more : List (List UInt8 × Json)} {old new last : σ}
    (first : storeMember fields old member = some new)
    (rest : more.foldlM (storeMember fields) new = some last) :
    (member :: more).foldlM (storeMember fields) old = some last := by
  rw [foldlM_cons, first]
  exact rest

/-- The nesting that the decoder allows. -/
def maxNestingDepth : Nat := 10000

/-- Decode a text into a zero value. -/
def unmarshal (zero : α) (store : Store α) (text : List UInt8) : Option α :=
  (Json.parse maxNestingDepth text).bind (store zero)

end

/-- What the decoder asks of the machine it runs on: the offset of local time at an
instant, and what the general parser makes of a text that is not RFC 3339. -/
structure Zones where
  localOffset : Int → Int
  parseLayout : List UInt8 → Option Time

/-- Nanoseconds after a decimal point, of which nine digits count. -/
def fraction : List UInt8 → Nat × List UInt8
  | 46 :: rest =>
    let digits := (rest.takeWhile isDigit).take 9
    if digits.isEmpty then (0, 46 :: rest)
    else ((number digits).getD 0 * 10 ^ (9 - digits.length), rest.dropWhile isDigit)
  | rest => (0, rest)

def zoneOffset : List UInt8 → Option Int
  | [] => none
  | sign :: text => do
    let (hours, text) ← field 2 0 23 text
    let text ← expect 58 text
    let (minutes, text) ← field 2 0 59 text
    if !text.isEmpty then none
    else if sign = 43 then some ((hours * 60 + minutes) * 60)
    else if sign = 45 then some (-((hours * 60 + minutes) * 60))
    else none

/-- `parseRFC3339` -/
def parseRFC3339 (zones : Zones) (text : List UInt8) : Option Time := do
  let (date, clock, rest) ← read text
  let (nanos, rest) := fraction rest
  let seconds := seconds date clock
  if rest = [90] then some ⟨seconds * 1000000000 + nanos, .utc⟩
  else
    let offset ← zoneOffset rest
    let instant := seconds - offset
    let zone := if zones.localOffset instant = offset then .local else .fixed offset
    some ⟨instant * 1000000000 + nanos, zone⟩

/-- `Time.UnmarshalJSON`, which does not undo the escapes of the string. -/
def time (zones : Zones) : Store Time
  | old, .null => some old
  | _, .string raw => (parseRFC3339 zones raw).or (zones.parseLayout raw)
  | _, _ => none

/-- ASCII without a backslash. -/
theorem unquoteFrom_plain {raw : List UInt8} (plain : ∀ c ∈ raw, c < 0x80 ∧ c ≠ 92) {fuel : Nat}
    (enough : raw.length ≤ fuel) : unquoteFrom fuel raw = raw := by
  induction raw generalizing fuel with
  | nil => cases fuel <;> rfl
  | cons c rest ih =>
    cases fuel with
    | zero => simp at enough
    | succ =>
      obtain ⟨low, backslash⟩ := plain c mem_cons_self
      have one : runeSize (c :: rest) = 1 := if_pos low
      have tail := ih (fun d hd => plain d (mem_cons_of_mem c hd)) (Nat.le_of_succ_le_succ enough)
      simp [unquoteFrom, backslash, one, tail]

theorem unquote_plain {raw : List UInt8} (plain : ∀ c ∈ raw, c < 0x80 ∧ c ≠ 92) :
    unquote raw = raw :=
  unquoteFrom_plain plain (Nat.le_refl _)

theorem numeral_ne_nil (n : Nat) : (numeral n).isEmpty = false := by
  obtain ⟨d, rest, shape, -⟩ := numeral_head n
  rw [shape]
  rfl

theorem parseUint64_numeral {n : Nat} (fits : n < 2 ^ 64) :
    parseUint64 (numeral n) = some (UInt64.ofNat n) := by
  rw [parseUint64, numeral_ne_nil, if_neg Bool.false_ne_true, number_numeral, bind_some,
    if_pos fits]

theorem parseInt64_numeral {n : Nat} (fits : n < 2 ^ 63) :
    parseInt64 (numeral n) = some (Int64.ofInt n) := by
  have unsigned : expect 45 (numeral n) = none := by
    obtain ⟨d, rest, shape, small, -⟩ := numeral_head n
    have digit : digit d ≠ 45 := by
      intro minus
      have code := digit_toNat small
      rw [minus] at code
      change 45 = 48 + d at code
      omega
    rw [shape, expect, if_neg digit]
  rw [parseInt64, unsigned]
  dsimp only
  rw [numeral_ne_nil, if_neg Bool.false_ne_true, number_numeral, bind_some, if_pos fits]

/-- Milliseconds after the point. -/
theorem fraction_millis {n : Nat} (small : n < 1000) :
    fraction (46 :: (padded 3 n ++ [90])) = (n * 1000000, [90]) := by
  have digits : ∀ c ∈ padded 3 n, isDigit c = true := isDigit_padded
  have front : (padded 3 n ++ [90]).takeWhile isDigit = padded 3 n := by
    rw [takeWhile_append_of_pos digits]
    exact append_nil _
  have back : (padded 3 n ++ [90]).dropWhile isDigit = [90] := by
    rw [dropWhile_append_of_pos digits]
    rfl
  have whole : (padded 3 n).take 9 = padded 3 n := take_of_length_le (by simp)
  have some : (padded 3 n).isEmpty = false := by
    rw [isEmpty_eq_false_iff, ← length_pos_iff, padded_length]
    decide
  have value : (number (padded 3 n)).getD 0 = n := by
    rw [number_padded (show n < 10 ^ 3 from small), getD_some]
  have scale : 10 ^ (9 - 3) = 1000000 := by decide
  rw [fraction]
  simp [front, back, whole, some, value, padded_length, scale]

/-- A time in UTC with milliseconds. -/
theorem parseRFC3339_millis (zones : Zones) {date : Calendar.Date} (clock : Clock)
    (low : 0 ≤ date.year) (high : date.year ≤ 9999) {n : Nat} (small : n < 1000) :
    parseRFC3339 zones (text date clock ++ 46 :: (padded 3 n ++ [90])) =
      some ⟨seconds date clock * 1000000000 + n * 1000000, .utc⟩ := by
  simp only [parseRFC3339, bind, read_text clock low high, bind_some,
    fraction_millis small, if_true, Int.natCast_mul]
  rfl

end GoUnmarshal
