import WeDecent.Library.Fallible
import WeDecent.Library.GoText
import WeDecent.Library.Json
import WeDecent.Library.Timestamp
import WeDecent.Library.Utf8

/-!
# JavaScript values

Strings are sequences of UTF-16 units, numbers are doubles, and an object is a list
of properties. This is what the language does with them when a program converts,
compares, trims, encodes and serializes values. What the language leaves to objects
or to the implementation is a `Runtime`: how an object converts to a string or a
number, how numbers outside the safe integers are written, and which dates are read
beyond the format that `toISOString` writes.
-/

namespace JavaScript

open List Option Calendar Decimal

abbrev Text := List UInt16

/-- A string literal in ASCII. -/
def ascii (bytes : List UInt8) : Text := bytes.map UInt8.toUInt16

def text (s : String) : Text := ascii (GoText.literal s)

/-- The doubles; negative zero is not the number zero. -/
inductive Number where
  | nan
  | infinite (negative : Bool)
  | negativeZero
  | finite (value : Rat)
  deriving DecidableEq

def Number.int (n : Int) : Number := .finite n

def maxSafeInteger : Nat := 2 ^ 53 - 1

/-- The integer a number is, where `Number.isSafeInteger` holds. -/
def Number.safeInteger? : Number → Option Int
  | .negativeZero => some 0
  | .finite value =>
    if value.den = 1 ∧ value.num.natAbs ≤ maxSafeInteger then some value.num else none
  | _ => none

/-- `Number.isInteger` -/
def Number.isInteger : Number → Bool
  | .negativeZero => true
  | .finite value => value.den == 1
  | _ => false

/-- `a === b` -/
def Number.strictEqual : Number → Number → Bool
  | .nan, _ => false
  | .negativeZero, .finite value => value == 0
  | .finite value, .negativeZero => value == 0
  | a, b => a == b

/-- `other` are the functions, symbols and big integers. -/
inductive Value where
  | undefined
  | null
  | boolean (b : Bool)
  | number (n : Number)
  | string (s : Text)
  | array (items : List Value)
  | object (properties : List (Text × Value))
  | other (id : Nat)

inductive Thrown where
  | error (message : String)
  | typeError
  | rangeError

structure Runtime where
  objectText : Value → Option Text
  objectNumber : Value → Option Number
  numberText : Number → Text
  textNumber : Text → Number
  lowerCase : Text → Text
  parseDate : Text → Option Int

namespace Value

/-- `value.name` -/
def get (v : Value) (name : String) : Except Thrown Value :=
  match v with
  | .undefined => .error .typeError
  | .null => .error .typeError
  | .object properties =>
    .ok (((properties.find? fun p => p.1 == text name).map Prod.snd).getD .undefined)
  | _ => .ok .undefined

/-- `value && typeof value === 'object'` -/
def isObject : Value → Bool
  | .array _ => true
  | .object _ => true
  | _ => false

/-- `value === s` -/
def isText (v : Value) (s : Text) : Bool :=
  match v with
  | .string t => t == s
  | _ => false

/-- `value === n`, for a number other than zero -/
def isNumber (v : Value) (n : Int) : Bool :=
  match v with
  | .number m => m == .int n
  | _ => false

/-- `value ?? ''` -/
def orEmpty : Value → Value
  | .undefined => .string []
  | .null => .string []
  | v => v

end Value

/-- `String(value)` -/
def toText (js : Runtime) : Value → Except Thrown Text
  | .undefined => .ok (text "undefined")
  | .null => .ok (text "null")
  | .boolean b => .ok (text (if b then "true" else "false"))
  | .number n => .ok (js.numberText n)
  | .string s => .ok s
  | v => (js.objectText v).elim (.error .typeError) .ok

/-- `Number(value)` -/
def toNumber (js : Runtime) : Value → Except Thrown Number
  | .undefined => .ok .nan
  | .null => .ok (.int 0)
  | .boolean b => .ok (.int (if b then 1 else 0))
  | .number n => .ok n
  | .string s => .ok (js.textNumber s)
  | v => (js.objectNumber v).elim (.error .typeError) .ok

/-- White space and line terminators. -/
def isSpace (u : UInt16) : Bool :=
  [9, 10, 11, 12, 13, 32, 0xA0, 0x1680, 0x2028, 0x2029, 0x202F, 0x205F, 0x3000,
    0xFEFF].contains u ||
    (0x2000 ≤ u && u ≤ 0x200A)

def trim (s : Text) : Text := ((s.dropWhile isSpace).reverse.dropWhile isSpace).reverse

def isASCII (s : Text) : Bool := s.all (· < 128)

def toLowerCase (js : Runtime) (s : Text) : Text :=
  if isASCII s then s.map fun u => if 65 ≤ u ∧ u ≤ 90 then u + 32 else u else js.lowerCase s

/-- The code point of a unit on its own. -/
def scalar (u : UInt16) : Nat :=
  if Utf8.isHigh u.toNat || Utf8.isLow u.toNat then Utf8.replacement else u.toNat

/-- `TextEncoder.encode` -/
def utf8 : Text → List UInt8
  | [] => []
  | [u] => Utf8.encode (scalar u)
  | u :: v :: rest =>
    if Utf8.isHigh u.toNat && Utf8.isLow v.toNat then
      Utf8.encode (Utf8.paired u.toNat v.toNat) ++ utf8 rest
    else Utf8.encode (scalar u) ++ utf8 (v :: rest)

def hexDigit (n : Nat) : UInt16 := UInt16.ofNat (if n < 10 then 48 + n else 87 + n)

def unicodeEscape (u : UInt16) : Text :=
  let n := u.toNat
  [92, 117, hexDigit (n / 4096), hexDigit (n / 256 % 16), hexDigit (n / 16 % 16), hexDigit (n % 16)]

/-- A unit that is not half of a pair. -/
def escapeUnit (u : UInt16) : Text :=
  if u = 34 ∨ u = 92 then [92, u]
  else if u = 8 then [92, 98]
  else if u = 9 then [92, 116]
  else if u = 10 then [92, 110]
  else if u = 12 then [92, 102]
  else if u = 13 then [92, 114]
  else if u < 32 ∨ Utf8.isHigh u.toNat ∨ Utf8.isLow u.toNat then unicodeEscape u
  else [u]

def escapeText : Text → Text
  | [] => []
  | [u] => escapeUnit u
  | u :: v :: rest =>
    if Utf8.isHigh u.toNat && Utf8.isLow v.toNat then u :: v :: escapeText rest
    else escapeUnit u ++ escapeText (v :: rest)

def numberJson (js : Runtime) (n : Number) : Json :=
  match n, n.safeInteger? with
  | _, some value =>
    .number (if value < 0 then 45 :: numeral value.natAbs else numeral value.natAbs)
  | .finite _, none => .number (utf8 (js.numberText n))
  | _, none => .null

mutual

/-- What `JSON.stringify` writes of a value; `none` for values without a JSON form. -/
def serialize (js : Runtime) : Value → Option Json
  | .undefined => none
  | .null => some .null
  | .boolean b => some (.bool b)
  | .number n => some (numberJson js n)
  | .string s => some (.string (utf8 (escapeText s)))
  | .array items => some (.array (serializeItems js items))
  | .object properties => some (.object (serializeProperties js properties))
  | .other _ => none

def serializeItems (js : Runtime) : List Value → List Json
  | [] => []
  | item :: items => (serialize js item).getD .null :: serializeItems js items

def serializeProperties (js : Runtime) : List (Text × Value) → List (List UInt8 × Json)
  | [] => []
  | (name, value) :: more =>
    match serialize js value with
    | some item => (utf8 (escapeText name), item) :: serializeProperties js more
    | none => serializeProperties js more

end

/-- `JSON.stringify(value)`, in UTF-8 -/
def stringify (js : Runtime) (v : Value) : Option (List UInt8) := (serialize js v).map Json.render

/-- A time in UTC with milliseconds, `YYYY-MM-DDThh:mm:ss.sssZ`. -/
def completeDate (bytes : List UInt8) : Option Int := do
  let (date, clock, rest) ← Timestamp.read bytes
  let rest ← expect 46 rest
  let (millis, rest) ← field 3 0 999 rest
  if rest = [90] then some (Timestamp.seconds date clock * 1000 + millis) else none

/-- `Date.parse(s)`; `none` is `NaN`. -/
def parseDate (js : Runtime) (s : Text) : Option Int :=
  match if isASCII s then completeDate (s.map UInt16.toUInt8) else none with
  | some millis => some millis
  | none => js.parseDate s

/-- The largest time value. -/
def maxTime : Nat := 8640000000000000

def yearText (year : Int) : List UInt8 :=
  if 0 ≤ year ∧ year ≤ 9999 then padded 4 year.toNat
  else (if year < 0 then 45 else 43) :: padded 6 year.natAbs

def dateText (millis : Int) : List UInt8 :=
  let date := Date.ofDay (millis / 86400000)
  let clock := Timestamp.Clock.ofSeconds (millis % 86400000 / 1000).toNat
  yearText date.year ++ (Timestamp.afterYear date clock ++
    46 :: (padded 3 (millis % 1000).toNat ++ [90]))

/-- `new Date(millis).toISOString()` -/
def toISOString (millis : Int) : Except Thrown Text :=
  if millis.natAbs ≤ maxTime then .ok (ascii (dateText millis)) else .error .rangeError

/-- Printable ASCII other than the blank, the quote and the backslash. -/
def isPlain (u : UInt16) : Bool :=
  33 ≤ u.toNat && u.toNat ≤ 126 && u.toNat != 34 && u.toNat != 92

def Plain (s : Text) : Prop := ∀ u ∈ s, isPlain u = true

instance (s : Text) : Decidable (Plain s) := decidableBAll _ s

variable {u : UInt16}

theorem isPlain_iff :
    isPlain u = true ↔ 33 ≤ u.toNat ∧ u.toNat ≤ 126 ∧ u.toNat ≠ 34 ∧ u.toNat ≠ 92 := by
  simp [isPlain, and_assoc]

theorem isSpace_plain (h : isPlain u = true) : isSpace u = false := by
  rw [isPlain_iff] at h
  by_contra space
  simp only [isSpace, Bool.not_eq_false, Bool.or_eq_true, contains_iff_mem, mem_cons,
    not_mem_nil, or_false, Bool.and_eq_true, decide_eq_true_eq, UInt16.le_iff_toNat_le,
    ← UInt16.toNat_inj, UInt16.toNat_ofNat] at space
  omega

variable {s : Text}

theorem dropSpace_plain (h : Plain s) : s.dropWhile isSpace = s := by
  cases s with
  | nil => rfl
  | cons u =>
    have visible := isSpace_plain (h u mem_cons_self)
    rw [dropWhile_cons_of_neg (by rw [visible]; exact Bool.false_ne_true)]

theorem trim_plain (h : Plain s) : trim s = s := by
  have reversed : Plain s.reverse := fun u member => h u (mem_reverse.mp member)
  rw [trim, dropSpace_plain h, dropSpace_plain reversed, reverse_reverse]

theorem unpaired_ascii (h : u.toNat < 128) :
    Utf8.isHigh u.toNat = false ∧ Utf8.isLow u.toNat = false := by
  simp only [Utf8.isHigh, Utf8.isLow, Bool.and_eq_false_iff, decide_eq_false_iff_not]
  omega

theorem ascii_plain (h : isPlain u = true) : u.toNat < 128 := by
  rw [isPlain_iff] at h
  omega

theorem unpaired_plain (h : isPlain u = true) :
    Utf8.isHigh u.toNat = false ∧ Utf8.isLow u.toNat = false :=
  unpaired_ascii (ascii_plain h)

theorem escapeUnit_plain (h : isPlain u = true) : escapeUnit u = [u] := by
  obtain ⟨high, low⟩ := unpaired_plain h
  rw [isPlain_iff] at h
  simp only [escapeUnit, high, low, ← UInt16.toNat_inj, UInt16.lt_iff_toNat_lt, UInt16.toNat_ofNat,
    Bool.false_eq_true, or_false]
  split_ifs <;> first | rfl | omega

theorem escapeText_plain (h : Plain s) : escapeText s = s := by
  induction s using escapeText.induct with
  | case1 => rfl
  | case2 u => exact escapeUnit_plain (h u mem_cons_self)
  | case3 u v rest pair =>
    rw [(unpaired_plain (h u mem_cons_self)).1, Bool.false_and] at pair
    cases pair
  | case4 u v rest unpaired ih =>
    rw [escapeText, if_neg unpaired, escapeUnit_plain (h u mem_cons_self),
      ih fun w member => h w (mem_cons_of_mem u member)]
    rfl

theorem encode_ascii (h : u.toNat < 128) : Utf8.encode (scalar u) = [u.toUInt8] := by
  obtain ⟨high, low⟩ := unpaired_ascii h
  rw [scalar, high, low, Bool.or_false, if_neg Bool.false_ne_true, Utf8.encode_ascii h]
  rfl

theorem utf8_ascii (h : ∀ u ∈ s, u.toNat < 128) : utf8 s = s.map UInt16.toUInt8 := by
  induction s using utf8.induct with
  | case1 => rfl
  | case2 u => exact encode_ascii (h u mem_cons_self)
  | case3 u v rest pair =>
    rw [(unpaired_ascii (h u mem_cons_self)).1, Bool.false_and] at pair
    cases pair
  | case4 u v rest unpaired ih =>
    rw [utf8, if_neg unpaired, encode_ascii (h u mem_cons_self),
      ih fun w member => h w (mem_cons_of_mem u member)]
    rfl

theorem utf8_plain (h : Plain s) : utf8 s = s.map UInt16.toUInt8 :=
  utf8_ascii fun u member => ascii_plain (h u member)

theorem toUInt8_plain (h : isPlain u = true) : u.toUInt8.toNat = u.toNat := by
  rw [isPlain_iff] at h
  rw [UInt16.toNat_toUInt8]
  omega

theorem utf8_length (h : Plain s) : (utf8 s).length = s.length := by
  rw [utf8_plain h, length_map]

theorem mem_utf8 (h : Plain s) {c : UInt8} (member : c ∈ utf8 s) :
    33 ≤ c.toNat ∧ c.toNat ≤ 126 ∧ c.toNat ≠ 34 ∧ c.toNat ≠ 92 := by
  rw [utf8_plain h] at member
  obtain ⟨u, inside, rfl⟩ := List.mem_map.mp member
  rw [toUInt8_plain (h u inside)]
  exact isPlain_iff.mp (h u inside)

theorem utf8_inj {t : Text} (hs : Plain s) (ht : Plain t) (same : utf8 s = utf8 t) : s = t := by
  rw [utf8_plain hs, utf8_plain ht] at same
  induction s generalizing t with
  | nil => exact (map_eq_nil_iff.mp same.symm).symm
  | cons u s ih =>
    cases t with
    | nil => cases same
    | cons v =>
      obtain ⟨first, rest⟩ := List.cons.inj same
      have heads : u = v := by
        have numbers := congrArg UInt8.toNat first
        rwa [toUInt8_plain (hs u mem_cons_self), toUInt8_plain (ht v mem_cons_self),
          UInt16.toNat_inj] at numbers
      rw [heads, ih (fun w member => hs w (mem_cons_of_mem u member))
        (fun w member => ht w (mem_cons_of_mem v member)) rest]

/-- A plain string in JSON. -/
theorem serialize_plain (js : Runtime) (h : Plain s) :
    serialize js (.string s) = some (.string (utf8 s)) := by
  rw [serialize, escapeText_plain h]

theorem rawFits_plain (h : Plain s) : Json.RawFits (utf8 s) := by
  apply Json.rawFits_plain
  intro c member
  have range := mem_utf8 h member
  simp only [UInt8.le_iff_toNat_le, ne_eq, ← UInt8.toNat_inj, UInt8.toNat_ofNat]
  omega

theorem safeInteger?_int {n : Int} (h : n.natAbs ≤ maxSafeInteger) :
    (Number.int n).safeInteger? = some n := by
  rw [Number.int, Number.safeInteger?, if_pos ⟨rfl, h⟩]
  rfl

theorem numberJson_safe (js : Runtime) {number : Number} {n : Int}
    (safe : number.safeInteger? = some n) (positive : 0 ≤ n) :
    numberJson js number = .number (numeral n.toNat) := by
  have same : n.natAbs = n.toNat := by omega
  unfold numberJson
  rw [safe]
  simp [if_neg (Int.not_lt.mpr positive), same]

/-- The date and the time of day of a time value. -/
theorem seconds_dateText (millis : Int) : Timestamp.seconds (Date.ofDay (millis / 86400000))
      (.ofSeconds (millis % 86400000 / 1000).toNat) = millis / 1000 := by
  have clock : (Timestamp.Clock.ofSeconds (millis % 86400000 / 1000).toNat).seconds =
      (millis % 86400000 / 1000).toNat := Timestamp.Clock.seconds_ofSeconds (by omega)
  rw [Timestamp.seconds, Date.toDay_ofDay, clock]
  omega

/-- The year of a time value has four digits. -/
def FourDigits (millis : Int) : Prop :=
  0 ≤ (Date.ofDay (millis / 86400000)).year ∧ (Date.ofDay (millis / 86400000)).year ≤ 9999

variable {millis : Int}

theorem dateText_fourDigits (year : FourDigits millis) :
    dateText millis = Timestamp.text (Date.ofDay (millis / 86400000))
      (.ofSeconds (millis % 86400000 / 1000).toNat) ++
        46 :: (padded 3 (millis % 1000).toNat ++ [90]) := by
  rw [dateText, yearText, if_pos ⟨year.1, year.2⟩, Timestamp.text, append_assoc]

theorem completeDate_dateText (year : FourDigits millis) :
    completeDate (dateText millis) = some millis := by
  have small : (millis % 1000).toNat ≤ 999 := by omega
  rw [dateText_fourDigits year]
  simp only [completeDate, bind, Timestamp.read_text _ year.1 year.2, bind_some, expect_cons,
    field_padded (show (millis % 1000).toNat < 10 ^ 3 by omega) (Nat.zero_le _) small,
    seconds_dateText, if_true, Option.some.injEq]
  omega

theorem mem_dateText (year : FourDigits millis) {c : UInt8} (member : c ∈ dateText millis) :
    isDigit c = true ∨ c ∈ [45, 84, 58, 46, 90] := by
  rw [dateText_fourDigits year] at member
  simp only [Timestamp.text, Timestamp.afterYear, mem_append, mem_cons, not_mem_nil,
    or_false] at member ⊢
  have digits {width n : Nat} : c ∈ padded width n → isDigit c = true := isDigit_padded c
  tauto

theorem plain_dateText (year : FourDigits millis) : Plain (ascii (dateText millis)) := by
  intro u member
  obtain ⟨c, inside, rfl⟩ := List.mem_map.mp member
  rw [isPlain_iff, UInt8.toNat_toUInt16]
  rcases mem_dateText year inside with digit | other
  · rw [isDigit_iff] at digit
    omega
  · simp only [mem_cons, not_mem_nil, or_false] at other
    rcases other with rfl | rfl | rfl | rfl | rfl <;> decide

theorem isASCII_plain (h : Plain s) : isASCII s = true := by
  simp only [isASCII, List.all_eq_true, decide_eq_true_eq, UInt16.lt_iff_toNat_lt]
  intro u member
  have range := isPlain_iff.mp (h u member)
  exact Nat.lt_of_le_of_lt range.2.1 (by decide)

@[simp] theorem map_ascii (bytes : List UInt8) : (ascii bytes).map UInt16.toUInt8 = bytes := by
  simp [ascii, Function.comp_def]

theorem parseDate_dateText (js : Runtime) (year : FourDigits millis) :
    parseDate js (ascii (dateText millis)) = some millis := by
  rw [parseDate, isASCII_plain (plain_dateText year), if_pos rfl, map_ascii,
    completeDate_dateText year]

end JavaScript
