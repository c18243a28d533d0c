import Mathlib.Data.List.TakeWhile
import WeDecent.Library.Decimal

/-!
# JSON texts

A JSON value with its literals as they stand in the text: a number is the text of
its literal, a string what stands between its quotes, escapes included. `render`
is the text without blanks, `parse` reads any text. `parse_render` says that a
value comes back from its text, at every nesting the parser allows.
-/

inductive Json where
  | null
  | bool (b : Bool)
  | number (literal : List UInt8)
  | string (raw : List UInt8)
  | array (items : List Json)
  | object (members : List (List UInt8 × Json))

namespace Json

open List Option Decimal

def quoted (raw : List UInt8) : List UInt8 := 34 :: (raw ++ [34])

mutual

def render : Json → List UInt8
  | .null => [110, 117, 108, 108]
  | .bool true => [116, 114, 117, 101]
  | .bool false => [102, 97, 108, 115, 101]
  | .number literal => literal
  | .string raw => quoted raw
  | .array [] => [91, 93]
  | .array (item :: more) => 91 :: (render item ++ renderItems more)
  | .object [] => [123, 125]
  | .object ((key, item) :: more) =>
    123 :: (quoted key ++ 58 :: (render item ++ renderMembers more))

/-- The items after the first one. -/
def renderItems : List Json → List UInt8
  | [] => [93]
  | item :: more => 44 :: (render item ++ renderItems more)

def renderMembers : List (List UInt8 × Json) → List UInt8
  | [] => [125]
  | (key, item) :: more => 44 :: (quoted key ++ 58 :: (render item ++ renderMembers more))

end

def isSpace (c : UInt8) : Bool := c == 32 || c == 9 || c == 10 || c == 13

def skipSpace (text : List UInt8) : List UInt8 := text.dropWhile isSpace

def isHex (c : UInt8) : Bool :=
  isDigit c || (65 ≤ c.toNat && c.toNat ≤ 70) || (97 ≤ c.toNat && c.toNat ≤ 102)

/-- The characters that may follow a backslash, apart from `u`. -/
def isEscape (c : UInt8) : Bool := [34, 92, 47, 98, 102, 110, 114, 116].contains c

/-- Where the scanner is in a string. -/
inductive InString where
  | plain
  | escape
  | hex (more : Nat)
  | closed

def InString.next : InString → UInt8 → Option InString
  | .plain, c =>
    if c = 34 then some .closed
    else if c = 92 then some .escape
    else if c < 32 then none
    else some .plain
  | .escape, c => if c = 117 then some (.hex 3) else if isEscape c then some .plain else none
  | .hex 0, c => if isHex c then some .plain else none
  | .hex (more + 1), c => if isHex c then some (.hex more) else none
  | .closed, _ => none

def scanFrom : InString → List UInt8 → Option (List UInt8 × List UInt8)
  | _, [] => none
  | state, c :: rest =>
    match state.next c with
    | none => none
    | some .closed => some ([], rest)
    | some state => (scanFrom state rest).map fun (raw, rest) => (c :: raw, rest)

/-- The string whose opening quote was read, and what follows its closing quote. -/
def scanString (text : List UInt8) : Option (List UInt8 × List UInt8) := scanFrom .plain text

/-- The characters of number literals. -/
def isNumeric (c : UInt8) : Bool := isDigit c || [43, 45, 46, 69, 101].contains c

/-- Digits at the end of a literal, at least one. -/
def digitsOnly (text : List UInt8) : Bool := !text.isEmpty && text.all isDigit

/-- The exponent, or nothing. -/
def validExponent : List UInt8 → Bool
  | [] => true
  | e :: 43 :: rest => (e == 69 || e == 101) && digitsOnly rest
  | e :: 45 :: rest => (e == 69 || e == 101) && digitsOnly rest
  | e :: rest => (e == 69 || e == 101) && digitsOnly rest

/-- The fraction and the exponent. -/
def validFraction : List UInt8 → Bool
  | 46 :: rest => !(rest.takeWhile isDigit).isEmpty && validExponent (rest.dropWhile isDigit)
  | rest => validExponent rest

def validUnsigned : List UInt8 → Bool
  | 48 :: rest => validFraction rest
  | c :: rest => isDigit c && validFraction (rest.dropWhile isDigit)
  | [] => false

def validNumber : List UInt8 → Bool
  | 45 :: rest => validUnsigned rest
  | text => validUnsigned text

def scanNumber (text : List UInt8) : Option (Json × List UInt8) :=
  if validNumber (text.takeWhile isNumeric) then
    some (.number (text.takeWhile isNumeric), text.dropWhile isNumeric)
  else none

/-- A value that is neither an array nor an object. -/
def scanScalar : List UInt8 → Option (Json × List UInt8)
  | 34 :: rest => (scanString rest).map fun (raw, rest) => (.string raw, rest)
  | 110 :: 117 :: 108 :: 108 :: rest => some (.null, rest)
  | 116 :: 114 :: 117 :: 101 :: rest => some (.bool true, rest)
  | 102 :: 97 :: 108 :: 115 :: 101 :: rest => some (.bool false, rest)
  | text => scanNumber text

section
variable (read : List UInt8 → Option (Json × List UInt8))

/-- The items of an array whose bracket was read, from at most `fuel` of them. -/
def elements : Nat → List UInt8 → Option (List Json × List UInt8)
  | 0, _ => none
  | fuel + 1, text => do
    let (item, rest) ← read text
    match skipSpace rest with
    | 44 :: rest => (elements fuel rest).map fun (more, rest) => (item :: more, rest)
    | 93 :: rest => some ([item], rest)
    | _ => none

def key (text : List UInt8) : Option (List UInt8 × List UInt8) := do
  let rest ← expect 34 (skipSpace text)
  let (raw, rest) ← scanString rest
  let rest ← expect 58 (skipSpace rest)
  some (raw, rest)

/-- The members of an object whose brace was read. -/
def entries : Nat → List UInt8 → Option (List (List UInt8 × Json) × List UInt8)
  | 0, _ => none
  | fuel + 1, text => do
    let (raw, rest) ← key text
    let (item, rest) ← read rest
    match skipSpace rest with
    | 44 :: rest => (entries fuel rest).map fun (more, rest) => ((raw, item) :: more, rest)
    | 125 :: rest => some ([(raw, item)], rest)
    | _ => none

end

/-- A value at the front, with at most `depth` arrays and objects around another. -/
def value : Nat → List UInt8 → Option (Json × List UInt8)
  | 0, text => scanScalar (skipSpace text)
  | depth + 1, text =>
    match skipSpace text with
    | 91 :: rest =>
      match expect 93 (skipSpace rest) with
      | some rest => some (.array [], rest)
      | none => (elements (value depth) rest.length rest).map fun (items, rest) =>
        (.array items, rest)
    | 123 :: rest =>
      match expect 125 (skipSpace rest) with
      | some rest => some (.object [], rest)
      | none => (entries (value depth) rest.length rest).map fun (members, rest) =>
        (.object members, rest)
    | text => scanScalar text

/-- The value of a whole text. -/
def parse (depth : Nat) (text : List UInt8) : Option Json :=
  match value depth text with
  | some (item, rest) => if (skipSpace rest).isEmpty then some item else none
  | none => none

/-- What may stand between quotes. -/
def RawFits (raw : List UInt8) : Prop := scanString (raw ++ [34]) = some (raw, [])

instance (raw : List UInt8) : Decidable (RawFits raw) := inferInstanceAs (Decidable (_ = _))

def ScalarFits : Json → Prop
  | .null => True
  | .bool _ => True
  | .number literal => validNumber literal = true ∧ ∀ c ∈ literal, isNumeric c = true
  | .string raw => RawFits raw
  | .array _ => False
  | .object _ => False

def MemberFits (fits : Json → Prop) (member : List UInt8 × Json) : Prop :=
  RawFits member.1 ∧ fits member.2

/-- The values with well-formed literals and at most `depth` arrays and objects around
another. -/
def Fits : Nat → Json → Prop
  | depth + 1, .array items => ∀ item ∈ items, Fits depth item
  | depth + 1, .object members => ∀ member ∈ members, MemberFits (Fits depth) member
  | _, item => ScalarFits item

variable {depth : Nat} {item : Json}

theorem fits_scalar (h : ScalarFits item) : Fits depth item := by
  cases item with
  | array => exact h.elim
  | object => exact h.elim
  | _ => cases depth <;> exact h

theorem fits_array {items : List Json} (h : ∀ item ∈ items, Fits depth item) :
    Fits (depth + 1) (.array items) := h

theorem fits_object {members : List (List UInt8 × Json)}
    (h : ∀ member ∈ members, MemberFits (Fits depth) member) :
    Fits (depth + 1) (.object members) := h

/-- A number literal ends before this text. -/
def Ends (rest : List UInt8) : Prop := ∀ c ∈ rest.head?, isNumeric c = false

variable {rest : List UInt8}

theorem skipSpace_cons {c : UInt8} (h : isSpace c = false) : skipSpace (c :: rest) = c :: rest := by
  rw [skipSpace, dropWhile_cons_of_neg (by rw [h]; exact Bool.false_ne_true)]

/-- What follows a string does not change how it is read. -/
theorem scanFrom_append {state : InString} {text raw : List UInt8} (more : List UInt8)
    (h : scanFrom state text = some (raw, rest)) :
    scanFrom state (text ++ more) = some (raw, rest ++ more) := by
  induction text generalizing state raw with
  | nil => cases h
  | cons c text ih =>
    rw [cons_append, scanFrom]
    rw [scanFrom] at h
    split at h
    · cases h
    · cases h
      rfl
    · obtain ⟨⟨raw', rest'⟩, scanned, pair⟩ := map_eq_some_iff.mp h
      cases pair
      rw [ih scanned]
      rfl

theorem scanString_quoted {raw : List UInt8} (fits : RawFits raw) (rest : List UInt8) :
    scanString (raw ++ 34 :: rest) = some (raw, rest) := by
  have scanned := scanFrom_append rest fits
  rwa [append_assoc] at scanned

/-- Plain characters stand for themselves. -/
theorem rawFits_plain {raw : List UInt8} (plain : ∀ c ∈ raw, 32 ≤ c ∧ c ≠ 34 ∧ c ≠ 92) :
    RawFits raw := by
  induction raw with
  | nil => rfl
  | cons c raw ih =>
    obtain ⟨low, quote, backslash⟩ := plain c mem_cons_self
    have inside : InString.next .plain c = some .plain := by
      rw [InString.next, if_neg quote, if_neg backslash, if_neg (UInt8.not_lt.mpr low)]
    have tail : scanFrom .plain (raw ++ [34]) = some (raw, []) :=
      ih fun d member => plain d (mem_cons_of_mem c member)
    change scanFrom .plain (c :: (raw ++ [34])) = some (c :: raw, [])
    rw [scanFrom, inside]
    dsimp only
    rw [tail]
    rfl

theorem takeWhile_ends {literal : List UInt8} (numeric : ∀ c ∈ literal, isNumeric c = true)
    (ends : Ends rest) :
    (literal ++ rest).takeWhile isNumeric = literal ∧
      (literal ++ rest).dropWhile isNumeric = rest := by
  rw [takeWhile_append_of_pos numeric, dropWhile_append_of_pos numeric]
  cases rest with
  | nil => simp
  | cons c =>
    have stop : ¬ isNumeric c = true := Bool.eq_false_iff.mp (ends c rfl)
    rw [takeWhile_cons_of_neg stop, dropWhile_cons_of_neg stop]
    simp

theorem scanScalar_numeric {c : UInt8} (numeric : isNumeric c = true) :
    scanScalar (c :: rest) = scanNumber (c :: rest) := by
  unfold scanScalar
  split
  case h_5 => rfl
  all_goals
    rename_i heq
    cases heq
    exact absurd numeric (by decide)

theorem validNumber_cons {literal : List UInt8} (valid : validNumber literal = true) :
    ∃ c rest, literal = c :: rest := by
  cases literal with
  | nil => cases valid
  | cons c rest => exact ⟨c, rest, rfl⟩

theorem scanScalar_render (fits : ScalarFits item) (ends : Ends rest) :
    scanScalar (render item ++ rest) = some (item, rest) := by
  cases item with
  | null => rfl
  | bool b => cases b <;> rfl
  | number literal =>
    obtain ⟨valid, numeric⟩ := fits
    obtain ⟨front, back⟩ := takeWhile_ends numeric ends
    have number : scanNumber (literal ++ rest) = some (.number literal, rest) := by
      rw [scanNumber, front, back, if_pos valid]
    obtain ⟨c, tail, rfl⟩ := validNumber_cons valid
    rw [← number]
    exact scanScalar_numeric (numeric c mem_cons_self)
  | string =>
    have scanned := scanString_quoted fits rest
    simp only [render, quoted, cons_append, append_assoc, nil_append, scanScalar]
    rw [scanned]
    rfl
  | _ => exact fits.elim

/-- How scalars begin. -/
def starts (c : UInt8) : Bool := !([32, 9, 10, 13, 91, 93, 123, 125].contains c)

theorem starts_numeric {c : UInt8} (numeric : isNumeric c = true) : starts c = true := by
  by_contra h
  simp only [starts, Bool.not_eq_true, Bool.not_eq_false', contains_iff_mem, mem_cons,
    not_mem_nil, or_false] at h
  rcases h with rfl | rfl | rfl | rfl | rfl | rfl | rfl | rfl <;>
    exact absurd numeric (by decide)

theorem isSpace_starts {c : UInt8} (h : starts c = true) : isSpace c = false := by
  by_contra space
  rw [Bool.not_eq_false, isSpace] at space
  simp only [Bool.or_eq_true, beq_iff_eq] at space
  rcases space with ((rfl | rfl) | rfl) | rfl <;> exact absurd h (by decide)

theorem scalar_starts (fits : ScalarFits item) :
    ∃ c rest, render item = c :: rest ∧ starts c = true := by
  cases item with
  | null => exact ⟨110, _, by rw [render], by decide⟩
  | bool b =>
    cases b with
    | true => exact ⟨116, _, by rw [render], by decide⟩
    | false => exact ⟨102, _, by rw [render], by decide⟩
  | number =>
    obtain ⟨c, rest, rfl⟩ := validNumber_cons fits.1
    exact ⟨c, rest, by rw [render], starts_numeric (fits.2 c mem_cons_self)⟩
  | string => exact ⟨34, _, by rw [render, quoted], by decide⟩
  | _ => exact fits.elim

theorem value_starts {c : UInt8} (h : starts c = true) :
    value depth (c :: rest) = scanScalar (c :: rest) := by
  have visible : skipSpace (c :: rest) = c :: rest := skipSpace_cons (isSpace_starts h)
  cases depth with
  | zero => rw [value, visible]
  | succ depth =>
    rw [value, visible]
    split
    · rename_i heq
      cases heq
      exact absurd h (by decide)
    · rename_i heq
      cases heq
      exact absurd h (by decide)
    · rfl

theorem value_scalar (fits : ScalarFits item) (ends : Ends rest) :
    value depth (render item ++ rest) = some (item, rest) := by
  obtain ⟨c, tail, shape, begins⟩ := scalar_starts fits
  rw [← scanScalar_render fits ends, shape]
  exact value_starts begins

/-- `read` reads every value that fits back. -/
def Reads (read : List UInt8 → Option (Json × List UInt8)) (fits : Json → Prop) : Prop :=
  ∀ item rest, fits item → Ends rest → read (render item ++ rest) = some (item, rest)

theorem ends_items (items : List Json) (rest : List UInt8) : Ends (renderItems items ++ rest) := by
  cases items <;> · rw [renderItems]; rintro c ⟨⟩; decide

theorem ends_members (members : List (List UInt8 × Json)) (rest : List UInt8) :
    Ends (renderMembers members ++ rest) := by
  cases members <;> · rw [renderMembers]; rintro c ⟨⟩; decide

section
variable {read : List UInt8 → Option (Json × List UInt8)} {fits : Json → Prop}

theorem elements_render (reads : Reads read fits) {item : Json} {more : List Json}
    (first : fits item) (others : ∀ item ∈ more, fits item) {fuel : Nat}
    (enough : more.length < fuel) (rest : List UInt8) :
    elements read fuel (render item ++ (renderItems more ++ rest)) = some (item :: more, rest) := by
  induction more generalizing item fuel with
  | nil =>
    obtain ⟨fuel, rfl⟩ : ∃ n, fuel = n + 1 := ⟨fuel - 1, by omega⟩
    rw [elements, reads item _ first (ends_items [] rest)]
    rfl
  | cons next more ih =>
    obtain ⟨fuel, rfl⟩ : ∃ n, fuel = n + 1 := ⟨fuel - 1, by omega⟩
    rw [elements, reads item _ first (ends_items (next :: more) rest)]
    have later := ih (others next mem_cons_self)
      (fun item member => others item (mem_cons_of_mem next member))
      (Nat.lt_of_succ_lt_succ enough)
    simp [renderItems, bind, skipSpace_cons (show isSpace 44 = false by decide), later]

theorem key_render {raw : List UInt8} (fits : RawFits raw) (rest : List UInt8) :
    key (quoted raw ++ 58 :: rest) = some (raw, rest) := by
  have scanned := scanString_quoted fits (58 :: rest)
  simp [key, quoted, bind, skipSpace_cons (show isSpace 34 = false by decide), expect_cons,
    scanned, skipSpace_cons (show isSpace 58 = false by decide)]

theorem entries_render (reads : Reads read fits) {member : List UInt8 × Json}
    {more : List (List UInt8 × Json)} (first : MemberFits fits member)
    (others : ∀ m ∈ more, MemberFits fits m) {fuel : Nat} (enough : more.length < fuel)
    (rest : List UInt8) :
    entries read fuel (quoted member.1 ++ 58 :: (render member.2 ++ (renderMembers more ++ rest))) =
      some (member :: more, rest) := by
  induction more generalizing member fuel with
  | nil =>
    obtain ⟨fuel, rfl⟩ : ∃ n, fuel = n + 1 := ⟨fuel - 1, by omega⟩
    rw [entries, key_render first.1]
    simp only [bind, bind_some]
    rw [reads member.2 _ first.2 (ends_members [] rest)]
    rfl
  | cons next more ih =>
    obtain ⟨fuel, rfl⟩ : ∃ n, fuel = n + 1 := ⟨fuel - 1, by omega⟩
    rw [entries, key_render first.1]
    simp only [bind, bind_some]
    rw [reads member.2 _ first.2 (ends_members (next :: more) rest)]
    have later := ih (others next mem_cons_self)
      (fun m inside => others m (mem_cons_of_mem next inside))
      (Nat.lt_of_succ_lt_succ enough)
    simp [renderMembers, skipSpace_cons (show isSpace 44 = false by decide), later]

end

theorem renderItems_length (items : List Json) : items.length < (renderItems items).length := by
  induction items with
  | nil => decide
  | cons item more ih =>
    simp only [renderItems, length_cons, length_append]
    omega

theorem renderMembers_length (members : List (List UInt8 × Json)) :
    members.length < (renderMembers members).length := by
  induction members with
  | nil => decide
  | cons member more ih =>
    simp only [renderMembers, length_cons, length_append]
    omega

/-- An array that holds something does not close at once. -/
theorem expect_render (fits : Fits depth item) :
    expect 93 (skipSpace (render item ++ rest)) = none := by
  have scalar (h : ScalarFits item) :
      ∃ c tail, render item = c :: tail ∧ isSpace c = false ∧ c ≠ 93 := by
    obtain ⟨c, tail, shape, begins⟩ := scalar_starts h
    refine ⟨c, tail, shape, isSpace_starts begins, ?_⟩
    rintro rfl
    exact absurd begins (by decide)
  have other : ∃ c tail, render item = c :: tail ∧ isSpace c = false ∧ c ≠ 93 := by
    cases item with
    | array items => cases items <;> exact ⟨91, _, by rw [render], by decide, by decide⟩
    | object members => cases members <;> exact ⟨123, _, by rw [render], by decide, by decide⟩
    | _ => exact scalar (by cases depth <;> exact fits)
  obtain ⟨c, tail, shape, visible, different⟩ := other
  rw [shape, cons_append, skipSpace_cons visible, expect, if_neg different]

theorem value_render (depth : Nat) : Reads (value depth) (Fits depth) := by
  induction depth with
  | zero =>
    intro item rest fits ends
    exact value_scalar (by cases item <;> exact fits) ends
  | succ depth ih =>
    intro item rest fits ends
    cases item with
    | array items =>
      cases items with
      | nil => rfl
      | cons item more =>
        have first := fits item mem_cons_self
        have enough : more.length < (render item ++ (renderItems more ++ rest)).length := by
          have := renderItems_length more
          simp only [length_append]
          omega
        have items := elements_render ih first
          (fun i member => fits i (mem_cons_of_mem item member)) enough rest
        simp only [render, cons_append, append_assoc, value,
          skipSpace_cons (show isSpace 91 = false by decide), expect_render first, items,
          map_some]
    | object members =>
      cases members with
      | nil => rfl
      | cons member more =>
        have first := fits member mem_cons_self
        have enough : more.length < (quoted member.1 ++
            58 :: (render member.2 ++ (renderMembers more ++ rest))).length := by
          have := renderMembers_length more
          simp only [length_append, length_cons]
          omega
        have members := entries_render ih first
          (fun m inside => fits m (mem_cons_of_mem member inside)) enough rest
        have quote (tail : List UInt8) :
            expect 125 (skipSpace (quoted member.1 ++ tail)) = none := rfl
        simp only [render, cons_append, append_assoc, value,
          skipSpace_cons (show isSpace 123 = false by decide), quote, members, map_some]
    | _ => exact value_scalar fits ends

theorem parse_render (fits : Fits depth item) : parse depth (render item) = some item := by
  have whole := value_render depth item [] fits nofun
  rw [append_nil] at whole
  rw [parse, whole]
  rfl

theorem validUnsigned_numeral (n : Nat) : validUnsigned (numeral n) = true := by
  obtain ⟨d, rest, shape, small, zero⟩ := numeral_head n
  have digits := isDigit_numeral n
  rw [shape] at digits ⊢
  unfold validUnsigned
  split
  · rename_i heq
    obtain ⟨hd, rfl⟩ := List.cons.inj heq
    have leading : (digit d).toNat = 48 := by rw [hd]; rfl
    rw [digit_toNat small] at leading
    rw [zero (by omega)]
    rfl
  · rename_i heq
    obtain ⟨rfl, rfl⟩ := List.cons.inj heq
    have all : rest.dropWhile isDigit = [] :=
      dropWhile_eq_nil_iff.mpr fun c member => digits c (mem_cons_of_mem _ member)
    rw [digits _ mem_cons_self, all]
    rfl
  · rename_i heq
    cases heq

theorem validNumber_numeral (n : Nat) : validNumber (numeral n) = true := by
  have unsigned := validUnsigned_numeral n
  obtain ⟨d, rest, shape, small, -⟩ := numeral_head n
  rw [shape] at unsigned ⊢
  unfold validNumber
  split
  · rename_i heq
    have minus : (digit d).toNat = 45 := by rw [(List.cons.inj heq).1]; rfl
    rw [digit_toNat small] at minus
    omega
  · exact unsigned

theorem numeral_fits (n : Nat) : ScalarFits (.number (numeral n)) := by
  refine ⟨validNumber_numeral n, ?_⟩
  intro c member
  rw [isNumeric, isDigit_numeral n c member, Bool.true_or]

theorem integer_fits (n : Int) : ScalarFits (.number (integer n)) := by
  obtain ⟨valid, numeric⟩ := numeral_fits n.natAbs
  unfold integer
  split
  · refine ⟨validUnsigned_numeral n.natAbs, fun c member => ?_⟩
    rcases mem_cons.mp member with rfl | digit
    · rfl
    · exact numeric c digit
  · exact ⟨valid, numeric⟩

end Json
