import WeDecent.Library.Fallible
import WeDecent.Library.GoJson

/-!
# The path of a file transfer

The check that the path of an upload or a download is canonical, relative and portable
(`validateFileTransferPath` in `protocol/file_transfer.go`). `Portable` says what the check is for.
-/

namespace FileRequest

open Bool List Fallible GoText

abbrev Text := List UInt8

def maxFileTransferPathBytes : Nat := 1024

/-- `utf8.ValidString`, from at most `fuel` runes -/
def validRunes : Nat → Text → Bool
  | _, [] => true
  | 0, _ :: _ => false
  | fuel + 1, a :: rest =>
    match GoJson.runeSize (a :: rest) with
    | 0 => false
    | n + 1 => validRunes fuel ((a :: rest).drop (n + 1))

def validString (text : Text) : Bool := validRunes text.length text

/-- A rune of a valid string is a control character: below U+0020, or from U+007F to U+009F. -/
def hasControl : Text → Bool
  | [] => false
  | c :: rest => c < 32 || c == 127 || (c == 0xC2 && rest.head?.any (· ≤ 0x9F)) || hasControl rest

/-- `strings.ToUpper`, as far as the result is ASCII: two other letters have a capital there. -/
def toUpper : Text → Text
  | 0xC4 :: 0xB1 :: rest => 73 :: toUpper rest
  | 0xC5 :: 0xBF :: rest => 83 :: toUpper rest
  | c :: rest => (if 97 ≤ c ∧ c ≤ 122 then c - 32 else c) :: toUpper rest
  | [] => []

/-- The part of a segment before its first dot -/
def baseName (part : Text) : Text := part.takeWhile (· != 46)

def reservedBase (base : Text) : Bool :=
  if [literal "CON", literal "PRN", literal "AUX", literal "NUL"].contains base then true
  else base.length == 4 && (base.take 3 == literal "COM" || base.take 3 == literal "LPT") &&
    (base.drop 3).all fun c => 49 ≤ c && c ≤ 57

def windowsReservedFileName (part : Text) : Bool := reservedBase (toUpper (baseName part))

def nonCanonical (part : Text) : Bool :=
  part == [] || part == [46] || part == [46, 46] || part.getLast? == some 46 ||
    part.getLast? == some 32 || windowsReservedFileName part

def validateFileTransferPath (path : Text) : Except String Unit := do
  failIf (path = [] ∨ maxFileTransferPathBytes < path.length ∨ validString path = false)
    "file transfer path is out of range"
  failIf (path.head? = some 47 ∨ path.getLast? = some 47 ∨
    containsAny path (literal "\\<>:\"|?*") = true)
    "file transfer path must be canonical and relative"
  failIf (hasControl path = true) "file transfer path contains a control character"
  failIf ((path.splitOn 47).any nonCanonical = true)
    "file transfer path contains a non-canonical segment"

def deviceNames : List Text :=
  [literal "CON", literal "PRN", literal "AUX", literal "NUL"] ++
    [literal "COM", literal "LPT"].flatMap fun name =>
      (range 9).map fun n => name ++ [49 + UInt8.ofNat n]

/-- Windows takes the name before the first dot, and ignores spaces at its end. -/
def deviceName (part : Text) : Text :=
  toUpper ((baseName part).reverse.dropWhile (· == 32)).reverse

def segments (path : Text) : List Text := path.splitOnP fun c => c == 47 || c == 92

structure Portable (path : Text) : Prop where
  relative : path.head? ≠ some 47 ∧ path.head? ≠ some 92
  colon : 58 ∉ path
  proper : ∀ part ∈ segments path, part ≠ [] ∧ part ≠ [46] ∧ part ≠ [46, 46]
  ending : ∀ part ∈ segments path, part.getLast? ≠ some 46 ∧ part.getLast? ≠ some 32
  device : ∀ part ∈ segments path, deviceName part ∉ deviceNames

/-- Before its first dot the segment has the name of a device, followed by spaces. -/
def paddedDevice (part : Text) : Bool :=
  (baseName part).getLast? == some 32 && deviceNames.contains (deviceName part)

structure Accepted (path : Text) : Prop where
  relative : path.head? ≠ some 47
  plain : ∀ c ∈ literal "\\<>:\"|?*", c ∉ path
  canonical : ∀ part ∈ path.splitOn 47, nonCanonical part = false

theorem accepted_of_validate {path : Text} (h : validateFileTransferPath path = .ok ()) :
    Accepted path := by
  unfold validateFileTransferPath at h
  obtain ⟨-, h⟩ := failIf_then.mp h
  obtain ⟨canonical, h⟩ := failIf_then.mp h
  obtain ⟨-, h⟩ := failIf_then.mp h
  have parts := failIf_eq_ok.mp h
  refine ⟨fun front => canonical (.inl front), fun c special member => ?_, fun part member => ?_⟩
  · refine canonical (.inr (.inr (List.any_eq_true.mpr ⟨c, member, ?_⟩)))
    exact contains_iff_mem.mpr special
  · by_contra bad
    exact parts (List.any_eq_true.mpr ⟨part, member, eq_true_of_ne_false bad⟩)

theorem segments_eq {path : Text} (accepted : Accepted path) : segments path = path.splitOn 47 := by
  have absent : (92 : UInt8) ∉ path := accepted.plain 92 (by decide)
  unfold segments splitOn
  clear accepted
  induction path with
  | nil => rfl
  | cons c rest ih =>
    have other : c ≠ 92 := fun same => absent (same ▸ mem_cons_self)
    have tail := ih fun member => absent (mem_cons_of_mem c member)
    rw [splitOnP_cons_eq_if_modifyHead, splitOnP_cons_eq_if_modifyHead, tail]
    simp [other]

theorem reservedBase_deviceNames {base : Text} (h : base ∈ deviceNames) :
    reservedBase base = true := by
  have all : ∀ base ∈ deviceNames, reservedBase base = true := by decide +kernel
  exact all base h

/-- Without a space at its end the name is the one that the check looks at. -/
theorem deviceName_unpadded {part : Text} (h : (baseName part).getLast? ≠ some 32) :
    deviceName part = toUpper (baseName part) := by
  unfold deviceName
  rw [← head?_reverse] at h
  cases reversed : (baseName part).reverse with
  | nil => rw [reverse_eq_nil_iff.mp reversed]; rfl
  | cons c =>
    have other : ¬(c == 32) = true := by
      intro same
      rw [reversed, head?_cons, eq_of_beq same] at h
      exact h rfl
    rw [dropWhile_cons, if_neg other, ← reversed, reverse_reverse]

/-- A path that the check accepts is portable unless a segment names a device and pads the name
with spaces. -/
theorem accepted_path_portable (path : Text) (accepted : validateFileTransferPath path = .ok ()) :
    Portable path ↔ (segments path).any paddedDevice = false := by
  have accepted := accepted_of_validate accepted
  have canonical : ∀ part ∈ segments path, nonCanonical part = false :=
    segments_eq accepted ▸ accepted.canonical
  simp only [nonCanonical, or_eq_false_iff, beq_eq_false_iff_ne] at canonical
  constructor
  · intro portable
    refine any_eq_false.mpr fun part member padded => ?_
    obtain ⟨-, listed⟩ := (Bool.and_eq_true _ _).mp padded
    exact portable.device part member (contains_iff_mem.mp listed)
  intro unpadded
  refine ⟨⟨accepted.relative, fun front => ?_⟩, accepted.plain 58 (by decide), ?_, ?_, ?_⟩
  · exact accepted.plain 92 (by decide) (mem_of_mem_head? front)
  · intro part member
    obtain ⟨⟨⟨⟨⟨empty, dot⟩, dots⟩, -⟩, -⟩, -⟩ := canonical part member
    exact ⟨empty, dot, dots⟩
  · intro part member
    obtain ⟨⟨⟨-, dot⟩, space⟩, -⟩ := canonical part member
    exact ⟨dot, space⟩
  · intro part member listed
    -- a name that ends in a space is padded, and every other one is the name the check compares
    by_cases space : (baseName part).getLast? = some 32
    · refine any_eq_false.mp unpadded part member ((Bool.and_eq_true _ _).mpr ⟨?_, ?_⟩)
      · exact beq_iff_eq.mpr space
      · exact contains_iff_mem.mpr listed
    · rw [deviceName_unpadded space] at listed
      have reserved : windowsReservedFileName part = true := reservedBase_deviceNames listed
      rw [(canonical part member).2] at reserved
      cases reserved

theorem release_portable : Portable (literal "releases/a .tar") :=
  (accepted_path_portable _ (ok_of_toOption (by decide +kernel))).mpr (by decide +kernel)

/-- `CON .txt` names the console: the space is part of the name that the check compares. -/
theorem console_accepted :
    validateFileTransferPath (literal "CON .txt") = .ok () ∧ ¬Portable (literal "CON .txt") := by
  refine ⟨ok_of_toOption (by decide +kernel), fun portable => ?_⟩
  have part : literal "CON .txt" ∈ segments (literal "CON .txt") := by decide +kernel
  exact portable.device _ part (by decide +kernel)

end FileRequest
