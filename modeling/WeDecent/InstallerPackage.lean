import Mathlib.Algebra.Group.Int.Defs
import Mathlib.Algebra.Group.Nat.Defs
import Mathlib.Data.List.Nodup
import Mathlib.Data.List.Perm.Subperm
import Mathlib.Logic.Function.Basic
import WeDecent.Library.Fallible
import WeDecent.Library.GoJson
import WeDecent.Library.Weights

/-!
# The verified installer package

`WithVerifiedInstallerPackage` (`updateinfo/package_verify.go`) and `VerifyStagedInstaller`
(`updateinfo/installer.go`). SHA-256, the ZIP reader, `filepath.Base` and the Authenticode policy
are parameters. A path is the list of its parts, and the files are what is at each path.

The staged file is looked up by its path three times, and another process may put a different file
there in between.
-/

namespace InstallerPackage

open List Fallible GoText

abbrev Bytes := List UInt8
abbrev Path := List Bytes
abbrev Files := Path → Option Bytes

def maxInstallerExpandedBytes : Int := 1073741824
def maxInstallerArchiveBytes : Int := 536870912

def installerBinaries : List Bytes :=
  ["wd.exe", "wd-agent.exe", "wd-routerctl.exe", "wd-core.exe", "wd-ui.exe"].map literal

def installerScripts : List Bytes :=
  ["Install-WeDecent.ps1", "Uninstall-WeDecent.ps1", "Test-WeDecentInstall.ps1"].map literal

def installerPayloadFiles : List Bytes :=
  installerBinaries ++ ["VERSION.txt", "SHA256SUMS.txt"].map literal ++ installerScripts ++
    [literal "README.md"]

def installerFiles : List Bytes := installerPayloadFiles ++ [literal "PACKAGE_SHA256SUMS.txt"]

structure Member where
  name : Bytes
  isDir : Bool
  uncompressedSize64 : UInt64
  /-- What reading the member gives; `none` where opening or reading it fails -/
  content : Option Bytes

structure System where
  base : Bytes → Bytes
  sha256 : Bytes → Bytes
  openZip : Bytes → Option (List Member)
  /-- The Authenticode policy, for a file with this content -/
  trusts : Bytes → Bool
  /-- Whether the context has ended when it is asked for the `n`th time -/
  cancelled : Nat → Bool

def int64 (n : Int) : Int := n.bmod (2 ^ 64)
def uint64 (n : Int) : Nat := (n % 2 ^ 64).toNat

def hexText (bytes : Bytes) : Bytes :=
  bytes.flatMap fun b => [GoJson.hexDigit (b.toNat / 16), GoJson.hexDigit (b.toNat % 16)]

def isLowerHex (c : UInt8) : Bool := (48 ≤ c && c ≤ 57) || (97 ≤ c && c ≤ 102)

theorem contains_iff (name : Bytes) (names : List Bytes) :
    names.contains name = true ↔ name ∈ names := List.contains_iff_mem

local instance (name : Bytes) (names : List Bytes) : Decidable (name ∈ names) :=
  decidable_of_iff _ (contains_iff name names)

def extractInstallerMember (m : Member) (dst : Path) (files : Files) : Except String Files := do
  let some data := m.content | .error "open archive member"
  failIf ((files dst).isSome = true) "create extracted member"
  let size := int64 m.uncompressedSize64.toNat
  let written := data.take (int64 (size + 1)).toNat
  failIf (written.length ≠ size) "archive member length mismatch"
  return Function.update files dst (some written)

structure Extraction where
  files : Files
  seen : List Bytes
  expanded : Int

def extractMember (sys : System) (dst : Path) (x : Extraction) (m : Member) :
    Except String Extraction := do
  failIf (sys.cancelled x.seen.length = true) "context canceled"
  failIf (m.name = [] ∨ sys.base m.name ≠ m.name ∨ containsAny m.name [47, 92] = true ∨
    m.isDir = true) "invalid archive member path"
  failIf (m.name ∉ installerFiles) "unexpected archive member"
  failIf (m.name ∈ x.seen) "duplicate archive member"
  let size := m.uncompressedSize64.toNat
  failIf (size = 0 ∨ uint64 maxInstallerExpandedBytes < size) "invalid archive member size"
  failIf (uint64 (maxInstallerExpandedBytes - x.expanded) < size)
    "expanded package exceeds 1073741824 bytes"
  let files ← extractInstallerMember m (dst ++ [m.name]) x.files
  return ⟨files, m.name :: x.seen, int64 (x.expanded + int64 size)⟩

def extractInstallerPackage (sys : System) (dst : Path) (members : List Member) (files : Files) :
    Except String Extraction := do
  failIf (members.length ≠ installerFiles.length) "archive must contain exactly 12 files"
  let x ← members.foldlM (extractMember sys dst) ⟨files, [], 0⟩
  failIf (x.seen.length ≠ installerFiles.length) "archive is missing required files"
  return x

def checkLine (sys : System) (dir : Path) (files : Files) (expected seen : List Bytes)
    (line : Bytes) : Except String (List Bytes) := do
  failIf (line.length < 67 ∨ (line.drop 64).take 2 ≠ [32, 32]) "malformed checksum manifest"
  let digestText := line.take 64
  let name := line.drop 66
  -- `ToLower` and `hex.DecodeString` let exactly these 64 characters pass
  failIf (digestText.all isLowerHex = false ∨ name.length = 0 ∨ sys.base name ≠ name)
    "malformed checksum manifest"
  failIf (name ∉ expected) "checksum manifest contains unexpected file"
  failIf (name ∈ seen) "checksum manifest contains duplicate file"
  let some data := files (dir ++ [name]) | .error "package member is not a regular file"
  failIf (hexText (sys.sha256 data) ≠ digestText) "checksum mismatch"
  return name :: seen

/-- `strings.Split(strings.TrimSuffix(text, "\n"), "\n")` -/
def manifestLines (text : Bytes) : List Bytes :=
  (if text.getLast? = some 10 then text.dropLast else text).splitOn 10

def verifyChecksumManifest (sys : System) (dir : Path) (files : Files) (manifest : Bytes)
    (expected : List Bytes) : Except String Unit := do
  let some text := files (dir ++ [manifest]) | .error "read checksum manifest"
  let lines := manifestLines text
  failIf (lines.length ≠ expected.length) "checksum manifest entry count is invalid"
  let seen ← lines.foldlM (checkLine sys dir files expected) []
  failIf (seen.length ≠ expected.length) "checksum manifest does not cover expected files"

structure Listed (expected names seen : List Bytes) : Prop where
  seen : seen = names.reverse
  distinct : names.Nodup
  known : names ⊆ expected

theorem Listed.push {expected names seen : List Bytes} {name : Bytes}
    (listed : Listed expected names seen) (member : name ∈ expected) (fresh : name ∉ seen) :
    Listed expected (names ++ [name]) (name :: seen) := by
  rw [listed.seen, mem_reverse] at fresh
  refine ⟨by rw [listed.seen, reverse_append]; rfl, ?_, ?_⟩
  · rw [← concat_eq_append, nodup_concat]
    exact ⟨fresh, listed.distinct⟩
  · exact append_subset.mpr ⟨listed.known, forall_mem_singleton.mpr member⟩

/-- Different names that are all expected, and as many as there are, are the expected ones. -/
theorem Listed.perm {expected names seen : List Bytes} (listed : Listed expected names seen)
    (count : names.length = expected.length) : names.Perm expected :=
  (subperm_of_subset listed.distinct listed.known).perm_of_length_le (Nat.le_of_eq count.symm)

section Package

variable {sys : System} {dst : Path} {files : Files} {expected : List Bytes}

structure Extracted (dst : Path) (before : Files) (done : List Member) (x : Extraction) : Prop where
  listed : Listed installerFiles (done.map Member.name) x.seen
  expanded : x.expanded = Weights.weight (fun m => m.uncompressedSize64.toNat) done
  bounded : x.expanded ≤ maxInstallerExpandedBytes
  written : ∀ m ∈ done, x.files (dst ++ [m.name]) = m.content ∧ m.content.isSome = true
  others : ∀ p, (∀ m ∈ done, p ≠ dst ++ [m.name]) → x.files p = before p

theorem int64_eq {n : Int} (low : 0 ≤ n) (high : n ≤ 2147483648) : int64 n = n :=
  Int.bmod_eq_of_le (by omega) (by omega)

theorem member_written {m : Member} {dst : Path} {after : Files}
    (small : m.uncompressedSize64.toNat ≤ 1073741824)
    (h : extractInstallerMember m dst files = .ok after) :
    ∃ data, m.content = some data ∧ after = Function.update files dst (some data) := by
  unfold extractInstallerMember at h
  split at h
  · rename_i data found
    simp only [bind_eq_ok, failIf_eq_ok] at h
    obtain ⟨-, -, -, size, same⟩ := h
    have plain : int64 m.uncompressedSize64.toNat = m.uncompressedSize64.toNat :=
      int64_eq (by omega) (by omega)
    rw [plain] at size same
    rw [int64_eq (by omega) (by omega), length_take] at size
    rw [int64_eq (by omega) (by omega)] at same
    cases same
    rw [take_of_length_le (by omega)]
    exact ⟨data, found, rfl⟩
  · cases h

theorem extracted_step {before : Files} {done : List Member} {x y : Extraction} {m : Member}
    (inv : Extracted dst before done x) (h : extractMember sys dst x m = .ok y) :
    Extracted dst before (done ++ [m]) y := by
  simp only [extractMember, bind_eq_ok, failIf_eq_ok, not_or, Decidable.not_not] at h
  obtain ⟨-, -, -, -, -, member, -, fresh, -, ⟨-, small⟩, -, room, after, written, same⟩ := h
  cases same
  have low : 0 ≤ x.expanded := inv.expanded ▸ Int.natCast_nonneg _
  have high := inv.bounded
  unfold uint64 maxInstallerExpandedBytes at small room
  unfold maxInstallerExpandedBytes at high
  obtain ⟨data, content, rfl⟩ := member_written (by omega) written
  have total : int64 (x.expanded + int64 m.uncompressedSize64.toNat) =
      x.expanded + m.uncompressedSize64.toNat := by
    rw [int64_eq (n := m.uncompressedSize64.toNat) (by omega) (by omega)]
    exact int64_eq (by omega) (by omega)
  have new : ∀ m' ∈ done, m'.name ≠ m.name := by
    intro m' earlier same
    rw [inv.listed.seen, ← same, mem_reverse] at fresh
    exact fresh (List.mem_map_of_mem earlier)
  refine ⟨?_, ?_, ?_, ?_, ?_⟩
  · rw [map_append]
    exact inv.listed.push member fresh
  · rw [Weights.weight_append, Int.natCast_add, ← inv.expanded]
    exact total
  · change int64 (x.expanded + int64 m.uncompressedSize64.toNat) ≤ 1073741824
    omega
  · intro m' member'
    rcases mem_append.mp member' with earlier | last
    · obtain ⟨there, some⟩ := inv.written m' earlier
      exact ⟨(Function.update_of_ne (by simpa using new m' earlier) _ _).trans there, some⟩
    · cases mem_singleton.mp last
      exact ⟨(Function.update_self _ _ _).trans content.symm, by rw [content]; rfl⟩
  · intro p apart
    refine (Function.update_of_ne (apart m (by simp)) _ _).trans ?_
    exact inv.others p fun m' earlier => apart m' (by simp [earlier])

theorem extracted {before : Files} {members : List Member} {x : Extraction}
    (h : extractInstallerPackage sys dst members before = .ok x) :
    Extracted dst before members x ∧ (members.map Member.name).Perm installerFiles := by
  simp only [extractInstallerPackage, bind_eq_ok, failIf_eq_ok, Decidable.not_not] at h
  obtain ⟨-, count, y, run, -, -, same⟩ := h
  cases same
  have start : Extracted dst before [] ⟨before, [], 0⟩ :=
    ⟨⟨rfl, nodup_nil, nil_subset _⟩, rfl, Int.natCast_nonneg 1073741824,
      forall_mem_nil _, fun _ _ => rfl⟩
  have inv := foldlM_ok (Extracted dst before) start (fun _ _ _ _ => extracted_step) run
  exact ⟨inv, inv.listed.perm ((length_map _).trans count)⟩

/-- One line for each expected file, with the digest of what is there -/
def Covers (sys : System) (dir : Path) (files : Files) (manifest : Bytes)
    (expected : List Bytes) : Prop :=
  ∃ text, files (dir ++ [manifest]) = some text ∧ ∀ name ∈ expected,
    ((manifestLines text).map (drop 66)).count name = 1 ∧
      ∃ line ∈ manifestLines text, line.drop 66 = name ∧
        ∃ data, files (dir ++ [name]) = some data ∧ line.take 64 = hexText (sys.sha256 data)

structure Checked (sys : System) (dir : Path) (files : Files) (expected done seen : List Bytes) :
    Prop where
  listed : Listed expected (done.map (drop 66)) seen
  digests : ∀ line ∈ done, ∃ data, files (dir ++ [line.drop 66]) = some data ∧
    line.take 64 = hexText (sys.sha256 data)

theorem checked_step {done seen seen' : List Bytes} {line : Bytes}
    (inv : Checked sys dst files expected done seen)
    (h : checkLine sys dst files expected seen line = .ok seen') :
    Checked sys dst files expected (done ++ [line]) seen' := by
  simp only [checkLine, bind_eq_ok, failIf_eq_ok, Decidable.not_not] at h
  obtain ⟨-, -, -, -, -, member, -, fresh, h⟩ := h
  split at h
  · rename_i data found
    simp only [bind_eq_ok, failIf_eq_ok, Decidable.not_not] at h
    obtain ⟨-, digest, same⟩ := h
    cases same
    refine ⟨?_, forall_mem_append.mpr ⟨inv.digests, ?_⟩⟩
    · rw [map_append]
      exact inv.listed.push member fresh
    · exact forall_mem_singleton.mpr ⟨data, found, digest.symm⟩
  · cases h

theorem covers_of_verify {manifest : Bytes}
    (h : verifyChecksumManifest sys dst files manifest expected = .ok ()) :
    Covers sys dst files manifest expected := by
  unfold verifyChecksumManifest at h
  split at h
  · rename_i text found
    simp only [bind_eq_ok, failIf_eq_ok, Decidable.not_not] at h
    obtain ⟨-, count, seen, run, -⟩ := h
    have inv := foldlM_ok (Checked sys dst files expected)
      ⟨⟨rfl, nodup_nil, nil_subset _⟩, forall_mem_nil _⟩
      (fun _ _ _ _ => checked_step) run
    have all := inv.listed.perm ((length_map _).trans count)
    refine ⟨text, found, fun name member => ?_⟩
    have listed := all.mem_iff.mpr member
    refine ⟨count_eq_one_of_mem inv.listed.distinct listed, ?_⟩
    obtain ⟨line, inside, rfl⟩ := List.mem_map.mp listed
    exact ⟨line, inside, rfl, inv.digests line inside⟩
  · cases h

end Package

/-- What a successful extraction into an empty directory and both checksum manifests give -/
theorem package_complete (sys : System) (dst : Path) (members : List Member) (before : Files)
    (x : Extraction) (empty : ∀ p, dst <+: p → before p = none)
    (unpacked : extractInstallerPackage sys dst members before = .ok x)
    (binaries : verifyChecksumManifest sys dst x.files (literal "SHA256SUMS.txt")
      installerBinaries = .ok ())
    (payload : verifyChecksumManifest sys dst x.files (literal "PACKAGE_SHA256SUMS.txt")
      installerPayloadFiles = .ok ()) :
    (members.map Member.name).Perm installerFiles ∧ installerFiles.Nodup ∧
      (∀ m ∈ members, x.files (dst ++ [m.name]) = m.content) ∧
      (∀ p, dst <+: p → ((x.files p).isSome = true ↔ ∃ name ∈ installerFiles, p = dst ++ [name])) ∧
      (∀ p, ¬ dst <+: p → x.files p = before p) ∧
      x.expanded = Weights.weight (fun m => m.uncompressedSize64.toNat) members ∧
      x.expanded ≤ maxInstallerExpandedBytes ∧
      Covers sys dst x.files (literal "SHA256SUMS.txt") installerBinaries ∧
      Covers sys dst x.files (literal "PACKAGE_SHA256SUMS.txt") installerPayloadFiles := by
  obtain ⟨inv, names⟩ := extracted unpacked
  refine ⟨names, names.nodup_iff.mp inv.listed.distinct, fun m member => (inv.written m member).1,
    fun p inside => ⟨fun some => ?_, ?_⟩, fun p outside => ?_, inv.expanded, inv.bounded,
    covers_of_verify binaries, covers_of_verify payload⟩
  · by_contra unknown
    rw [inv.others p, empty p inside] at some
    · cases some
    · intro m member same
      exact unknown ⟨m.name, names.mem_iff.mp (List.mem_map_of_mem member), same⟩
  · rintro ⟨name, member, rfl⟩
    obtain ⟨m, found, rfl⟩ := List.mem_map.mp (names.mem_iff.mpr member)
    rw [(inv.written m found).1]
    exact (inv.written m found).2
  · refine inv.others p ?_
    rintro m - rfl
    exact outside (prefix_append _ _)

/-- A file of the staging directory; `id` is what `os.SameFile` compares. -/
structure Node where
  id : Nat
  symlink : Bool
  regular : Bool
  data : Bytes

/-- The three times at which the staged path is looked up -/
inductive Lookup where
  | lstat
  | open_
  | openZip

structure Manifest where
  version : Bytes
  installerSHA256 : Bytes

def installerSizeLimit (limit : Int) : Except String Int :=
  if limit < 0 then .error "maximum installer size must not be negative"
  else if limit = 0 then .ok maxInstallerArchiveBytes
  else if maxInstallerArchiveBytes < limit then .error "maximum installer size exceeds hard limit"
  else .ok limit

/-- The size of the file that was verified -/
def verifyStagedInstaller (sys : System) (manifest : Manifest) (maxBytes : Int)
    (staged : Lookup → Option Node) : Except String Nat := do
  let limit ← installerSizeLimit maxBytes
  let some info := staged .lstat | .error "stat staged installer"
  failIf (info.symlink = true ∨ info.regular = false)
    "staged installer must be a regular non-symlink file"
  failIf (info.data.length = 0 ∨ limit < info.data.length) "staged installer size is invalid"
  let some file := staged .open_ | .error "open staged installer"
  failIf (file.regular = false ∨ info.id ≠ file.id) "staged installer path changed before open"
  failIf (limit < file.data.length) "installer exceeds the limit"
  failIf (file.data.length ≠ info.data.length) "staged installer changed while reading"
  failIf (hexText (sys.sha256 file.data) ≠ manifest.installerSHA256) "installer SHA-256 mismatch"
  return file.data.length

/-- The lines of `bufio.Scanner`, which stops at a line that does not fit into its buffer -/
def scanLines (text : Bytes) : Option (List Bytes) :=
  let lines := manifestLines text
  if lines.any fun line => decide (65536 ≤ line.length) then none
  else some (lines.map fun line => if line.getLast? = some 13 then line.dropLast else line)

def verifyInstallerVersion (files : Files) (dir : Path) (version : Bytes) : Except String Unit := do
  let some text := files (dir ++ [literal "VERSION.txt"]) | .error "read VERSION.txt"
  let some lines := scanLines text | .error "VERSION.txt version entry is invalid"
  let entries := lines.filter fun line => (literal "version=").isPrefixOf line
  let plain := if version.head? = some 118 then version.tail else version
  failIf (entries.any (· ≠ literal "version=" ++ plain) = true)
    "VERSION.txt does not match manifest"
  failIf (entries.length ≠ 1) "VERSION.txt version entry is invalid"

/-- What the consumer is called with, and the size that was verified. The manifest is valid, and
`tmp` is the new private directory. -/
def withVerifiedInstallerPackage (sys : System) (manifest : Manifest) (maxBytes : Int)
    (staged : Lookup → Option Node) (tmp : Path) (files : Files) :
    Except String (Nat × Extraction) := do
  let size ← verifyStagedInstaller sys manifest maxBytes staged
  let some archive := staged .openZip | .error "open ZIP"
  let some members := sys.openZip archive.data | .error "open ZIP"
  let x ← extractInstallerPackage sys tmp members files
  verifyInstallerVersion x.files tmp manifest.version
  verifyChecksumManifest sys tmp x.files (literal "SHA256SUMS.txt") installerBinaries
  verifyChecksumManifest sys tmp x.files (literal "PACKAGE_SHA256SUMS.txt") installerPayloadFiles
  failIf ((installerBinaries ++ installerScripts).any
    (fun name => !((x.files (tmp ++ [name])).any sys.trusts)) = true) "Authenticode policy rejected"
  return (size, x)

theorem consumed_parts {sys : System} {manifest : Manifest} {maxBytes : Int}
    {staged : Lookup → Option Node} {tmp : Path} {files : Files} {size : Nat} {x : Extraction}
    (called : withVerifiedInstallerPackage sys manifest maxBytes staged tmp files = .ok (size, x)) :
    ∃ node members, staged .openZip = some node ∧ sys.openZip node.data = some members ∧
      verifyStagedInstaller sys manifest maxBytes staged = .ok size ∧
      extractInstallerPackage sys tmp members files = .ok x ∧
      verifyChecksumManifest sys tmp x.files (literal "SHA256SUMS.txt") installerBinaries = .ok () ∧
      verifyChecksumManifest sys tmp x.files (literal "PACKAGE_SHA256SUMS.txt")
        installerPayloadFiles = .ok () := by
  unfold withVerifiedInstallerPackage at called
  obtain ⟨size', verified, called⟩ := bind_eq_ok.mp called
  split at called
  · rename_i node found
    split at called
    · rename_i members opened
      simp only [bind_eq_ok] at called
      obtain ⟨x', unpacked, -, -, ⟨⟩, binaries, ⟨⟩, payload, -, -, same⟩ := called
      cases same
      exact ⟨node, members, found, opened, verified, unpacked, binaries, payload⟩
    · cases called
  · cases called

/-- The file that was opened for the verification, and what was compared then -/
theorem verified_parts {sys : System} {manifest : Manifest} {maxBytes : Int}
    {staged : Lookup → Option Node} {size : Nat}
    (verified : verifyStagedInstaller sys manifest maxBytes staged = .ok size) :
    ∃ file, staged .open_ = some file ∧ hexText (sys.sha256 file.data) = manifest.installerSHA256 ∧
      file.data.length = size := by
  unfold verifyStagedInstaller at verified
  obtain ⟨limit, -, verified⟩ := bind_eq_ok.mp verified
  split at verified
  · simp only [bind_eq_ok] at verified
    obtain ⟨-, -, -, -, verified⟩ := verified
    split at verified
    · rename_i file found
      simp only [bind_eq_ok, failIf_eq_ok, Decidable.not_not] at verified
      obtain ⟨-, -, -, -, -, -, -, digest, sized⟩ := verified
      cases sized
      exact ⟨file, found, digest, rfl⟩
    · cases verified
  · cases verified

theorem hexDigit_injective : ∀ m < 16, ∀ n < 16, GoJson.hexDigit m = GoJson.hexDigit n → m = n := by
  decide

theorem hexText_injective {a b : Bytes} (same : hexText a = hexText b) : a = b := by
  induction a generalizing b with
  | nil =>
    cases b with
    | nil => rfl
    | cons => cases same
  | cons x a ih =>
    cases b with
    | nil => cases same
    | cons y b =>
      obtain ⟨high, same⟩ := cons.inj same
      obtain ⟨low, same⟩ := cons.inj same
      have bound := UInt8.toNat_lt x
      have bound' := UInt8.toNat_lt y
      have high := hexDigit_injective _ (by omega) _ (by omega) high
      have low := hexDigit_injective _ (by omega) _ (by omega) low
      rw [ih same, UInt8.toNat_inj.mp (show x.toNat = y.toNat by omega)]

/-- The consumer sees the contents of the file that was opened last. It has the digest of the
manifest and the size that was verified exactly where its bytes are those of the verified file. -/
theorem verified_archive_consumed (sys : System) (manifest : Manifest) (maxBytes : Int)
    (staged : Lookup → Option Node) (tmp : Path) (files : Files) (size : Nat) (x : Extraction)
    (collisionFree : ∀ verified unpacked, staged .open_ = some verified →
      staged .openZip = some unpacked → sys.sha256 unpacked.data = sys.sha256 verified.data →
        unpacked.data = verified.data)
    (called : withVerifiedInstallerPackage sys manifest maxBytes staged tmp files = .ok (size, x)) :
    ∃ verified unpacked members, staged .open_ = some verified ∧
      staged .openZip = some unpacked ∧ sys.openZip unpacked.data = some members ∧
      extractInstallerPackage sys tmp members files = .ok x ∧
      (hexText (sys.sha256 unpacked.data) = manifest.installerSHA256 ∧
        unpacked.data.length = size ↔ unpacked.data = verified.data) := by
  obtain ⟨unpacked, members, there, opened, checked, content, -⟩ := consumed_parts called
  obtain ⟨verified, found, digest, sized⟩ := verified_parts checked
  refine ⟨verified, unpacked, members, found, there, opened, content, ?_, fun same => ?_⟩
  · rintro ⟨digest', -⟩
    exact collisionFree verified unpacked found there
      (hexText_injective (digest'.trans digest.symm))
  · rw [same]
    exact ⟨digest, sized⟩

section Sample

/-- A checksum in the place of SHA-256 -/
def checksum (data : Bytes) : Bytes := replicate 32 (data.foldl (fun h b => 31 * h + b) 7)

def sums (content : Bytes → Bytes) (names : List Bytes) : Bytes :=
  names.flatMap fun name => hexText (checksum (content name)) ++ [32, 32] ++ name ++ [10]

/-- The packages differ in their files and have the same version. -/
def binaryContent (mark : UInt8) (name : Bytes) : Bytes :=
  if name = literal "VERSION.txt" then literal "version=1.0.0\n" else mark :: name

def payloadContent (mark : UInt8) (name : Bytes) : Bytes :=
  if name = literal "SHA256SUMS.txt" then sums (binaryContent mark) installerBinaries
  else binaryContent mark name

def packageContent (mark : UInt8) (name : Bytes) : Bytes :=
  if name = literal "PACKAGE_SHA256SUMS.txt" then sums (payloadContent mark) installerPayloadFiles
  else payloadContent mark name

def packageMembers (mark : UInt8) : List Member := installerFiles.map fun name =>
  ⟨name, false, UInt64.ofNat (packageContent mark name).length, some (packageContent mark name)⟩

/-- The archive of a package is its mark. -/
def packageSystem : System where
  base := id
  sha256 := checksum
  openZip := fun
    | [mark] => some (packageMembers mark)
    | _ => none
  trusts := fun _ => true
  cancelled := fun _ => false

def packageManifest : Manifest := ⟨literal "v1.0.0", hexText (checksum [1])⟩

/-- Another package is put into the place of the verified one between the lookups. -/
def replaced (swap : Bool) : Lookup → Option Node
  | .openZip => some ⟨if swap then 2 else 1, false, true, if swap then [2] else [1]⟩
  | _ => some ⟨1, false, true, [1]⟩

def packageRun (swap : Bool) : Except String (Nat × Extraction) :=
  withVerifiedInstallerPackage packageSystem packageManifest 0 (replaced swap) [[116]]
    fun _ => none

/-- The consumer is called with the files of the package that was not verified. -/
theorem unverified_archive_consumed : (packageRun true).toOption.map
        (fun x => x.2.files [[116], literal "wd.exe"]) =
          some (some (packageContent 2 (literal "wd.exe"))) ∧
      packageContent 2 (literal "wd.exe") ≠ packageContent 1 (literal "wd.exe") ∧
      (replaced true .openZip).map (fun node => hexText (checksum node.data)) ≠
        some packageManifest.installerSHA256 := by decide +kernel

theorem packageRun_ok : ∃ x, packageRun false = .ok x :=
  exists_ok (by decide +kernel)

theorem verified_archive_sample : ∃ x, packageRun false = .ok x ∧
    extractInstallerPackage packageSystem [[116]] (packageMembers 1) (fun _ => none) = .ok x.2 ∧
      hexText (checksum [1]) = packageManifest.installerSHA256 ∧ x.1 = 1 := by
  obtain ⟨x, called⟩ := packageRun_ok
  obtain ⟨_, _, members, ⟨⟩, ⟨⟩, ⟨⟩, unpacked, exact⟩ := verified_archive_consumed packageSystem
    packageManifest 0 (replaced false) [[116]] _ x.1 x.2 (by rintro _ _ ⟨⟩ ⟨⟩ -; rfl) called
  obtain ⟨digest, sized⟩ := exact.mpr rfl
  exact ⟨x, called, unpacked, digest, sized.symm⟩

theorem package_complete_sample : ∃ x : Extraction,
    ((packageMembers 1).map Member.name).Perm installerFiles ∧
      Covers packageSystem [[116]] x.files (literal "SHA256SUMS.txt") installerBinaries := by
  obtain ⟨⟨size, x⟩, called⟩ := packageRun_ok
  obtain ⟨node, members, ⟨⟩, ⟨⟩, -, unpacked, binaries, payload⟩ := consumed_parts called
  obtain ⟨names, -, -, -, -, -, -, covers, -⟩ := package_complete packageSystem [[116]]
    (packageMembers 1) (fun _ => none) x (fun _ _ => rfl) unpacked binaries payload
  exact ⟨x, names, covers⟩

end Sample

end InstallerPackage
