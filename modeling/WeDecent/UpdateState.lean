import WeDecent.Library.Fallible
import WeDecent.Library.GoUnmarshal

/-!
# The state file of the updater

`loadState` and `saveState` (`updateinfo/state.go`). The file holds the highest sequence of the
stable channel that was accepted. A load asks for the file and then reads it, in two steps, since
another process may replace it between them; a save prepares a file of its own and then replaces
the state file by it.
-/

namespace UpdateState

open Decimal Fallible GoText GoUnmarshal Json

def updateStateVersion : Int64 := 1
def maxUpdateStateBytes : Nat := 4096

structure State where
  version : Int64
  stableSequence : UInt64

inductive UpdateError where
  | invalidState (what : String)
  | rollback (sequence current : UInt64)
  | sequenceCommit
  | installerApply
  -- An error of the manifest, the context, the update lock or the package
  | refused
  deriving DecidableEq

/-- What is found at the path. The mode and the owner are as `validateStateFileInfo` wants them in
a file that is `guarded`. -/
structure Node where
  symlink : Bool
  regular : Bool
  guarded : Bool
  data : List UInt8
  deriving DecidableEq

def intLiteral (n : Int) : List UInt8 :=
  if n < 0 then 45 :: numeral n.natAbs else numeral n.natAbs

def stateTree (st : State) : Json :=
  .object [(literal "version", .number (intLiteral st.version.toInt)),
    (literal "stable_sequence", .number (numeral st.stableSequence.toNat))]

def encodeState (st : State) : Except UpdateError (List UInt8) := do
  let data := (stateTree st).render ++ [10]
  failIf (maxUpdateStateBytes < data.length) (.invalidState "update state exceeds 4096 bytes")
  return data

def State.validatePersisted (st : State) : Except UpdateError Unit := do
  failIf (st.version ≠ updateStateVersion) (.invalidState "unsupported state version")
  failIf (st.stableSequence = 0) (.invalidState "persisted sequence must be positive")

def stateFields : List (StructField State) :=
  [.of "version" State.version (fun st v => { st with version := v }) int64,
    .of "stable_sequence" State.stableSequence (fun st v => { st with stableSequence := v }) uint64]

/-- The decoder also refuses fields that it does not know. A file with one of those is not
canonical, and `readState` refuses it later. -/
def decodeState (data : List UInt8) : Option State := unmarshal ⟨0, 0⟩ (struct stateFields) data

/-- The first half of `loadState`: `true` where there is a file to read -/
def lstatState (fails : Bool) (file : Option Node) : Except UpdateError Bool :=
  match file with
  | none => if fails then .error (.invalidState "stat update state") else .ok false
  | some node => do
    failIf (fails = true) (.invalidState "stat update state")
    failIf (node.symlink = true) (.invalidState "update state must not be a symbolic link")
    failIf (node.regular = false) (.invalidState "update state must be a regular file")
    failIf (node.guarded = false) (.invalidState "update state permissions are too broad")
    return true

/-- The second half of `loadState`, with the data that it reads, if it can -/
def readState (data : Option (List UInt8)) : Except UpdateError State :=
  match data with
  | none => .error (.invalidState "read update state")
  | some data => do
    failIf (data.isEmpty = true ∨ maxUpdateStateBytes < data.length)
      (.invalidState "update state size is invalid")
    match decodeState data with
    | none => .error (.invalidState "decode update state")
    | some st => do
      st.validatePersisted
      let canonical ← encodeState st
      failIf (data ≠ canonical) (.invalidState "update state is not canonical")
      return st

/-- What `loadState` gives where nothing fails: an absent file is the sequence zero. -/
def persisted (file : Option Node) : Option UInt64 :=
  match file with
  | none => some 0
  | some node =>
    match lstatState false (some node), readState (some node.data) with
    | .ok true, .ok st => some st.stableSequence
    | _, _ => none

/-- The file that `saveState` puts in place, protected with mode 0600 -/
def savedNode (sequence : UInt64) : Except UpdateError Node := do
  let st : State := ⟨updateStateVersion, sequence⟩
  st.validatePersisted
  let data ← encodeState st
  return ⟨false, true, true, data⟩

/-- A line break after a value is not part of it. -/
theorem parse_line {depth : Nat} {item : Json} (fits : Fits depth item) :
    parse depth (item.render ++ [10]) = some item := by
  have whole := value_render depth item [10] fits (by simp [Ends]; decide)
  rw [parse, whole]
  rfl

theorem decodeState_tree (sequence : UInt64) :
    decodeState ((stateTree ⟨updateStateVersion, sequence⟩).render ++ [10]) =
      some ⟨updateStateVersion, sequence⟩ := by
  have fits : Fits (9999 + 1) (stateTree ⟨updateStateVersion, sequence⟩) := by
    apply fits_object
    simp only [List.forall_mem_cons, MemberFits]
    exact ⟨⟨by decide, fits_scalar (numeral_fits 1)⟩,
      ⟨by decide, fits_scalar (numeral_fits _)⟩, nofun⟩
  have version (old : Int64) : int64 old (.number (numeral 1)) = some updateStateVersion :=
    parseInt64_numeral (n := 1) (by decide)
  have decoded (old : UInt64) : uint64 old (.number (numeral sequence.toNat)) = some sequence := by
    rw [uint64, parseUint64_numeral sequence.toNat_lt, UInt64.ofNat_toNat]
  rw [decodeState, unmarshal, show maxNestingDepth = 9999 + 1 from rfl, parse_line fits,
    Option.bind_some]
  exact storeMembers_cons (storeMember_known rfl (version _))
    (storeMembers_cons (storeMember_known rfl (decoded _)) rfl)

theorem persisted_saved {sequence : UInt64} {node : Node} (h : savedNode sequence = .ok node) :
    persisted (some node) = some sequence := by
  simp only [savedNode, bind_eq_ok] at h
  obtain ⟨_, valid, data, encoded, same⟩ := h
  cases same
  have shape := encoded
  simp only [encodeState, bind_eq_ok, failIf_eq_ok] at shape
  obtain ⟨_, small, same⟩ := shape
  have read : readState (some data) = .ok ⟨updateStateVersion, sequence⟩ := by
    cases same
    simp only [readState, bind_eq_ok, failIf_eq_ok, decodeState_tree]
    refine ⟨(), ?_, (), valid, _, encoded, (), not_not.mpr rfl, rfl⟩
    rintro (blank | large)
    · simp at blank
    · exact small large
  have there : lstatState false (some ⟨false, true, true, data⟩) = .ok true := rfl
  simp [persisted, there, read]

/-- A load that ends well has given the persisted sequence. -/
theorem persisted_read {node : Node} {st : State} (there : lstatState false (some node) = .ok true)
    (read : readState (some node.data) = .ok st) :
    persisted (some node) = some st.stableSequence := by
  simp [persisted, there, read]

theorem lstatState_absent {fails there : Bool} (h : lstatState fails none = .ok there) :
    there = false := by
  cases fails with
  | false => exact (Except.ok.inj h).symm
  | true => exact nomatch h

theorem lstatState_found {fails there : Bool} {node : Node}
    (h : lstatState fails (some node) = .ok there) :
    there = true ∧ lstatState false (some node) = .ok true := by
  simp only [lstatState, bind_eq_ok, failIf_eq_ok] at h ⊢
  obtain ⟨_, -, _, plain, _, regular, _, guarded, same⟩ := h
  exact ⟨(Except.ok.inj same).symm, (), by rintro ⟨⟩, (), plain, (), regular, (), guarded, rfl⟩

end UpdateState
