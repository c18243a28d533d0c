import WeDecent.Library.Runs

/-!
# The audit log

`Append` and `ensureCapacity` of `audit/log.go`. The file lock keeps every other `Append`, of this
process or of another, out of the section it guards, so that this section is one step, whichever
handle it comes from. Each operation on the files may fail, and a write may fail after a part of
the record. A file that does not exist is an empty one here: `Append` treats them alike.
-/

namespace AuditLog

open List

abbrev Bytes := List UInt8

def newline : UInt8 := 10

def maxEventSize : Nat := 4096

/-- An event as `json.Marshal` writes it, which escapes the control characters. -/
structure Record where
  line : Bytes
  plain : newline ∉ line

def Record.data (r : Record) : Bytes := r.line ++ [newline]

/-- A limit that `open` accepts. -/
structure Limit where
  maxBytes : Nat
  enough : maxEventSize ≤ maxBytes

/-- The bytes of a file, and the records whose `Append` to it has returned nil. -/
structure File where
  content : Bytes
  kept : List Record

structure Files where
  active : File
  archive : File

/-- Where an `Append` fails. -/
inductive Fault where
  /-- Nothing has been touched yet. -/
  | lock
  | removeArchive
  | rename
  | secureArchive
  | openFile
  /-- Only so many bytes are written, and not all of them. -/
  | write (n : Nat)
  | sync
  deriving DecidableEq

def rotate (fault : Option Fault) (f : Files) : Files × Bool :=
  match fault with
  | some .removeArchive => (f, false)
  | some .rename => ({ f with archive := ⟨[], []⟩ }, false)
  | some .secureArchive => (⟨⟨[], []⟩, f.active⟩, false)
  | _ => (⟨⟨[], []⟩, f.active⟩, true)

def fits (limit : Limit) (additional : Nat) (f : Files) : Bool :=
  decide (f.active.content.length + additional ≤ limit.maxBytes)

def ensureCapacity (limit : Limit) (fault : Option Fault) (additional : Nat) (f : Files) :
    Files × Bool :=
  if fits limit additional f then (f, true) else rotate fault f

/-- `Append` from the opening of the file on. -/
def write (fault : Option Fault) (r : Record) (file : File) : File × Bool :=
  match fault with
  | some .openFile => (file, false)
  | some (.write n) => (⟨file.content ++ r.data.take (min n r.line.length), file.kept⟩, false)
  | some .sync => (⟨file.content ++ r.data, file.kept⟩, false)
  | _ => (⟨file.content ++ r.data, file.kept ++ [r]⟩, true)

/-- `Append`, with whether it returns nil. -/
def append (limit : Limit) (r : Record) (fault : Option Fault) (f : Files) : Files × Bool :=
  if maxEventSize < r.data.length ∨ fault = some .lock then (f, false)
  else
    let (f, ok) := ensureCapacity limit fault r.data.length f
    if ok then
      let (file, ok) := write fault r f.active
      ({ f with active := file }, ok)
    else (f, false)

structure Call where
  record : Record
  fault : Option Fault

def step (limit : Limit) (f : Files) (c : Call) : Option Files :=
  some (append limit c.record c.fault f).1

def linesFrom (line : Bytes) : Bytes → List Bytes
  | [] => []
  | c :: rest => if c = newline then line :: linesFrom [] rest else linesFrom (line ++ [c]) rest

/-- The complete lines of a file. -/
def lines (content : Bytes) : List Bytes := linesFrom [] content

/-- What follows the last newline. -/
def unfinished (line : Bytes) : Bytes → Bytes
  | [] => line
  | c :: rest => if c = newline then unfinished [] rest else unfinished (line ++ [c]) rest

theorem linesFrom_append (content more line : Bytes) : linesFrom line (content ++ more) =
    linesFrom line content ++ linesFrom (unfinished line content) more := by
  induction content generalizing line with
  | nil => rfl
  | cons c rest ih =>
    simp only [cons_append, linesFrom, unfinished]
    split
    · rw [ih, cons_append]
    · exact ih _

theorem linesFrom_data {text : Bytes} (plain : newline ∉ text) (line : Bytes) :
    linesFrom line (text ++ [newline]) = [line ++ text] := by
  induction text generalizing line with
  | nil => simp [linesFrom]
  | cons c rest ih =>
    obtain ⟨other, plain⟩ := not_or.mp (mt mem_cons.mpr plain)
    rw [cons_append, linesFrom, if_neg (Ne.symm other), ih plain, append_assoc]
    rfl

/-- Each record is a line of its own, in the order in which they were written. -/
def File.Sound (file : File) : Prop := (file.kept.map Record.line).Sublist (lines file.content)

def Sound (f : Files) : Prop := f.active.Sound ∧ f.archive.Sound

/-- No torn record is in the way: the file ends with a newline, or is rotated first. -/
def tidy (limit : Limit) (f : Files) (c : Call) : Bool :=
  !fits limit c.record.data.length f || (unfinished [] f.active.content).isEmpty

variable {limit : Limit} {f : Files} {fault : Option Fault} {r : Record} {file : File}

theorem File.Sound.grows (sound : file.Sound) (more : Bytes) :
    File.Sound ⟨file.content ++ more, file.kept⟩ := by
  rw [File.Sound, lines, linesFrom_append]
  exact sound.trans (sublist_append_left _ _)

theorem File.Sound.record (sound : file.Sound) (whole : unfinished [] file.content = [])
    (r : Record) : File.Sound ⟨file.content ++ r.data, file.kept ++ [r]⟩ := by
  rw [File.Sound, lines, linesFrom_append, whole, Record.data, linesFrom_data r.plain, map_append]
  exact sound.append (List.Sublist.refl _)

theorem write_sound (sound : file.Sound) (whole : unfinished [] file.content = []) :
    (write fault r file).1.Sound := by
  unfold write
  split
  · exact sound
  · exact sound.grows _
  · exact sound.grows _
  · exact sound.record whole r

theorem write_length : (write fault r file).1.content.length ≤
    file.content.length + r.data.length := by
  unfold write
  split
  · exact Nat.le_add_right _ _
  · simp only [length_append, length_take]
    omega
  · exact Nat.le_of_eq length_append
  · exact Nat.le_of_eq length_append

/-- The record goes to the end of the active file or to a new one. -/
inductive Placed (limit : Limit) (r : Record) (f : Files) : Files → Prop
  | here (room : fits limit r.data.length f = true) : Placed limit r f f
  | new : Placed limit r f ⟨⟨[], []⟩, f.active⟩

/-- What an `Append` can do to the files. -/
inductive Appends (limit : Limit) (r : Record) (fault : Option Fault) (f : Files) : Files → Prop
  | refused : Appends limit r fault f f
  | removed : Appends limit r fault f { f with archive := ⟨[], []⟩ }
  | rotated : Appends limit r fault f ⟨⟨[], []⟩, f.active⟩
  | wrote {f' : Files} (short : r.data.length ≤ maxEventSize) (placed : Placed limit r f f') :
      Appends limit r fault f { f' with active := (write fault r f'.active).1 }

theorem append_appends : Appends limit r fault f (append limit r fault f).1 := by
  unfold append
  split
  · exact .refused
  rename_i passed
  have short := Nat.le_of_not_lt fun long => passed (.inl long)
  unfold ensureCapacity
  by_cases room : fits limit r.data.length f = true
  · rw [if_pos room]
    exact .wrote short (.here room)
  rw [if_neg room]
  cases fault with
  | none => exact .wrote short .new
  | some fault =>
    cases fault with
    | removeArchive => exact .refused
    | rename => exact .removed
    | secureArchive => exact .rotated
    | _ => exact .wrote short .new

theorem Appends.sound {f' : Files} (appends : Appends limit r fault f f') (sound : Sound f)
    (ok : tidy limit f ⟨r, fault⟩ = true) : Sound f' := by
  cases appends with
  | refused => exact sound
  | removed => exact ⟨sound.1, List.Sublist.refl _⟩
  | rotated => exact ⟨List.Sublist.refl _, sound.1⟩
  | wrote short placed =>
    cases placed with
    | here room => exact ⟨write_sound sound.1 (by simpa [tidy, room] using ok), sound.2⟩
    | new => exact ⟨write_sound (List.Sublist.refl _) rfl, sound.1⟩

theorem Appends.small {f' : Files} (appends : Appends limit r fault f f')
    (small : f.active.content.length ≤ limit.maxBytes) :
    f'.active.content.length ≤ limit.maxBytes := by
  cases appends with
  | rotated => exact Nat.zero_le _
  | wrote short placed =>
    refine Nat.le_trans write_length ?_
    cases placed with
    | here room => exact of_decide_eq_true room
    | new => exact Nat.le_trans (Nat.le_of_eq (Nat.zero_add _)) (Nat.le_trans short limit.enough)
  | _ => exact small

/-- The active file stays within its limit, and while no `Append` comes upon a torn record, each
record whose `Append` has returned nil is a line of the file it is in. -/
theorem acknowledged_lines (limit : Limit) (active archive : Bytes)
    (opened : active.length ≤ limit.maxBytes) (calls : List Call) {f : Files}
    (run : Runs.exec (step limit) ⟨⟨active, []⟩, ⟨archive, []⟩⟩ calls = some f) :
    f.active.content.length ≤ limit.maxBytes ∧
      (Runs.Meets (step limit) (fun f c => tidy limit f c = true) ⟨⟨active, []⟩, ⟨archive, []⟩⟩
          calls →
        ∀ file ∈ [f.active, f.archive],
          (file.kept.map Record.line).Sublist (lines file.content)) := by
  constructor
  · refine Runs.reachable_invariant (fun f => f.active.content.length ≤ limit.maxBytes)
      ?_ opened ⟨calls, run⟩
    intro f c f' small h
    cases h
    exact append_appends.small small
  · intro meets
    have sound : Sound f := by
      refine Runs.exec_invariant Sound ?_ ?_ meets run
      · intro f c f' sound ok h
        cases h
        exact append_appends.sound sound ok
      · exact ⟨nil_sublist _, nil_sublist _⟩
    exact forall_mem_cons.mpr ⟨sound.1, forall_mem_singleton.mpr sound.2⟩

theorem plain_letters : newline ∉ ([97] : Bytes) ∧ newline ∉ ([98] : Bytes) := by decide

def recordA : Record := ⟨[97], plain_letters.1⟩

def recordB : Record := ⟨[98], plain_letters.2⟩

def leastLimit : Limit := ⟨maxEventSize, Nat.le_refl _⟩

def bothKept : Files := ⟨⟨[97, newline, 98, newline], [recordA, recordB]⟩, ⟨[], []⟩⟩

theorem acknowledged_lines_both : bothKept.active.content.length ≤ leastLimit.maxBytes ∧
    ([recordA, recordB].map Record.line).Sublist (lines bothKept.active.content) :=
  have both := acknowledged_lines leastLimit [] [] (Nat.zero_le _)
    [⟨recordA, none⟩, ⟨recordB, none⟩] (f := bothKept) rfl
  ⟨both.1, both.2 (by decide) bothKept.active mem_cons_self⟩

/-- A write that stops after the first byte of a record leaves that byte in the file, and the next
`Append` returns nil with its record at the end of that line. -/
theorem torn_record_joined :
    let torn := (append leastLimit recordA (some (.write 1)) ⟨⟨[], []⟩, ⟨[], []⟩⟩).1
    let after := append leastLimit recordB none torn
    after.2 = true ∧ after.1.active.kept.map Record.line = [[98]] ∧
      lines after.1.active.content = [[97, 98]] := by
  decide

end AuditLog
