import Mathlib.Data.Set.Insert
import Mathlib.Order.Basic
import Mathlib.Tactic.Common

/-!
# Single-use keys that are remembered until they expire

A replay guard keeps a record of each key it has admitted, together with the
moment at which the key expires, and drops the records that have expired. It is
allowed to forget: a key that has expired is refused for another reason. What
has to hold is that a key is still on record as long as it could be presented
again.
-/

namespace ReplayWindow

universe u v w
variable {Key : Type u} {Expiry : Type v} {Instant : Type w}
variable [LinearOrder Instant] (moment : Expiry → Instant)

/-- The records that have not expired. -/
def prune (now : Instant) (records : List (Key × Expiry)) : List (Key × Expiry) :=
  records.filter fun r => now < moment r.2

def known [DecidableEq Key] (key : Key) (records : List (Key × Expiry)) : Bool :=
  records.any fun r => r.1 = key

/-- Prune, and record the key unless it is known; `none` refuses it as a replay. -/
def accept [DecidableEq Key] (now : Instant) (key : Key) (expiry : Expiry)
    (records : List (Key × Expiry)) : Option (List (Key × Expiry)) :=
  if known key (prune moment now records) then none
  else some ((key, expiry) :: prune moment now records)

/-- A reading of the clock is not ahead of it. -/
def Read (reading clock : Instant) : Prop := reading ≤ clock

/-- Every admission is on record until it expires. -/
def Remembers (clock : Instant) (admitted : Set (Key × Expiry)) (records : List (Key × Expiry)) :
    Prop :=
  ∀ a ∈ admitted, clock < moment a.2 → a ∈ records

variable {moment} {now clock : Instant} {key : Key} {expiry : Expiry}
variable {admitted : Set (Key × Expiry)} {records records' : List (Key × Expiry)}

theorem mem_prune {r : Key × Expiry} :
    r ∈ prune moment now records ↔ r ∈ records ∧ now < moment r.2 := by
  simp [prune]

section

variable (h : Remembers moment clock admitted records)

include h

theorem Remembers.subset {fewer : Set (Key × Expiry)} (less : fewer ⊆ admitted) :
    Remembers moment clock fewer records :=
  fun a member live => h a (less member) live

/-- Time passes. -/
theorem Remembers.later {later : Instant} (passed : clock ≤ later) :
    Remembers moment later admitted records := by
  intro a member live
  exact h a member (lt_of_le_of_lt passed live)

/-- Pruning at a reading of the clock that is not ahead of it. -/
theorem Remembers.prune (reading : now ≤ clock) :
    Remembers moment clock admitted (prune moment now records) := by
  intro a member live
  exact mem_prune.mpr ⟨h a member live, lt_of_le_of_lt reading live⟩

theorem Remembers.cons (a : Key × Expiry) :
    Remembers moment clock (insert a admitted) (a :: records) := by
  intro b member live
  rcases member with rfl | member
  · exact List.mem_cons_self
  · exact List.mem_cons_of_mem a (h b member live)

end

variable [DecidableEq Key]

theorem known_iff : known key records = true ↔ ∃ expiry, (key, expiry) ∈ records := by
  simp only [known, List.any_eq_true, decide_eq_true_eq]
  constructor
  · rintro ⟨⟨k, e⟩, member, rfl⟩
    exact ⟨e, member⟩
  · rintro ⟨e, member⟩
    exact ⟨(key, e), member, rfl⟩

theorem accept_eq_some (h : accept moment now key expiry records = some records') :
    known key (prune moment now records) = false ∧
      records' = (key, expiry) :: prune moment now records := by
  unfold accept at h
  split at h
  · cases h
  · rename_i fresh
    exact ⟨Bool.eq_false_iff.mpr fresh, (Option.some.inj h).symm⟩

theorem Remembers.accept (h : Remembers moment clock admitted records) (reading : now ≤ clock)
    (admits : accept moment now key expiry records = some records') :
    Remembers moment clock (insert (key, expiry) admitted) records' := by
  obtain ⟨-, rfl⟩ := accept_eq_some admits
  exact (h.prune reading).cons (key, expiry)

/-- What is admitted again has expired before. -/
theorem Remembers.expired (h : Remembers moment clock admitted records) (reading : now ≤ clock)
    (admits : ReplayWindow.accept moment now key expiry records = some records')
    {a : Key × Expiry} (member : a ∈ admitted) (same : a.1 = key) : moment a.2 ≤ clock := by
  by_contra live
  have unexpired : clock < moment a.2 := not_le.mp live
  have kept := mem_prune.mpr ⟨h a member unexpired, lt_of_le_of_lt reading unexpired⟩
  have unknown := (accept_eq_some admits).1
  rw [known_iff.mpr ⟨a.2, same ▸ kept⟩] at unknown
  cases unknown

end ReplayWindow
