import WeDecent.Library.GoMap

/-!
# Transactions under READ COMMITTED

A table with a key, and transactions that write its rows. Each statement of a transaction reads a
snapshot: the rows committed when it started and the transaction's own writes. A row that a running
transaction has written is locked for the others until it ends.

Which of the running transactions commit is not decided yet. `Outcome s T k x` says that the row at
`k` becomes `x` if those of `T` commit and the others are rolled back. What holds in every outcome
holds whatever happens next, as long as no transaction writes.
-/

namespace ReadCommitted

open Bool Option GoMap

variable {K V U : Type}

structure Statement (K V : Type) where
  snapshot : GoMap K V
  -- The rows that the statement itself has written
  changed : List K

structure Transaction (K V U : Type) where
  user : U
  -- A row that it has deleted is `none`.
  writes : GoMap K (Option V)
  statement : Option (Statement K V)

structure Store (K V U : Type) where
  committed : GoMap K V
  running : GoMap Nat (Transaction K V U)

namespace Store

variable [DecidableEq K]

/-- The latest version of a row that is not locked by another transaction -/
def view (s : Store K V U) (tx : Transaction K V U) (k : K) : Option V :=
  (tx.writes.get k).getD (s.committed.get k)

/-- What a transaction has written at a key -/
def pending (s : Store K V U) (t : Nat) (k : K) : Option (Option V) :=
  (s.running.get t).bind fun tx => tx.writes.get k

/-- No other transaction holds the lock of the row. -/
def unlocked (s : Store K V U) (t : Nat) (k : K) : Bool :=
  s.running.entries.all fun e => decide (e.1 = t) || (e.2.writes.get k).isNone

def setTransaction (s : Store K V U) (t : Nat) (tx : Transaction K V U) : Store K V U :=
  { s with running := s.running.set t tx }

def begin (s : Store K V U) (t : Nat) (user : U) : Option (Store K V U) :=
  match s.running.get t with
  | some _ => none
  | none => some (s.setTransaction t ⟨user, .empty, none⟩)

/-- A statement starts and takes its snapshot. -/
def execute (s : Store K V U) (t : Nat) : Option (Store K V U) :=
  match s.running.get t with
  | some ⟨user, writes, none⟩ =>
    some (s.setTransaction t ⟨user, writes, some ⟨s.committed.patch writes, []⟩⟩)
  | _ => none

/-- The statement writes a row. -/
def put (s : Store K V U) (t : Nat) (tx : Transaction K V U) (st : Statement K V) (k : K)
    (row : Option V) : Store K V U :=
  s.setTransaction t ⟨tx.user, tx.writes.set k row, some { st with changed := k :: st.changed }⟩

def complete (s : Store K V U) (t : Nat) : Option (Store K V U) :=
  match s.running.get t with
  | some ⟨user, writes, some _⟩ => some (s.setTransaction t ⟨user, writes, none⟩)
  | _ => none

def commit (s : Store K V U) (t : Nat) : Option (Store K V U) :=
  match s.running.get t with
  | some ⟨_, writes, none⟩ => some ⟨s.committed.patch writes, s.running.erase t⟩
  | _ => none

def abort (s : Store K V U) (t : Nat) : Option (Store K V U) :=
  match s.running.get t with
  | some _ => some { s with running := s.running.erase t }
  | none => none

/-- Two running transactions have not written one row. -/
def Locked (s : Store K V U) : Prop :=
  ∀ t t' k, s.pending t k ≠ none → s.pending t' k ≠ none → t = t'

def Outcome (s : Store K V U) (T : Nat → Prop) (k : K) (x : Option V) : Prop :=
  (∃ t, T t ∧ s.pending t k = some x) ∨
    (s.committed.get k = x ∧ ∀ t, T t → s.pending t k = none)

section Outcome

variable {s s' : Store K V U} {t : Nat} {tx : Transaction K V U} {st : Statement K V} {k : K}
  {x : Option V} {T : Nat → Prop}

theorem pending_of_running (found : s.running.get t = some tx) (k : K) :
    s.pending t k = tx.writes.get k := by
  rw [pending, found, bind_some]

theorem unlocked_iff : s.unlocked t k = true ↔ ∀ t', t' ≠ t → s.pending t' k = none := by
  simp only [unlocked, List.all_eq_true, or_eq_true, decide_eq_true_eq]
  constructor
  · intro free t' other
    cases found : s.running.get t' with
    | none => rw [pending, found, bind_none]
    | some tx =>
      rw [pending_of_running found]
      exact isNone_iff_eq_none.mp
        ((free (t', tx) (get_eq_some.mp found)).resolve_left other)
  · intro free e member
    by_cases same : e.1 = t
    · exact .inl same
    · have clean := free e.1 same
      rw [pending_of_running (get_eq_some.mpr member)] at clean
      exact .inr (isNone_iff_eq_none.mpr clean)

theorem outcome_nobody : s.Outcome (fun _ => False) k x ↔ s.committed.get k = x := by
  simp [Outcome]

/-- A transaction that commits decides the row whose lock it holds or can take. -/
theorem outcome_of_view (found : s.running.get t = some tx) (free : s.unlocked t k = true)
    (member : T t) : s.Outcome T k x ↔ s.view tx k = x := by
  have others := unlocked_iff.mp free
  rw [view]
  cases own : tx.writes.get k with
  | none =>
    have clean : ∀ t', s.pending t' k = none := by
      intro t'
      by_cases same : t' = t
      · exact same ▸ (pending_of_running found k).trans own
      · exact others t' same
    simp [Outcome, clean]
  | some y =>
    have wrote : s.pending t k = some y := (pending_of_running found k).trans own
    constructor
    · rintro (⟨t', -, wrote'⟩ | ⟨-, clean⟩)
      · by_cases same : t' = t
        · subst same
          exact Option.some.inj (wrote.symm.trans wrote')
        · cases (others t' same).symm.trans wrote'
      · cases (clean t member).symm.trans wrote
    · rintro rfl
      exact .inl ⟨t, member, wrote⟩

/-- An outcome depends on the committed rows and the writes only. -/
theorem outcome_congr (committed : s'.committed = s.committed)
    (pending : ∀ t k, s'.pending t k = s.pending t k) :
    s'.Outcome T k x ↔ s.Outcome T k x := by
  simp [Outcome, committed, pending]

theorem locked_congr (pending : ∀ t k, s'.pending t k = s.pending t k) (locked : s.Locked) :
    s'.Locked := by
  intro t t' k wrote wrote'
  rw [pending] at wrote wrote'
  exact locked t t' k wrote wrote'

theorem pending_setTransaction {t' : Nat} :
    (s.setTransaction t tx).pending t' k = if t' = t then tx.writes.get k else s.pending t' k := by
  rw [pending, setTransaction]
  split
  · rename_i same
    rw [same, get_set_self, bind_some]
  · rename_i other
    rw [get_set_of_ne other, pending]

theorem pending_erase (h : s'.running = s.running.erase t) (t' : Nat) (k : K) :
    s'.pending t' k = if t' = t then none else s.pending t' k := by
  rw [pending, h]
  split
  · rename_i same
    rw [same, get_erase_self, bind_none]
  · rename_i other
    rw [get_erase_of_ne other, pending]

/-- The committed rows and the writes are as before. -/
structure Still (s s' : Store K V U) : Prop where
  committed : s'.committed = s.committed
  pending : ∀ t k, s'.pending t k = s.pending t k

omit [DecidableEq K] in
theorem begin_inv {user : U} (h : s.begin t user = some s') :
    s.running.get t = none ∧ s' = s.setTransaction t ⟨user, .empty, none⟩ := by
  unfold begin at h
  split at h
  · cases h
  · rename_i absent
    exact ⟨absent, (Option.some.inj h).symm⟩

theorem begin_still {user : U} (h : s.begin t user = some s') : Still s s' := by
  obtain ⟨absent, rfl⟩ := begin_inv h
  refine ⟨rfl, fun t' k => ?_⟩
  rw [pending_setTransaction]
  split
  · rename_i same
    rw [same, pending, absent]
    rfl
  · rfl

theorem setTransaction_still (found : s.running.get t = some tx)
    (next : Option (Statement K V)) :
    Still s (s.setTransaction t ⟨tx.user, tx.writes, next⟩) := by
  refine ⟨rfl, fun t' k => ?_⟩
  rw [pending_setTransaction]
  split
  · rename_i same
    rw [same, pending_of_running found]
  · rfl

theorem execute_inv (h : s.execute t = some s') :
    ∃ user writes, s.running.get t = some ⟨user, writes, none⟩ ∧
      s' = s.setTransaction t ⟨user, writes, some ⟨s.committed.patch writes, []⟩⟩ := by
  unfold execute at h
  split at h
  · rename_i user writes found
    exact ⟨user, writes, found, (Option.some.inj h).symm⟩
  · cases h

theorem execute_still (h : s.execute t = some s') : Still s s' := by
  obtain ⟨user, writes, found, rfl⟩ := execute_inv h
  exact setTransaction_still found _

omit [DecidableEq K] in
theorem complete_inv (h : s.complete t = some s') :
    ∃ user writes st, s.running.get t = some ⟨user, writes, some st⟩ ∧
      s' = s.setTransaction t ⟨user, writes, none⟩ := by
  unfold complete at h
  split at h
  · rename_i user writes st found
    exact ⟨user, writes, st, found, (Option.some.inj h).symm⟩
  · cases h

theorem complete_still (h : s.complete t = some s') : Still s s' := by
  obtain ⟨user, writes, st, found, rfl⟩ := complete_inv h
  exact setTransaction_still found _

theorem Still.outcome (still : Still s s') : s'.Outcome T k x ↔ s.Outcome T k x :=
  outcome_congr still.committed still.pending

theorem Still.locked (still : Still s s') (locked : s.Locked) : s'.Locked :=
  locked_congr still.pending locked

theorem pending_put (found : s.running.get t = some tx) {row : Option V} {t' : Nat} {k' : K} :
    (s.put t tx st k row).pending t' k' =
      if t' = t ∧ k' = k then some row else s.pending t' k' := by
  rw [put, pending_setTransaction]
  by_cases same : t' = t
  · subst same
    by_cases at_k : k' = k
    · subst at_k
      simp
    · rw [pending_of_running found]
      simp [at_k, get_set_of_ne at_k]
  · simp [same]

theorem locked_put (locked : s.Locked) (found : s.running.get t = some tx)
    (free : s.unlocked t k = true) {row : Option V} : (s.put t tx st k row).Locked := by
  have others := unlocked_iff.mp free
  intro t₁ t₂ k' wrote₁ wrote₂
  rw [pending_put found] at wrote₁ wrote₂
  by_cases at_k : k' = k
  · subst at_k
    have only : ∀ t', (if t' = t ∧ k' = k' then some row else s.pending t' k') ≠ none → t' = t := by
      intro t' wrote
      by_contra other
      rw [if_neg (fun both => other both.1)] at wrote
      exact wrote (others t' other)
    exact (only t₁ wrote₁).trans (only t₂ wrote₂).symm
  · rw [if_neg (fun both => at_k both.2)] at wrote₁ wrote₂
    exact locked t₁ t₂ k' wrote₁ wrote₂

/-- The write changes nothing where its transaction is rolled back, or at another key. -/
theorem outcome_put_apart (found : s.running.get t = some tx) {row : Option V} {k' : K}
    (apart : T t → k' ≠ k) : (s.put t tx st k row).Outcome T k' x ↔ s.Outcome T k' x := by
  have same : ∀ t', T t' → (s.put t tx st k row).pending t' k' = s.pending t' k' := by
    intro t' member
    rw [pending_put found, if_neg]
    rintro ⟨rfl, at_k⟩
    exact apart member at_k
  constructor
  · rintro (⟨t', member, wrote⟩ | ⟨committed, clean⟩)
    · exact .inl ⟨t', member, (same t' member) ▸ wrote⟩
    · exact .inr ⟨committed, fun t' member => (same t' member) ▸ clean t' member⟩
  · rintro (⟨t', member, wrote⟩ | ⟨committed, clean⟩)
    · exact .inl ⟨t', member, (same t' member).trans wrote⟩
    · exact .inr ⟨committed, fun t' member => (same t' member).trans (clean t' member)⟩

theorem outcome_put_self (found : s.running.get t = some tx) {row : Option V} (member : T t) :
    (s.put t tx st k row).Outcome T k row :=
  .inl ⟨t, member, by rw [pending_put found, if_pos ⟨rfl, rfl⟩]⟩

theorem commit_inv (h : s.commit t = some s') :
    ∃ user writes, s.running.get t = some ⟨user, writes, none⟩ ∧
      s' = ⟨s.committed.patch writes, s.running.erase t⟩ := by
  unfold commit at h
  split at h
  · rename_i user writes found
    exact ⟨user, writes, found, (Option.some.inj h).symm⟩
  · cases h

omit [DecidableEq K] in
theorem abort_inv (h : s.abort t = some s') :
    ∃ tx, s.running.get t = some tx ∧ s' = { s with running := s.running.erase t } := by
  unfold abort at h
  split at h
  · rename_i tx found
    exact ⟨tx, found, (Option.some.inj h).symm⟩
  · cases h

theorem locked_erase (locked : s.Locked) (h : s'.running = s.running.erase t) : s'.Locked := by
  have before : ∀ t' k, s'.pending t' k ≠ none → s.pending t' k ≠ none := by
    intro t' k wrote
    rw [pending_erase h] at wrote
    split at wrote
    · exact absurd rfl wrote
    · exact wrote
  intro t₁ t₂ k wrote₁ wrote₂
  exact locked t₁ t₂ k (before t₁ k wrote₁) (before t₂ k wrote₂)

/-- After a rollback the outcomes are those in which the transaction is rolled back. -/
theorem outcome_abort (h : s.abort t = some s') :
    s'.Outcome T k x ↔ s.Outcome (fun t' => T t' ∧ t' ≠ t) k x := by
  obtain ⟨tx, -, rfl⟩ := abort_inv h
  have after : ∀ t', ({ s with running := s.running.erase t } : Store K V U).pending t' k =
      if t' = t then none else s.pending t' k := fun t' => pending_erase rfl t' k
  simp only [Outcome, after]
  constructor
  · rintro (⟨t', member, wrote⟩ | ⟨committed, clean⟩)
    · split at wrote
      · cases wrote
      · rename_i other
        exact .inl ⟨t', ⟨member, other⟩, wrote⟩
    · refine .inr ⟨committed, fun t' both => ?_⟩
      have still := clean t' both.1
      rwa [if_neg both.2] at still
  · rintro (⟨t', ⟨member, other⟩, wrote⟩ | ⟨committed, clean⟩)
    · exact .inl ⟨t', member, (if_neg other).trans wrote⟩
    refine .inr ⟨committed, fun t' member => ?_⟩
    split
    · rfl
    · rename_i other
      exact clean t' ⟨member, other⟩

/-- After a commit the outcomes are those in which the transaction commits. -/
theorem outcome_commit (locked : s.Locked) (h : s.commit t = some s')
    (outcome : s.Outcome (fun t' => T t' ∨ t' = t) k x) : s'.Outcome T k x := by
  obtain ⟨user, writes, found, rfl⟩ := commit_inv h
  have own := pending_of_running found k
  have after : ∀ t', (⟨s.committed.patch writes, s.running.erase t⟩ : Store K V U).pending t' k =
      if t' = t then none else s.pending t' k := fun t' => pending_erase rfl t' k
  rcases outcome with ⟨t', member, wrote⟩ | ⟨committed, clean⟩
  · by_cases same : t' = t
    · subst same
      refine .inr ⟨?_, fun t₂ _ => ?_⟩
      · rw [get_patch, ← own, wrote, getD_some]
      rw [after]
      split
      · rfl
      · rename_i other
        by_contra wrote₂
        exact other (locked t₂ t' k wrote₂ (by rw [wrote]; nofun))
    · refine .inl ⟨t', member.resolve_right same, ?_⟩
      rw [after, if_neg same, wrote]
  · refine .inr ⟨?_, fun t' member => ?_⟩
    · rw [get_patch, ← own, clean t (.inr rfl), getD_none, committed]
    · rw [after]
      split
      · rfl
      · exact clean t' (.inl member)

end Outcome

end Store

end ReadCommitted
