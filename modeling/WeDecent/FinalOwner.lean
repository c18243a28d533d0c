import WeDecent.ControlPlane
import WeDecent.Library.ReadCommitted
import WeDecent.Library.Runs

/-!
# The last owner of an organization

Authenticated users insert, update and delete rows of `organization_memberships` under its
row-level policies. The policies refuse to delete or to demote the row of an owner unless
`organization_has_other_owner` finds another one, but they ask the snapshot of the statement: rows
that the same statement has written, or another transaction since, are seen as they were.
-/

namespace FinalOwner

open Bool Option ControlPlane ReadCommitted

/-- The organization and the user of a membership -/
abbrev Key := Uuid × Uuid

/-- A membership. Updates keep the row; a row that is inserted again is another one. -/
structure Row where
  tuple : Nat
  role : OrganizationRole

abbrev Table := GoMap Key Row

def Row.isOwner (row : Row) : Bool := decide (row.role = .owner)

/-- This helper function and the next three are stable: they read the snapshot of the statement that
calls them. -/
def organizationRoleFor (snapshot : Table) (uid organization : Uuid) : Option OrganizationRole :=
  (snapshot.get (organization, uid)).map Row.role

def canManageOrganization (snapshot : Table) (uid organization : Uuid) : Bool :=
  (organizationRoleFor snapshot uid organization).any fun role =>
    decide (role = .owner) || decide (role = .admin)

def isOrganizationOwner (snapshot : Table) (uid organization : Uuid) : Bool :=
  (organizationRoleFor snapshot uid organization).any fun role => decide (role = .owner)

def organizationHasOtherOwner (snapshot : Table) (organization excluded : Uuid) : Bool :=
  snapshot.entries.any fun e =>
    decide (e.1.1 = organization) && decide (e.1.2 ≠ excluded) && e.2.isOwner

def updateUsing (snapshot : Table) (uid : Uuid) (key : Key) (role : OrganizationRole) : Bool :=
  canManageOrganization snapshot uid key.1 && (decide (role ≠ .owner) ||
      (isOrganizationOwner snapshot uid key.1 && organizationHasOtherOwner snapshot key.1 key.2))

def updateCheck (snapshot : Table) (uid : Uuid) (key : Key) (role : OrganizationRole) : Bool :=
  canManageOrganization snapshot uid key.1 &&
    (decide (role ≠ .owner) || isOrganizationOwner snapshot uid key.1)

/-- The condition is the one of an update. -/
def deleteUsing (snapshot : Table) (uid : Uuid) (key : Key) (role : OrganizationRole) : Bool :=
  updateUsing snapshot uid key role

def insertCheck (snapshot : Table) (uid : Uuid) (key : Key) (role : OrganizationRole)
    (createdBy : Option Uuid) : Bool :=
  canManageOrganization snapshot uid key.1 && decide (createdBy = some uid) &&
    (decide (role ≠ .owner) || isOrganizationOwner snapshot uid key.1)

abbrev Session := Transaction Key Row Uuid

/-- What a statement does to one row. Only the role of a membership can be updated. -/
inductive Operation where
  | delete
  | update (role : OrganizationRole)
  | insert (role : OrganizationRole) (createdBy : Option Uuid)
  -- `on conflict (organization_id, user_id) do update set role = …`
  | upsert (role : OrganizationRole) (createdBy : Option Uuid) (updated : OrganizationRole)

/-- An error ends the transaction. -/
inductive Effect where
  | fail
  | put (row : Option Row)

structure State where
  store : Store Key Row Uuid
  nextTuple : Nat

/-- The row that an update or a delete finds: the one of the snapshot, in its latest version, if
the statement has not written it yet and both versions pass the policy -/
def State.target (s : State) (tx : Session) (st : Statement Key Row) (key : Key)
    (using_ : OrganizationRole → Bool) : Option Row :=
  match st.snapshot.get key, s.store.view tx key with
  | some seen, some row =>
    if seen.tuple = row.tuple ∧ key ∉ st.changed ∧ using_ seen.role = true ∧ using_ row.role = true
    then some row else none
  | _, _ => none

def State.effect (s : State) (tx : Session) (st : Statement Key Row) (key : Key) :
    Operation → Option Effect
  | .delete => (s.target tx st key (deleteUsing st.snapshot tx.user key)).map fun _ => .put none
  | .update role => (s.target tx st key (updateUsing st.snapshot tx.user key)).map fun row =>
    if updateCheck st.snapshot tx.user key role then .put (some { row with role }) else .fail
  | .insert role createdBy =>
    if insertCheck st.snapshot tx.user key role createdBy then
      match s.store.view tx key with
      | none => some (.put (some ⟨s.nextTuple, role⟩))
      | some _ => some .fail
    else some .fail
  | .upsert role createdBy updated =>
    if insertCheck st.snapshot tx.user key role createdBy then
      match s.store.view tx key with
      | none => some (.put (some ⟨s.nextTuple, role⟩))
      | some row =>
        if key ∉ st.changed ∧ updateUsing st.snapshot tx.user key row.role = true ∧
          updateCheck st.snapshot tx.user key updated = true
        then some (.put (some { row with role := updated })) else some .fail
    else some .fail

inductive Action where
  | begin (t : Nat) (uid : Uuid)
  | execute (t : Nat)
  | row (t : Nat) (key : Key) (op : Operation)
  | complete (t : Nat)
  | commit (t : Nat)
  | abort (t : Nat)

def State.withStore (s : State) (store : Store Key Row Uuid) : State := { s with store }

/-- The row of a statement, once no other transaction holds its lock -/
def State.operate (s : State) (t : Nat) (key : Key) (op : Operation) : Option State :=
  match s.store.running.get t with
  | some ⟨uid, writes, some st⟩ =>
    if s.store.unlocked t key then
      (s.effect ⟨uid, writes, some st⟩ st key op).bind fun effect =>
        match effect with
        | .fail => (s.store.abort t).map s.withStore
        | .put row =>
          some ⟨s.store.put t ⟨uid, writes, some st⟩ st key row, s.nextTuple + 1⟩
    else none
  | _ => none

def step (s : State) : Action → Option State
  | .begin t uid => (s.store.begin t uid).map s.withStore
  | .execute t => (s.store.execute t).map s.withStore
  | .row t key op => s.operate t key op
  | .complete t => (s.store.complete t).map s.withStore
  | .commit t => (s.store.commit t).map s.withStore
  | .abort t => (s.store.abort t).map s.withStore

/-- Committed memberships, and no transaction running -/
def start (table : Table) (nextTuple : Nat) : State := ⟨⟨table, .empty⟩, nextTuple⟩

/-- Where the statement of `t` deletes or demotes the row of an owner, every other owner in its
snapshot is one still, for the transaction, and no other transaction has written their row. -/
def undisturbed (s : State) : Action → Bool
  | .row t key op =>
    (s.store.running.get t).all fun tx => tx.statement.all fun st =>
      match s.store.view tx key, s.effect tx st key op with
      | some row, some (.put written) =>
        !row.isOwner || written.any Row.isOwner || st.snapshot.entries.all fun e =>
          decide (e.1.1 ≠ key.1) || decide (e.1.2 = key.2) || !e.2.isOwner ||
            ((s.store.view tx e.1).any Row.isOwner && s.store.unlocked t e.1)
      | _, _ => true
  | _ => true

def HasOwner (table : Table) (organization : Uuid) : Prop :=
  ∃ user row, table.get (organization, user) = some row ∧ row.isOwner = true

section Row

variable {s s' : State} {tx : Session} {st : Statement Key Row} {key : Key} {op : Operation}

theorem isOwner_iff {row : Row} : row.isOwner = true ↔ row.role = .owner := decide_eq_true_iff

theorem target_inv {using_ : OrganizationRole → Bool} {row : Row}
    (h : s.target tx st key using_ = some row) :
    s.store.view tx key = some row ∧ using_ row.role = true := by
  unfold State.target at h
  split at h
  · rename_i found
    split at h
    · rename_i guard
      cases h
      exact ⟨found, guard.2.2.2⟩
    · cases h
  · cases h

theorem updateUsing_owner {snapshot : Table} {uid : Uuid}
    (h : updateUsing snapshot uid key .owner = true) :
    organizationHasOtherOwner snapshot key.1 key.2 = true := by
  simp only [updateUsing, ne_eq, not_true_eq_false, decide_false, Bool.false_or, and_eq_true] at h
  exact h.2.2

theorem updateCheck_owner {snapshot : Table} {uid : Uuid}
    (h : updateCheck snapshot uid key .owner = true) :
    isOrganizationOwner snapshot uid key.1 = true := by
  simp only [updateCheck, ne_eq, not_true_eq_false, decide_false, Bool.false_or, and_eq_true] at h
  exact h.2

theorem insertCheck_owner {snapshot : Table} {uid : Uuid} {createdBy : Option Uuid}
    (h : insertCheck snapshot uid key .owner createdBy = true) :
    isOrganizationOwner snapshot uid key.1 = true := by
  simp only [insertCheck, ne_eq, not_true_eq_false, decide_false, Bool.false_or, and_eq_true] at h
  exact h.2

/-- What the policies ask of a write: only an owner makes an owner, and the row of an owner is
deleted or demoted only where the snapshot has another one. -/
structure Permitted (s : State) (tx : Session) (st : Statement Key Row) (key : Key)
    (written : Option Row) : Prop where
  makes : written.any Row.isOwner = true → isOrganizationOwner st.snapshot tx.user key.1 = true
  removes : (s.store.view tx key).any Row.isOwner = true → written.any Row.isOwner = false →
    organizationHasOtherOwner st.snapshot key.1 key.2 = true

theorem permitted_of_update {row : Row} {role : OrganizationRole}
    (found : s.store.view tx key = some row)
    (may : updateUsing st.snapshot tx.user key row.role = true)
    (checked : updateCheck st.snapshot tx.user key role = true) :
    Permitted s tx st key (some { row with role }) where
  makes owner := by
    have owner : role = .owner := isOwner_iff.mp owner
    exact updateCheck_owner (owner ▸ checked)
  removes owner _ := by
    rw [found] at owner
    have owner : row.role = .owner := isOwner_iff.mp owner
    exact updateUsing_owner (owner ▸ may)

theorem permitted_of_insert {role : OrganizationRole} {createdBy : Option Uuid} {tuple : Nat}
    (absent : s.store.view tx key = none)
    (checked : insertCheck st.snapshot tx.user key role createdBy = true) :
    Permitted s tx st key (some ⟨tuple, role⟩) where
  makes owner := by
    have owner : role = .owner := isOwner_iff.mp owner
    exact insertCheck_owner (owner ▸ checked)
  removes owner := by
    rw [absent] at owner
    cases owner

theorem permitted_of_effect {written : Option Row}
    (h : s.effect tx st key op = some (.put written)) : Permitted s tx st key written := by
  cases op with
  | delete =>
    obtain ⟨row, target, same⟩ := map_eq_some_iff.mp h
    cases same
    obtain ⟨found, may⟩ := target_inv target
    refine ⟨nofun, fun owner _ => ?_⟩
    rw [found] at owner
    have owner : row.role = .owner := isOwner_iff.mp owner
    exact updateUsing_owner (owner ▸ may)
  | update role =>
    obtain ⟨row, target, same⟩ := map_eq_some_iff.mp h
    obtain ⟨found, may⟩ := target_inv target
    split at same
    · rename_i checked
      cases same
      exact permitted_of_update found may checked
    · cases same
  | insert role createdBy =>
    simp only [State.effect] at h
    split at h
    · rename_i checked
      split at h
      · rename_i absent
        cases h
        exact permitted_of_insert absent checked
      · cases h
    · cases h
  | upsert role createdBy =>
    simp only [State.effect] at h
    split at h
    · rename_i checked
      split at h
      · rename_i absent
        cases h
        exact permitted_of_insert absent checked
      · rename_i row found
        split at h
        · rename_i guard
          cases h
          exact permitted_of_update found guard.2.1 guard.2.2
        · cases h
    · cases h

/-- The two ends of a row operation -/
inductive Operated (s : State) (t : Nat) (key : Key) (op : Operation) : State → Prop
  | failed {store : Store Key Row Uuid} (aborted : s.store.abort t = some store) :
      Operated s t key op (s.withStore store)
  | wrote {tx : Session} {st : Statement Key Row} {written : Option Row}
      (found : s.store.running.get t = some tx) (current : tx.statement = some st)
      (free : s.store.unlocked t key = true)
      (effect : s.effect tx st key op = some (.put written)) :
      Operated s t key op ⟨s.store.put t tx st key written, s.nextTuple + 1⟩

theorem operate_inv {t : Nat} (h : s.operate t key op = some s') : Operated s t key op s' := by
  unfold State.operate at h
  split at h
  · rename_i found
    split at h
    · rename_i free
      obtain ⟨effect, heffect, h⟩ := bind_eq_some_iff.mp h
      cases effect with
      | fail =>
        obtain ⟨store, aborted, rfl⟩ := map_eq_some_iff.mp h
        exact .failed aborted
      | put =>
        cases h
        exact .wrote found rfl free heffect
    · cases h
  · cases h

end Row

/-- Whichever of the running transactions commit, the organization has an owner. -/
def Kept (s : State) (organization : Uuid) : Prop :=
  ∀ T : Nat → Prop, ∃ user row,
    s.store.Outcome T (organization, user) (some row) ∧ row.isOwner = true

/-- The organization has no owner, not even for one of the transactions. -/
structure Vacant (s : State) (organization : Uuid) : Prop where
  committed : ∀ user row, s.store.committed.get (organization, user) = some row →
    row.isOwner = false
  pending : ∀ t user row, s.store.pending t (organization, user) = some (some row) →
    row.isOwner = false
  snapshot : ∀ t tx st, s.store.running.get t = some tx → tx.statement = some st →
    ∀ user row, st.snapshot.get (organization, user) = some row → row.isOwner = false

section Step

variable {s s' : State} {organization : Uuid} {a : Action}

theorem kept_now (kept : Kept s organization) : HasOwner s.store.committed organization := by
  obtain ⟨user, row, outcome, owner⟩ := kept fun _ => False
  exact ⟨user, row, Store.outcome_nobody.mp outcome, owner⟩

theorem otherOwner_inv {snapshot : Table} {excluded : Uuid}
    (h : organizationHasOtherOwner snapshot organization excluded = true) :
    ∃ user row, user ≠ excluded ∧ ((organization, user), row) ∈ snapshot.entries ∧
      row.isOwner = true := by
  obtain ⟨⟨⟨o, user⟩, row⟩, member, found⟩ := List.any_eq_true.mp h
  simp only [and_eq_true, decide_eq_true_eq] at found
  obtain ⟨⟨rfl, other⟩, owner⟩ := found
  exact ⟨user, row, other, member, owner⟩

variable {t : Nat} {tx : Session} {st : Statement Key Row}

/-- A write that removes an owner leaves the other one that its statement has seen. -/
theorem another_owner {key : Key} {op : Operation} {row : Row} {written : Option Row}
    (quiet : undisturbed s (.row t key op) = true) (found : s.store.running.get t = some tx)
    (current : tx.statement = some st) (effect : s.effect tx st key op = some (.put written))
    (held : s.store.view tx key = some row) (owner : row.isOwner = true)
    (removed : written.any Row.isOwner = false) :
    ∃ user row', user ≠ key.2 ∧ s.store.view tx (key.1, user) = some row' ∧
      row'.isOwner = true ∧ s.store.unlocked t (key.1, user) = true := by
  have permitted := permitted_of_effect effect
  have other := permitted.removes (by rw [held]; exact owner) removed
  obtain ⟨user, row', apart, member, owner'⟩ := otherOwner_inv other
  simp only [undisturbed, found, all_some, current, held, effect, owner, removed,
    Bool.not_true, Bool.false_or, List.all_eq_true] at quiet
  have still := quiet _ member
  simp only [ne_eq, not_true_eq_false, decide_false, apart, owner', Bool.not_true, Bool.false_or,
    and_eq_true] at still
  obtain ⟨row'', view, owner''⟩ := (Option.any_eq_true _ _).mp still.1
  exact ⟨user, row'', apart, view, owner'', still.2⟩

theorem kept_write {key : Key} {op : Operation} {written : Option Row} (kept : Kept s organization)
    (quiet : undisturbed s (.row t key op) = true) (found : s.store.running.get t = some tx)
    (current : tx.statement = some st) (free : s.store.unlocked t key = true)
    (effect : s.effect tx st key op = some (.put written)) :
    Kept ⟨s.store.put t tx st key written, s.nextTuple + 1⟩ organization := by
  intro T
  obtain ⟨user, row, outcome, owner⟩ := kept T
  by_cases apart : T t → (organization, user) ≠ key
  · exact ⟨user, row, (Store.outcome_put_apart found apart).mpr outcome, owner⟩
  -- The transaction commits, and the row is the one of the owner.
  obtain ⟨member, rfl⟩ := not_forall.mp apart |>.imp fun _ same => not_not.mp same
  have held := (Store.outcome_of_view found free member).mp outcome
  cases removed : written.any Row.isOwner with
  | true =>
    obtain ⟨row', rfl, owner'⟩ := (Option.any_eq_true _ _).mp removed
    exact ⟨user, row', Store.outcome_put_self found member, owner'⟩
  | false =>
    obtain ⟨user', row', other, view, owner', free'⟩ :=
      another_owner quiet found current effect held owner removed
    have outcome' := (Store.outcome_of_view found free' member).mpr view
    refine ⟨user', row', (Store.outcome_put_apart found fun _ => ?_).mpr outcome', owner'⟩
    exact fun same => other (congrArg Prod.snd same)

variable {store : Store Key Row Uuid}

theorem kept_abort (kept : Kept s organization) (h : s.store.abort t = some store) :
    Kept (s.withStore store) organization := by
  intro T
  obtain ⟨user, row, outcome, owner⟩ := kept fun t' => T t' ∧ t' ≠ t
  exact ⟨user, row, (Store.outcome_abort h).mpr outcome, owner⟩

theorem kept_still (kept : Kept s organization) (still : Store.Still s.store store) :
    Kept (s.withStore store) organization := by
  intro T
  obtain ⟨user, row, outcome, owner⟩ := kept T
  exact ⟨user, row, still.outcome.mpr outcome, owner⟩

theorem kept_step (locked : s.store.Locked) (kept : Kept s organization)
    (quiet : undisturbed s a = true) (h : step s a = some s') : Kept s' organization := by
  cases a with
  | begin =>
    obtain ⟨store, hstore, rfl⟩ := map_eq_some_iff.mp h
    exact kept_still kept (Store.begin_still hstore)
  | execute =>
    obtain ⟨store, hstore, rfl⟩ := map_eq_some_iff.mp h
    exact kept_still kept (Store.execute_still hstore)
  | row =>
    cases operate_inv h with
    | failed aborted => exact kept_abort kept aborted
    | wrote found current free effect => exact kept_write kept quiet found current free effect
  | complete =>
    obtain ⟨store, hstore, rfl⟩ := map_eq_some_iff.mp h
    exact kept_still kept (Store.complete_still hstore)
  | commit t =>
    obtain ⟨store, hstore, rfl⟩ := map_eq_some_iff.mp h
    intro T
    obtain ⟨user, row, outcome, owner⟩ := kept fun t' => T t' ∨ t' = t
    exact ⟨user, row, Store.outcome_commit locked hstore outcome, owner⟩
  | abort =>
    obtain ⟨store, hstore, rfl⟩ := map_eq_some_iff.mp h
    exact kept_abort kept hstore

theorem locked_step (locked : s.store.Locked) (h : step s a = some s') : s'.store.Locked := by
  cases a with
  | begin =>
    obtain ⟨store, hstore, rfl⟩ := map_eq_some_iff.mp h
    exact (Store.begin_still hstore).locked locked
  | execute =>
    obtain ⟨store, hstore, rfl⟩ := map_eq_some_iff.mp h
    exact (Store.execute_still hstore).locked locked
  | row =>
    cases operate_inv h with
    | failed aborted =>
      obtain ⟨_, -, rfl⟩ := Store.abort_inv aborted
      exact Store.locked_erase locked rfl
    | wrote found _ free => exact Store.locked_put locked found free
  | complete =>
    obtain ⟨store, hstore, rfl⟩ := map_eq_some_iff.mp h
    exact (Store.complete_still hstore).locked locked
  | commit =>
    obtain ⟨store, hstore, rfl⟩ := map_eq_some_iff.mp h
    obtain ⟨_, _, -, rfl⟩ := Store.commit_inv hstore
    exact Store.locked_erase locked rfl
  | abort =>
    obtain ⟨store, hstore, rfl⟩ := map_eq_some_iff.mp h
    obtain ⟨_, -, rfl⟩ := Store.abort_inv hstore
    exact Store.locked_erase locked rfl

section

variable (vacant : Vacant s organization)

include vacant

theorem vacant_setTransaction (tuples : Nat)
    (writes : ∀ user row, tx.writes.get (organization, user) = some (some row) →
      row.isOwner = false) (snapshot : ∀ st, tx.statement = some st → ∀ user row,
      st.snapshot.get (organization, user) = some row → row.isOwner = false) :
    Vacant ⟨s.store.setTransaction t tx, tuples⟩ organization where
  committed := vacant.committed
  pending t' user row wrote := by
    rw [Store.pending_setTransaction] at wrote
    split at wrote
    · exact writes user row wrote
    · exact vacant.pending t' user row wrote
  snapshot t' tx' st found current := by
    rcases GoMap.get_of_set found with ⟨-, rfl⟩ | ⟨-, found⟩
    · exact snapshot st current
    · exact vacant.snapshot t' tx' st found current

theorem vacant_writes (found : s.store.running.get t = some tx)
    (user : Uuid) (row : Row) (wrote : tx.writes.get (organization, user) = some (some row)) :
    row.isOwner = false :=
  vacant.pending t user row ((Store.pending_of_running found _).trans wrote)

/-- The rows that a transaction sees -/
theorem vacant_patch (found : s.store.running.get t = some tx) (user : Uuid) (row : Row)
    (h : (s.store.committed.patch tx.writes).get (organization, user) = some row) :
    row.isOwner = false := by
  rw [GoMap.get_patch] at h
  cases own : tx.writes.get (organization, user) with
  | none =>
    rw [own] at h
    exact vacant.committed user row h
  | some =>
    rw [own] at h
    exact vacant_writes vacant found user row (own.trans (congrArg some h))

theorem vacant_erase (running : store.running = s.store.running.erase t)
    (committed : ∀ user row, store.committed.get (organization, user) = some row →
      row.isOwner = false) : Vacant (s.withStore store) organization where
  committed := committed
  pending t' user row wrote := by
    change store.pending t' (organization, user) = some (some row) at wrote
    rw [Store.pending_erase running] at wrote
    split at wrote
    · cases wrote
    · exact vacant.pending t' user row wrote
  snapshot t' tx st found current := by
    change store.running.get t' = some tx at found
    rw [running] at found
    exact vacant.snapshot t' tx st (GoMap.get_of_erase found).2 current

theorem vacant_write {key : Key} {op : Operation} {written : Option Row} (found :
    s.store.running.get t = some tx) (current : tx.statement = some st)
    (effect : s.effect tx st key op = some (.put written)) :
    Vacant ⟨s.store.put t tx st key written, s.nextTuple + 1⟩ organization := by
  have seen := vacant.snapshot t tx st found current
  refine vacant_setTransaction vacant _ (fun user row wrote => ?_) (fun st' same => ?_)
  · rcases GoMap.get_of_set wrote with ⟨rfl, same⟩ | ⟨-, wrote⟩
    · by_contra owner
      -- Only an owner in the snapshot makes an owner.
      have makes := (permitted_of_effect effect).makes
        (by rw [← same]; exact eq_true_of_ne_false owner)
      obtain ⟨role, hrole, isOwner⟩ := (Option.any_eq_true _ _).mp makes
      obtain ⟨row', found', rfl⟩ := map_eq_some_iff.mp hrole
      exact nomatch (seen tx.user row' found').symm.trans isOwner
    · exact vacant_writes vacant found user row wrote
  · cases same
    exact seen

theorem vacant_step (h : step s a = some s') : Vacant s' organization := by
  cases a with
  | begin =>
    obtain ⟨store, hstore, rfl⟩ := map_eq_some_iff.mp h
    obtain ⟨-, rfl⟩ := Store.begin_inv hstore
    exact vacant_setTransaction vacant _ nofun nofun
  | execute =>
    obtain ⟨store, hstore, rfl⟩ := map_eq_some_iff.mp h
    obtain ⟨user, writes, found, rfl⟩ := Store.execute_inv hstore
    have clean := vacant_writes vacant found
    refine vacant_setTransaction vacant _ clean (fun st same => ?_)
    cases same
    exact vacant_patch vacant found
  | row =>
    cases operate_inv h with
    | failed aborted =>
      obtain ⟨_, -, rfl⟩ := Store.abort_inv aborted
      exact vacant_erase vacant rfl vacant.committed
    | wrote found current _ effect => exact vacant_write vacant found current effect
  | complete =>
    obtain ⟨store, hstore, rfl⟩ := map_eq_some_iff.mp h
    obtain ⟨user, writes, st, found, rfl⟩ := Store.complete_inv hstore
    have clean := vacant_writes vacant found
    exact vacant_setTransaction vacant _ clean nofun
  | commit =>
    obtain ⟨store, hstore, rfl⟩ := map_eq_some_iff.mp h
    obtain ⟨user, writes, found, rfl⟩ := Store.commit_inv hstore
    exact vacant_erase vacant rfl (vacant_patch vacant found)
  | abort =>
    obtain ⟨store, hstore, rfl⟩ := map_eq_some_iff.mp h
    obtain ⟨_, -, rfl⟩ := Store.abort_inv hstore
    exact vacant_erase vacant rfl vacant.committed

end

end Step

/-- Locks are held, and every organization keeps its owner or has none to come. -/
structure Guarded (s : State) : Prop where
  locked : s.store.Locked
  organizations : ∀ organization, Kept s organization ∨ Vacant s organization

theorem guarded_start (table : Table) (nextTuple : Nat) : Guarded (start table nextTuple) where
  locked := fun _ _ _ wrote => absurd rfl wrote
  organizations organization := by
    by_cases owned : HasOwner table organization
    · obtain ⟨user, row, found, owner⟩ := owned
      exact .inl fun _ => ⟨user, row, .inr ⟨found, fun _ _ => rfl⟩, owner⟩
    · refine .inr ⟨fun user row found => ?_, nofun, nofun⟩
      exact eq_false_of_ne_true fun owner => owned ⟨user, row, found, owner⟩

theorem guarded_step {s s' : State} {a : Action} (guarded : Guarded s)
    (quiet : undisturbed s a = true) (h : step s a = some s') : Guarded s' where
  locked := locked_step guarded.locked h
  organizations organization := by
    rcases guarded.organizations organization with kept | vacant
    · exact .inl (kept_step guarded.locked kept quiet h)
    · exact .inr (vacant_step vacant h)

theorem kept_of_owner {s : State} {organization : Uuid} (guarded : Guarded s)
    (owned : HasOwner s.store.committed organization) : Kept s organization := by
  rcases guarded.organizations organization with kept | vacant
  · exact kept
  · obtain ⟨user, row, found, owner⟩ := owned
    exact nomatch (vacant.committed user row found).symm.trans owner

/-- In a run whose statements all remove owners undisturbed, an organization that has an owner has
one from then on. -/
theorem owner_kept (table : Table) (nextTuple : Nat) (earlier later : List Action) (s t : State)
    (quiet : Runs.Meets step (undisturbed · · = true) (start table nextTuple) (earlier ++ later))
    (before : Runs.exec step (start table nextTuple) earlier = some s)
    (after : Runs.exec step s later = some t) (organization : Uuid)
    (owned : HasOwner s.store.committed organization) :
    HasOwner t.store.committed organization := by
  obtain ⟨quietBefore, quietAfter⟩ := Runs.meets_append before quiet
  have guarded : Guarded s := Runs.exec_invariant Guarded
    (fun _ _ _ held quiet moved => guarded_step held quiet moved) (guarded_start table nextTuple)
    quietBefore before
  have both : Guarded t ∧ Kept t organization :=
    Runs.exec_invariant (fun s => Guarded s ∧ Kept s organization) (fun _ _ _ held quiet moved =>
        ⟨guarded_step held.1 quiet moved, kept_step held.1.locked held.2 quiet moved⟩)
      ⟨guarded, kept_of_owner guarded owned⟩ quietAfter after
  exact kept_now both.2

section Sample

instance (table : Table) (organization : Uuid) : Decidable (HasOwner table organization) :=
  decidable_of_iff (table.entries.any fun e => decide (e.1.1 = organization) && e.2.isOwner) <| by
    rw [List.any_eq_true]
    constructor
    · rintro ⟨⟨⟨o, user⟩, row⟩, member, found⟩
      obtain ⟨rfl, owner⟩ := (and_eq_true _ _).mp found |>.imp_left of_decide_eq_true
      exact ⟨user, row, GoMap.get_eq_some.mpr member, owner⟩
    · rintro ⟨user, row, found, owner⟩
      exact ⟨_, GoMap.get_eq_some.mp found, by simp [owner]⟩

/-- Organization 1 with the owners 1 and 2 -/
def twoOwners : Table := (GoMap.empty.set (1, 1) ⟨0, .owner⟩).set (1, 2) ⟨1, .owner⟩

/-- One owner deletes the row of the other one. -/
def removal : List Action :=
  [.begin 0 1, .execute 0, .row 0 (1, 2) .delete, .complete 0, .commit 0]

/-- `delete from organization_memberships where organization_id = 1`, by one of the owners -/
def removalOfAll : List Action :=
  [.begin 0 1, .execute 0, .row 0 (1, 1) .delete, .row 0 (1, 2) .delete, .complete 0, .commit 0]

theorem owner_kept_removal : ∃ t, Runs.exec step (start twoOwners 2) removal = some t ∧
      t.store.committed.get (1, 2) = none ∧ HasOwner t.store.committed 1 := by
  have run : (Runs.exec step (start twoOwners 2) removal).any
      (fun t => decide (t.store.committed.get (1, 2) = none)) = true := by decide +kernel
  obtain ⟨t, after, gone⟩ := (Option.any_eq_true _ _).mp run
  refine ⟨t, after, of_decide_eq_true gone, ?_⟩
  exact owner_kept twoOwners 2 [] removal (start twoOwners 2) t (by decide +kernel) rfl after 1
    (by decide)

/-- Each of the two rows is deleted because the snapshot has the other one. -/
theorem every_owner_removed : HasOwner (start twoOwners 2).store.committed 1 ∧
      ∃ t, Runs.exec step (start twoOwners 2) removalOfAll = some t ∧
        ¬HasOwner t.store.committed 1 := by
  have run : (Runs.exec step (start twoOwners 2) removalOfAll).any
      (fun t => decide (¬HasOwner t.store.committed 1)) = true := by decide +kernel
  obtain ⟨t, after, none⟩ := (Option.any_eq_true _ _).mp run
  exact ⟨by decide, t, after, of_decide_eq_true none⟩

/-- No run of statements gives an owner to an organization that has none. -/
theorem ownerless_kept (table : Table) (nextTuple : Nat) (acts : List Action) (t : State)
    (run : Runs.exec step (start table nextTuple) acts = some t) (organization : Uuid)
    (ownerless : ¬HasOwner table organization) : ¬HasOwner t.store.committed organization := by
  have vacant : Vacant t organization := by
    refine Runs.reachable_invariant (Vacant · organization) (fun _ _ _ => vacant_step) ?_
      ⟨acts, run⟩
    refine ⟨fun user row found => ?_, nofun, nofun⟩
    exact eq_false_of_ne_true fun owner => ownerless ⟨user, row, found, owner⟩
  rintro ⟨user, row, found, owner⟩
  exact nomatch (vacant.committed user row found).symm.trans owner

/-- Organization 2 has no members; someone who would own it comes between the deletion of a row of
organization 1 and its commit. -/
def insertion : List Action :=
  [.begin 0 1, .begin 1 3, .execute 1, .execute 0, .row 0 (1, 2) .delete,
    .row 1 (2, 3) (.insert .owner (some 3)), .complete 0, .commit 0]

theorem ownerless_kept_insertion : ∃ t, Runs.exec step (start twoOwners 2) insertion = some t ∧
      t.store.committed.get (1, 2) = none ∧ ¬HasOwner t.store.committed 2 := by
  have run : (Runs.exec step (start twoOwners 2) insertion).any
      (fun t => decide (t.store.committed.get (1, 2) = none)) = true := by decide +kernel
  obtain ⟨t, after, gone⟩ := (Option.any_eq_true _ _).mp run
  exact ⟨t, after, of_decide_eq_true gone,
    ownerless_kept twoOwners 2 insertion t after 2 (by decide)⟩

end Sample

end FinalOwner
