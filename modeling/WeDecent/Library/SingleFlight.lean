import Mathlib.Data.List.Nodup
import WeDecent.Library.Exclusion
import WeDecent.Library.Runs

/-!
# Executing a keyed operation once

Concurrent callers name an operation by a key. The first of them leads: it executes the
operation and publishes the outcome. The others wait on the leader's operation object,
and a caller that comes later is answered from the table until the outcome expires. Some
outcomes are not worth keeping: their record is dropped, and a waiter may lead in turn.

The table is guarded by one lock. A step of a caller is one critical section or one
action outside the lock, so a schedule of steps is an interleaving of callers.
-/

namespace SingleFlight

open Bool List Option Cells

variable {Key Tag Request Result Cause : Type}

structure Config (Key Tag Request Result : Type) where
  key : Request → Key
  /-- What a repeated request must agree on with the recorded one. -/
  tag : Request → Tag
  retention : Int
  maxEntries : Nat
  keep : Result → Bool

/-- The channel of an operation object is open until its leader has completed it. -/
inductive Status (Result : Type) where
  | pending
  | dropped (result : Result)
  | kept (result : Result) (completedAt : Int)

namespace Status

def result? : Status Result → Option Result
  | .pending => none
  | .dropped r => some r
  | .kept r _ => some r

def Expired (retention now : Int) : Status Result → Prop
  | .pending => False
  | .dropped _ => False
  | .kept _ completedAt => retention ≤ now - completedAt

instance (retention now : Int) (st : Status Result) : Decidable (st.Expired retention now) :=
  match st with
  | .pending => inferInstanceAs (Decidable False)
  | .dropped _ => inferInstanceAs (Decidable False)
  | .kept _ completedAt => inferInstanceAs (Decidable (retention ≤ now - completedAt))

/-- Nothing is lost when the record of such an operation is gone. -/
def Retired (retention now : Int) (st : Status Result) : Prop :=
  (∃ r, st = .dropped r) ∨ st.Expired retention now

end Status

/-- An operation object. `allocatedAt` is the time of the critical section that made it. -/
structure Op (Key Tag Result : Type) where
  key : Key
  tag : Tag
  allocatedAt : Int
  status : Status Result

/-- The operation objects allocated so far, and the map from keys to them. -/
structure Table (Key Tag Result : Type) where
  ops : List (Op Key Tag Result)
  records : List (Key × Nat)

/-- One execution of a request on behalf of an operation object. -/
structure Execution (Request Result : Type) where
  op : Nat
  req : Request
  began : Int
  ended : Option (Result × Int)

inductive Outcome (Result Cause : Type) where
  | result (r : Result)
  | mismatch
  | full
  | cancelled (cause : Cause)
deriving DecidableEq

inductive Pc (Result Cause : Type) where
  | beginning
  | leading (op : Nat)
  | running (op execution : Nat)
  | returned (op : Nat) (r : Result)
  | waiting (op : Nat)
  | looking (op : Nat)
  | ended (o : Outcome Result Cause)
deriving DecidableEq

/-- A caller. `waited` are the operation objects it has waited on, and `missed` those
whose outcome it no longer found, with the time at which it looked. -/
structure Call (Request Result Cause : Type) where
  req : Request
  pc : Pc Result Cause
  waited : List Nat
  missed : List (Nat × Int)

structure State (Key Tag Request Result Cause : Type) where
  clock : Int
  table : Table Key Tag Result
  /-- The executions in the order in which they began. -/
  log : List (Execution Request Result)
  calls : List (Call Request Result Cause)

inductive CallAct (Result Cause : Type) where
  | begin
  | invoke
  | answer (r : Result)
  | complete
  | giveUp (cause : Cause)
  | wake
  | look
deriving DecidableEq

inductive Action (Request Result Cause : Type) where
  | tick (elapsed : Nat)
  | enter (req : Request)
  | call (c : Nat) (a : CallAct Result Cause)

section Machine

variable [DecidableEq Key] [DecidableEq Tag]

namespace Table

def empty : Table Key Tag Result := ⟨[], []⟩

def current (t : Table Key Tag Result) (key : Key) : Option Nat :=
  (t.records.find? fun r => r.1 = key).map Prod.snd

def prune (retention now : Int) (t : Table Key Tag Result) : Table Key Tag Result :=
  { t with records := t.records.filter fun r =>
      !(t.ops[r.2]?).any fun op => decide (op.status.Expired retention now) }

inductive Begun where
  | mismatch
  | full
  | join (op : Nat)
  | lead (op : Nat)

def record (t : Table Key Tag Result) (key : Key) (tag : Tag) (now : Int) : Table Key Tag Result :=
  ⟨t.ops ++ [⟨key, tag, now, .pending⟩], t.records ++ [(key, t.ops.length)]⟩

/-- Prune, then join the recorded operation or record a new one. -/
def start (cfg : Config Key Tag Request Result) (now : Int) (t : Table Key Tag Result)
    (req : Request) : Begun × Table Key Tag Result :=
  let t := t.prune cfg.retention now
  match t.current (cfg.key req) with
  | some i =>
    if (t.ops[i]?).any fun op => decide (op.tag = cfg.tag req) then (.join i, t) else (.mismatch, t)
  | none =>
    if cfg.maxEntries ≤ t.records.length then (.full, t)
    else (.lead t.ops.length, t.record (cfg.key req) (cfg.tag req) now)

def settle (t : Table Key Tag Result) (i : Nat) (st : Status Result) : Table Key Tag Result :=
  { t with ops := t.ops.modify i fun op => { op with status := st } }

def remove (t : Table Key Tag Result) (key : Key) : Table Key Tag Result :=
  { t with records := t.records.filter fun r => decide (r.1 ≠ key) }

/-- Publish the outcome of the leader and wake the waiters. -/
def complete (cfg : Config Key Tag Request Result) (now : Int) (t : Table Key Tag Result)
    (req : Request) (i : Nat) (r : Result) : Table Key Tag Result :=
  if t.current (cfg.key req) = some i then
    if cfg.keep r then t.settle i (.kept r now)
    else (t.settle i (.dropped r)).remove (cfg.key req)
  else t

/-- The outcome a waiter finds: its record must still be there and be completed. -/
def find (t : Table Key Tag Result) (key : Key) (i : Nat) : Option Result :=
  if t.current key = some i then
    match (t.ops[i]?).map Op.status with
    | some (.kept r _) => some r
    | _ => none
  else none

def closed (t : Table Key Tag Result) (i : Nat) : Bool :=
  (t.ops[i]?).any fun op => op.status.result?.isSome

end Table

def State.put (s : State Key Tag Request Result Cause) (c : Nat)
    (call : Call Request Result Cause) : State Key Tag Request Result Cause :=
  { s with calls := s.calls.set c call }

def State.store (s : State Key Tag Request Result Cause) (t : Table Key Tag Result) :
    State Key Tag Request Result Cause :=
  { s with table := t }

/-- The execution for operation object `i` begins. -/
def State.launch (s : State Key Tag Request Result Cause) (i : Nat) (req : Request) :
    State Key Tag Request Result Cause :=
  { s with log := s.log ++ [⟨i, req, s.clock, none⟩] }

def State.report (s : State Key Tag Request Result Cause) (e : Nat) (r : Result) :
    State Key Tag Request Result Cause :=
  { s with log := s.log.modify e fun x => { x with ended := some (r, s.clock) } }

def initial (clock : Int) : State Key Tag Request Result Cause := ⟨clock, Table.empty, [], []⟩

def advance (cfg : Config Key Tag Request Result) (s : State Key Tag Request Result Cause)
    (c : Nat) (call : Call Request Result Cause) :
    Pc Result Cause → CallAct Result Cause → Option (State Key Tag Request Result Cause)
  | .beginning, .begin =>
    match s.table.start cfg s.clock call.req with
    | (.mismatch, t) => some ((s.store t).put c { call with pc := .ended .mismatch })
    | (.full, t) => some ((s.store t).put c { call with pc := .ended .full })
    | (.join i, t) => some ((s.store t).put c
        { call with pc := .waiting i, waited := i :: call.waited })
    | (.lead i, t) => some ((s.store t).put c { call with pc := .leading i })
  | .leading i, .invoke =>
    some ((s.launch i call.req).put c { call with pc := .running i s.log.length })
  | .running i e, .answer r =>
    some ((s.report e r).put c { call with pc := .returned i r })
  | .returned i r, .complete =>
    some ((s.store (s.table.complete cfg s.clock call.req i r)).put c
      { call with pc := .ended (.result r) })
  | .waiting _, .giveUp cause => some (s.put c { call with pc := .ended (.cancelled cause) })
  | .waiting i, .wake =>
    if s.table.closed i then some (s.put c { call with pc := .looking i }) else none
  | .looking i, .look =>
    match s.table.find (cfg.key call.req) i with
    | some r => some (s.put c { call with pc := .ended (.result r) })
    | none => some (s.put c { call with pc := .beginning, missed := (i, s.clock) :: call.missed })
  | _, _ => none

def step (cfg : Config Key Tag Request Result) (s : State Key Tag Request Result Cause) :
    Action Request Result Cause → Option (State Key Tag Request Result Cause)
  | .tick elapsed => some { s with clock := s.clock + elapsed }
  | .enter req => some { s with calls := s.calls ++ [⟨req, .beginning, [], []⟩] }
  | .call c a => (s.calls[c]?).bind fun call => advance cfg s c call call.pc a

inductive Steps (cfg : Config Key Tag Request Result) (s : State Key Tag Request Result Cause) :
    State Key Tag Request Result Cause → Prop
  | tick (elapsed : Nat) : Steps cfg s { s with clock := s.clock + elapsed }
  | enter (req : Request) : Steps cfg s { s with calls := s.calls ++ [⟨req, .beginning, [], []⟩] }
  | refused (c : Nat) (call) (o) (caller : s.calls[c]? = some call) (pc : call.pc = .beginning)
      (refusal : o = .mismatch ∨ o = .full) :
      Steps cfg s ((s.store (s.table.prune cfg.retention s.clock)).put c
        { call with pc := .ended o })
  | joined (c : Nat) (call) (i : Nat) (op)
      (caller : s.calls[c]? = some call) (pc : call.pc = .beginning)
      (current : (s.table.prune cfg.retention s.clock).current (cfg.key call.req) = some i)
      (found : s.table.ops[i]? = some op) (agrees : op.tag = cfg.tag call.req) :
      Steps cfg s ((s.store (s.table.prune cfg.retention s.clock)).put c
        { call with pc := .waiting i, waited := i :: call.waited })
  | led (c : Nat) (call) (caller : s.calls[c]? = some call) (pc : call.pc = .beginning)
      (absent : (s.table.prune cfg.retention s.clock).current (cfg.key call.req) = none)
      (room : (s.table.prune cfg.retention s.clock).records.length < cfg.maxEntries) :
      Steps cfg s ((s.store ((s.table.prune cfg.retention s.clock).record
          (cfg.key call.req) (cfg.tag call.req) s.clock)).put c
        { call with pc := .leading s.table.ops.length })
  | invoked (c : Nat) (call) (i : Nat)
      (caller : s.calls[c]? = some call) (pc : call.pc = .leading i) :
      Steps cfg s ((s.launch i call.req).put c { call with pc := .running i s.log.length })
  | answered (c : Nat) (call) (i e : Nat) (r : Result)
      (caller : s.calls[c]? = some call) (pc : call.pc = .running i e) :
      Steps cfg s ((s.report e r).put c { call with pc := .returned i r })
  | completed (c : Nat) (call) (i : Nat) (r : Result)
      (caller : s.calls[c]? = some call) (pc : call.pc = .returned i r) :
      Steps cfg s ((s.store (s.table.complete cfg s.clock call.req i r)).put c
        { call with pc := .ended (.result r) })
  | gaveUp (c : Nat) (call) (i : Nat) (cause : Cause)
      (caller : s.calls[c]? = some call) (pc : call.pc = .waiting i) :
      Steps cfg s (s.put c { call with pc := .ended (.cancelled cause) })
  | woke (c : Nat) (call) (i : Nat) (caller : s.calls[c]? = some call) (pc : call.pc = .waiting i)
      (closed : s.table.closed i = true) :
      Steps cfg s (s.put c { call with pc := .looking i })
  | replayed (c : Nat) (call) (i : Nat) (r : Result)
      (caller : s.calls[c]? = some call) (pc : call.pc = .looking i)
      (found : s.table.find (cfg.key call.req) i = some r) :
      Steps cfg s (s.put c { call with pc := .ended (.result r) })
  | missed (c : Nat) (call) (i : Nat) (caller : s.calls[c]? = some call) (pc : call.pc = .looking i)
      (gone : s.table.find (cfg.key call.req) i = none) :
      Steps cfg s (s.put c { call with pc := .beginning, missed := (i, s.clock) :: call.missed })

section Inversion

variable {cfg : Config Key Tag Request Result} {s s' : State Key Tag Request Result Cause}
  {c : Nat} {call : Call Request Result Cause}

/-- A caller that does not lead only prunes. -/
theorem Table.start_prunes {now : Int} {t : Table Key Tag Result} {req : Request}
    (joins : ∀ op, (t.start cfg now req).1 ≠ .lead op) :
    (t.start cfg now req).2 = t.prune cfg.retention now := by
  simp only [Table.start] at joins ⊢
  split
  · split <;> rfl
  rename_i absent
  rw [absent] at joins
  split
  · rfl
  · rename_i room
    rw [if_neg room] at joins
    exact absurd rfl (joins _)

theorem steps_of_start (caller : s.calls[c]? = some call) (pc : call.pc = .beginning)
    (h : advance cfg s c call .beginning .begin = some s') : Steps cfg s s' := by
  simp only [advance, Table.start] at h
  split at h
  · rename_i started
    split at started
    · split at started <;> cases started
      cases h
      exact .refused c call _ caller pc (.inl rfl)
    · split at started <;> cases started
  · rename_i started
    split at started
    · split at started <;> cases started
    · split at started <;> cases started
      cases h
      exact .refused c call _ caller pc (.inr rfl)
  · rename_i started
    split at started
    · rename_i current
      split at started <;> cases started
      rename_i agrees
      cases h
      obtain ⟨op, found, same⟩ := (Option.any_eq_true _ _).mp agrees
      exact .joined c call _ op caller pc current found (of_decide_eq_true same)
    · split at started <;> cases started
  · rename_i started
    split at started
    · split at started <;> cases started
    rename_i absent
    split at started <;> cases started
    rename_i room
    cases h
    exact .led c call caller pc absent (Nat.lt_of_not_le room)

variable {a : Action Request Result Cause}

theorem steps_of_step (h : step cfg s a = some s') : Steps cfg s s' := by
  cases a with
  | tick elapsed =>
    cases h
    exact .tick elapsed
  | enter req =>
    cases h
    exact .enter req
  | call c a =>
    obtain ⟨call, caller, h⟩ := bind_eq_some_iff.mp h
    generalize pc : call.pc = at_pc at h
    cases at_pc with
    | beginning => cases a <;> first | exact steps_of_start caller pc h | cases h
    | leading i =>
      cases a <;> cases h
      exact .invoked c call i caller pc
    | running i e =>
      cases a <;> cases h
      exact .answered c call i e _ caller pc
    | returned i r =>
      cases a <;> cases h
      exact .completed c call i r caller pc
    | waiting i =>
      cases a with
      | giveUp cause =>
        cases h
        exact .gaveUp c call i cause caller pc
      | wake =>
        obtain ⟨closed, h⟩ := ite_none_right_eq_some.mp h
        cases h
        exact .woke c call i caller pc closed
      | _ => cases h
    | looking i =>
      cases a with
      | look =>
        simp only [advance] at h
        split at h
        · rename_i found
          cases h
          exact .replayed c call i _ caller pc found
        · rename_i gone
          cases h
          exact .missed c call i caller pc gone
      | _ => cases h
    | ended => cases a <;> cases h

theorem clock_of_step (h : step cfg s a = some s') : s.clock ≤ s'.clock := by
  cases steps_of_step h with
  | tick =>
    simp only
    omega
  | _ => exact Int.le_refl _

theorem Table.start_ops (cfg : Config Key Tag Request Result) (now : Int)
    (t : Table Key Tag Result) (req : Request) :
    (t.start cfg now req).2.ops = t.ops ∨
      (t.start cfg now req).2.ops = t.ops ++ [⟨cfg.key req, cfg.tag req, now, .pending⟩] := by
  simp only [Table.start]
  split
  · split <;> exact .inl rfl
  · split
    · exact .inl rfl
    · exact .inr rfl

theorem table_of_begin (caller : s.calls[c]? = some call) (pc : call.pc = .beginning)
    (h : step cfg s (.call c .begin) = some s') :
    s'.table = (s.table.start cfg s.clock call.req).2 := by
  simp only [step, caller, bind_some, pc, advance] at h
  split at h <;> cases h <;> rename_i begun <;> rw [begun] <;> rfl

/-- Only a caller that begins allocates an operation object. -/
theorem ops_of_other {a : CallAct Result Cause} (other : a ≠ .begin)
    (h : step cfg s (.call c a) = some s') :
    s'.table.ops = s.table.ops ∨ ∃ i st, s'.table.ops = (s.table.settle i st).ops := by
  obtain ⟨call, caller, h⟩ := bind_eq_some_iff.mp h
  generalize call.pc = pc at h
  cases a with
  | begin => exact absurd rfl other
  | complete =>
    cases pc <;> cases h
    simp only [State.put, State.store, Table.complete]
    split
    · split
      · exact .inr ⟨_, _, rfl⟩
      · exact .inr ⟨_, _, rfl⟩
    · exact .inl rfl
  | look =>
    cases pc with
    | looking =>
      simp only [advance] at h
      split at h <;> cases h <;> exact .inl rfl
    | _ => cases h
  | wake =>
    cases pc with
    | waiting =>
      obtain ⟨-, h⟩ := ite_none_right_eq_some.mp h
      cases h
      exact .inl rfl
    | _ => cases h
  | _ =>
    cases pc <;> cases h
    exact .inl rfl

/-- An operation object is allocated when a caller begins, and keeps its key and its time. -/
theorem op_origin {j : Nat} {op : Op Key Tag Result} (h : step cfg s a = some s')
    (found : s'.table.ops[j]? = some op) :
    (∃ old : Op Key Tag Result, s.table.ops[j]? = some old ∧ old.key = op.key ∧
        old.allocatedAt = op.allocatedAt) ∨
      ∃ (c : Nat) (call : Call Request Result Cause), a = .call c .begin ∧
        s.calls[c]? = some call ∧ op.key = cfg.key call.req ∧ op.allocatedAt = s.clock := by
  have same : s'.table.ops = s.table.ops → ∃ old : Op Key Tag Result,
      s.table.ops[j]? = some old ∧ old.key = op.key ∧ old.allocatedAt = op.allocatedAt :=
    fun ops => ⟨op, ops ▸ found, rfl, rfl⟩
  cases a with
  | call c a =>
    by_cases begins : a = .begin
    · subst begins
      obtain ⟨call, caller, begun⟩ := bind_eq_some_iff.mp h
      have pc : call.pc = .beginning := by
        generalize call.pc = pc at begun
        cases pc <;> first | rfl | cases begun
      rw [table_of_begin caller pc h] at found same
      rcases Table.start_ops cfg s.clock s.table call.req with old | pushed
      · exact .inl (same old)
      · rw [pushed] at found
        rcases at_push found with old | ⟨-, rfl⟩
        · exact .inl ⟨op, old, rfl, rfl⟩
        · exact .inr ⟨c, call, rfl, caller, rfl, rfl⟩
    · rcases ops_of_other begins h with ops | ⟨i, st, ops⟩
      · exact .inl (same ops)
      · rw [ops] at found
        obtain ⟨old, at_j, rfl⟩ := at_modify found
        refine .inl ⟨old, at_j, ?_⟩
        split <;> exact ⟨rfl, rfl⟩
  | _ =>
    cases h
    exact .inl (same rfl)

end Inversion

end Machine

namespace Status

variable {retention now later : Int} {st : Status Result}

theorem Expired.mono (h : st.Expired retention now) (le : now ≤ later) :
    st.Expired retention later := by
  cases st with
  | kept =>
    unfold Expired at h ⊢
    omega
  | _ => exact h

theorem Retired.mono (h : st.Retired retention now) (le : now ≤ later) :
    st.Retired retention later :=
  h.imp id fun expired => expired.mono le

theorem not_retired_pending : ¬ (pending : Status Result).Retired retention now := by
  rintro (⟨r, dropped⟩ | expired)
  · cases dropped
  · exact expired

theorem Retired.result (h : st.Retired retention now) : ∃ r, st.result? = some r := by
  cases st with
  | pending => exact absurd h not_retired_pending
  | dropped r => exact ⟨r, rfl⟩
  | kept r => exact ⟨r, rfl⟩

end Status

namespace Table

section Lookup

variable [DecidableEq Key] {t : Table Key Tag Result} {key : Key} {i : Nat}

theorem current_mem (h : t.current key = some i) : (key, i) ∈ t.records := by
  obtain ⟨⟨key', j⟩, found, rfl⟩ := map_eq_some_iff.mp h
  have same := find?_some found
  simp only [decide_eq_true_eq] at same
  subst same
  exact List.mem_of_find?_eq_some found

theorem current_none (h : t.current key = none) : (key, i) ∉ t.records := by
  intro listed
  have differs := find?_eq_none.mp (map_eq_none_iff.mp h) _ listed
  exact differs (decide_eq_true rfl)

theorem current_of_mem (keys : (t.records.map Prod.fst).Nodup) (h : (key, i) ∈ t.records) :
    t.current key = some i := by
  cases found : t.current key with
  | none => exact absurd h (current_none found)
  | some j =>
    have same : (key, j) = (key, i) :=
      inj_on_of_nodup_map keys (current_mem found) h rfl
    cases same
    rfl

end Lookup

/-- An operation object keeps what it is about, and it is final once it is closed. -/
def Extends (t t' : Table Key Tag Result) : Prop :=
  ∀ (i : Nat) op, t.ops[i]? = some op →
    ∃ op', t'.ops[i]? = some op' ∧ op'.key = op.key ∧ op'.tag = op.tag ∧
      op'.allocatedAt = op.allocatedAt ∧ (op.status ≠ .pending → op' = op)

theorem Extends.of_eq {t t' : Table Key Tag Result} (h : t'.ops = t.ops) : t.Extends t' := by
  intro i op found
  exact ⟨op, h ▸ found, rfl, rfl, rfl, fun _ => rfl⟩

/-- What holds of the table between the critical sections. -/
structure Sound (cfg : Config Key Tag Request Result) (now : Int) (t : Table Key Tag Result) :
    Prop where
  keys : (t.records.map Prod.fst).Nodup
  listed : ∀ key (i : Nat), (key, i) ∈ t.records →
    ∃ op, t.ops[i]? = some op ∧ op.key = key ∧ ∀ r, op.status ≠ .dropped r
  bounded : t.records.length ≤ cfg.maxEntries
  held : ∀ (i : Nat) op, t.ops[i]? = some op →
    (op.key, i) ∈ t.records ∨ op.status.Retired cfg.retention now
  allocated : ∀ (i : Nat) op, t.ops[i]? = some op → op.allocatedAt ≤ now
  dropped : ∀ (i : Nat) op r, t.ops[i]? = some op → op.status = .dropped r → cfg.keep r = false
  closed : ∀ (i : Nat) op r (completedAt : Int),
    t.ops[i]? = some op → op.status = .kept r completedAt → op.allocatedAt ≤ completedAt
  order : ∀ (i j : Nat) a b, i < j → t.ops[i]? = some a →
    t.ops[j]? = some b → a.key = b.key → a.status.Retired cfg.retention b.allocatedAt

section Keeps

variable {cfg : Config Key Tag Request Result} {now now' : Int} {t : Table Key Tag Result}

theorem sound_empty : (empty : Table Key Tag Result).Sound cfg now where
  keys := nodup_nil
  listed := by
    intro key i listed
    cases listed
  bounded := Nat.zero_le _
  held := by
    intro i op found
    cases found
  allocated := by
    intro i op found
    cases found
  dropped := by
    intro i op r found
    cases found
  closed := by
    intro i op r completedAt found
    cases found
  order := by
    intro i j a b before found
    cases found

theorem Sound.later (sound : t.Sound cfg now) (le : now ≤ now') : t.Sound cfg now' :=
  { sound with
    held := fun i op found => (sound.held i op found).imp id fun h => h.mono le
    allocated := fun i op found => Int.le_trans (sound.allocated i op found) le }

theorem Sound.prune (sound : t.Sound cfg now) : (t.prune cfg.retention now).Sound cfg now where
  keys := sound.keys.sublist (filter_sublist.map _)
  listed := fun key i listed => sound.listed key i (mem_of_mem_filter listed)
  bounded := Nat.le_trans (length_filter_le _ _) sound.bounded
  held := by
    intro i op found
    have found : t.ops[i]? = some op := found
    refine (sound.held i op found).elim (fun listed => ?_) .inr
    by_cases expired : op.status.Expired cfg.retention now
    · exact .inr (.inr expired)
    · refine .inl (mem_filter.mpr ⟨listed, ?_⟩)
      simp [found, expired]
  allocated := sound.allocated
  dropped := sound.dropped
  closed := sound.closed
  order := sound.order

variable {key : Key} {tag : Tag}

theorem extends_record : t.Extends (t.record key tag now) := by
  intro i op found
  exact ⟨op, at_push_old found, rfl, rfl, rfl, fun _ => rfl⟩

variable [DecidableEq Key]

theorem Sound.record (sound : t.Sound cfg now) (absent : t.current key = none)
    (room : t.records.length < cfg.maxEntries) : (t.record key tag now).Sound cfg now where
  keys := by
    have new : key ∉ t.records.map Prod.fst := by
      intro listed
      obtain ⟨⟨key', i⟩, found, rfl⟩ := List.mem_map.mp listed
      exact current_none absent found
    simp only [Table.record, map_append, map_cons, map_nil]
    rw [← concat_eq_append]
    exact sound.keys.concat new
  listed := by
    intro key' i listed
    rcases mem_append.mp listed with listed | new
    · obtain ⟨op, found, rest⟩ := sound.listed key' i listed
      exact ⟨op, at_push_old found, rest⟩
    · cases mem_singleton.mp new
      exact ⟨_, List.getElem?_concat_length, rfl, fun _ => nofun⟩
  bounded := by
    simp only [Table.record, length_append, length_singleton]
    omega
  held := by
    intro i op found
    rcases at_push found with old | ⟨rfl, rfl⟩
    · exact (sound.held i op old).imp (mem_append_left _) id
    · exact .inl (mem_append_right _ (mem_singleton.mpr rfl))
  allocated := by
    intro i op found
    rcases at_push found with old | ⟨rfl, rfl⟩
    · exact sound.allocated i op old
    · exact Int.le_refl _
  dropped := by
    intro i op r found
    rcases at_push found with old | ⟨rfl, rfl⟩
    · exact sound.dropped i op r old
    · intro status
      cases status
  closed := by
    intro i op r completedAt found
    rcases at_push found with old | ⟨rfl, rfl⟩
    · exact sound.closed i op r completedAt old
    · intro status
      cases status
  order := by
    intro i j a b before first second same
    rcases at_push first with first | ⟨rfl, rfl⟩
    · rcases at_push second with second | ⟨rfl, rfl⟩
      · exact sound.order i j a b before first second same
      · -- the key has no record, so what was recorded under it is gone for good
        refine (sound.held i a first).resolve_left fun listed => ?_
        exact current_none absent (same ▸ listed)
    · rcases at_push second with second | ⟨rfl, rfl⟩
      · have bound := (List.getElem?_eq_some_iff.mp second).1
        omega
      · exact absurd before (Nat.lt_irrefl _)

section Settle

variable {i : Nat} {op : Op Key Tag Result} {st : Status Result}

omit [DecidableEq Key] in
/-- Only the settled object changes. -/
theorem at_settle {j : Nat} {x : Op Key Tag Result} (found : t.ops[i]? = some op)
    (h : (t.settle i st).ops[j]? = some x) :
    (j = i ∧ x = { op with status := st }) ∨ (j ≠ i ∧ t.ops[j]? = some x) := by
  obtain ⟨a, old, rfl⟩ := at_modify h
  by_cases same : i = j
  · subst same
    cases found.symm.trans old
    rw [if_pos rfl]
    exact .inl ⟨rfl, rfl⟩
  · rw [if_neg same]
    exact .inr ⟨Ne.symm same, old⟩

omit [DecidableEq Key] in
theorem extends_settle (found : t.ops[i]? = some op) (pending : op.status = .pending) :
    t.Extends (t.settle i st) := by
  intro j x old
  refine ⟨_, at_modify_of old, ?_⟩
  by_cases same : i = j
  · subst same
    cases found.symm.trans old
    rw [if_pos rfl]
    exact ⟨rfl, rfl, rfl, fun closed => absurd pending closed⟩
  · rw [if_neg same]
    exact ⟨rfl, rfl, rfl, fun _ => rfl⟩

omit [DecidableEq Key] in
theorem Sound.settle_order (sound : t.Sound cfg now) (found : t.ops[i]? = some op)
    (pending : op.status = .pending) (j k : Nat) (a b : Op Key Tag Result) (before : j < k)
    (first : (t.settle i st).ops[j]? = some a) (second : (t.settle i st).ops[k]? = some b)
    (same : a.key = b.key) : a.status.Retired cfg.retention b.allocatedAt := by
  have allocated : ∃ b', t.ops[k]? = some b' ∧ b'.key = b.key ∧ b'.allocatedAt = b.allocatedAt := by
    rcases at_settle found second with ⟨rfl, rfl⟩ | ⟨-, old⟩
    · exact ⟨op, found, rfl, rfl⟩
    · exact ⟨b, old, rfl, rfl⟩
  obtain ⟨b', old, key, time⟩ := allocated
  rw [← time]
  rcases at_settle found first with ⟨rfl, rfl⟩ | ⟨-, first⟩
  · -- a pending object is the last of its key
    have retired := sound.order j k op b' before found old (same.trans key.symm)
    exact absurd (pending ▸ retired) Status.not_retired_pending
  · exact sound.order j k a b' before first old (same.trans key.symm)

omit [DecidableEq Key] in
theorem Sound.settle_allocated (sound : t.Sound cfg now) (found : t.ops[i]? = some op) (j : Nat)
    (x : Op Key Tag Result) (h : (t.settle i st).ops[j]? = some x) : x.allocatedAt ≤ now := by
  rcases at_settle found h with ⟨-, rfl⟩ | ⟨-, old⟩
  · exact sound.allocated i op found
  · exact sound.allocated j x old

theorem Sound.complete {req : Request} {r : Result} (sound : t.Sound cfg now)
    (found : t.ops[i]? = some op) (key : op.key = cfg.key req) (pending : op.status = .pending) :
    (t.complete cfg now req i r).Sound cfg now := by
  have listed : (cfg.key req, i) ∈ t.records :=
    key ▸ (sound.held i op found).resolve_right (pending ▸ Status.not_retired_pending)
  unfold Table.complete
  rw [if_pos (current_of_mem sound.keys listed)]
  by_cases keep : cfg.keep r = true
  · rw [if_pos keep]
    refine ⟨sound.keys, ?_, sound.bounded, ?_, sound.settle_allocated found, ?_, ?_,
      sound.settle_order found pending⟩
    · intro key' j at_key
      obtain ⟨x, old, rest, undropped⟩ := sound.listed key' j at_key
      refine ⟨_, at_modify_of old, ?_⟩
      by_cases same : i = j
      · rw [if_pos same]
        exact ⟨rest, fun _ => nofun⟩
      · rw [if_neg same]
        exact ⟨rest, undropped⟩
    · intro j x at_j
      rcases at_settle found at_j with ⟨rfl, rfl⟩ | ⟨-, old⟩
      · exact .inl (key ▸ listed)
      · exact sound.held j x old
    · intro j x r' at_j
      rcases at_settle found at_j with ⟨rfl, rfl⟩ | ⟨-, old⟩
      · intro status
        cases status
      · exact sound.dropped j x r' old
    · intro j x r' completedAt at_j
      rcases at_settle found at_j with ⟨rfl, rfl⟩ | ⟨-, old⟩
      · intro status
        cases status
        exact sound.allocated j op found
      · exact sound.closed j x r' completedAt old
  · rw [if_neg keep]
    have only : ∀ j, (cfg.key req, j) ∈ t.records → j = i := by
      intro j other
      cases inj_on_of_nodup_map sound.keys other listed rfl
      rfl
    refine ⟨sound.keys.sublist (filter_sublist.map _), ?_,
      Nat.le_trans (length_filter_le _ _) sound.bounded, ?_, sound.settle_allocated found,
      ?_, ?_, sound.settle_order found pending⟩
    · intro key' j at_key
      obtain ⟨at_key, differs⟩ := mem_filter.mp at_key
      obtain ⟨x, old, rest, undropped⟩ := sound.listed key' j at_key
      have other : i ≠ j := by
        rintro rfl
        cases found.symm.trans old
        exact of_decide_eq_true differs (rest.symm.trans key)
      refine ⟨_, at_modify_of old, ?_⟩
      rw [if_neg other]
      exact ⟨rest, undropped⟩
    · intro j x at_j
      rcases at_settle found at_j with ⟨rfl, rfl⟩ | ⟨other, old⟩
      · exact .inr (.inl ⟨r, rfl⟩)
      · refine (sound.held j x old).imp (fun at_key => mem_filter.mpr ⟨at_key, ?_⟩) id
        refine decide_eq_true fun same => other (only j ?_)
        rw [← same]
        exact at_key
    · intro j x r' at_j
      rcases at_settle found at_j with ⟨rfl, rfl⟩ | ⟨-, old⟩
      · intro status
        cases status
        exact eq_false_iff.mpr keep
      · exact sound.dropped j x r' old
    · intro j x r' completedAt at_j
      rcases at_settle found at_j with ⟨rfl, rfl⟩ | ⟨-, old⟩
      · intro status
        cases status
      · exact sound.closed j x r' completedAt old

end Settle

end Keeps

/-- The status that completion gives an operation object. -/
def closing (cfg : Config Key Tag Request Result) (now : Int) (r : Result) : Status Result :=
  if cfg.keep r then .kept r now else .dropped r

theorem closing_result (cfg : Config Key Tag Request Result) (now : Int) (r : Result) :
    (closing cfg now r).result? = some r := by
  unfold closing
  split <;> rfl

theorem complete_ops [DecidableEq Key] {cfg : Config Key Tag Request Result} {now : Int}
    {t : Table Key Tag Result} {req : Request} {i : Nat} {r : Result}
    (current : t.current (cfg.key req) = some i) :
    (t.complete cfg now req i r).ops = (t.settle i (closing cfg now r)).ops := by
  unfold complete closing
  rw [if_pos current]
  split <;> rfl

end Table

namespace Execution

/-- Executions are added at the end, and an execution that has ended is final. -/
def Extends (log log' : List (Execution Request Result)) : Prop :=
  ∀ (k : Nat) e, log[k]? = some e → ∃ e', log'[k]? = some e' ∧ e'.op = e.op ∧ e'.req = e.req ∧
      (e.ended ≠ none → e' = e)

theorem Extends.refl (log : List (Execution Request Result)) : Extends log log :=
  fun _ e found => ⟨e, found, rfl, rfl, fun _ => rfl⟩

/-- An execution whose end is on record is found in every longer log. -/
theorem Extends.ended {log log' : List (Execution Request Result)} (grows : Extends log log')
    {e : Execution Request Result} (found : e ∈ log) (past : e.ended ≠ none) : e ∈ log' := by
  obtain ⟨k, at_k⟩ := mem_iff_getElem?.mp found
  obtain ⟨e', at_k', -, -, same⟩ := grows k e at_k
  exact mem_iff_getElem?.mpr ⟨k, same past ▸ at_k'⟩

/-- The executions of a log belong to operation objects of the table, one each, and those
of one key began in the order of their objects. -/
structure Sound (cfg : Config Key Tag Request Result) (t : Table Key Tag Result)
    (log : List (Execution Request Result)) : Prop where
  origin : ∀ e ∈ log, ∃ op, t.ops[e.op]? = some op ∧
    op.key = cfg.key e.req ∧ op.tag = cfg.tag e.req ∧ op.allocatedAt ≤ e.began
  once : ∀ (k l : Nat) e f, log[k]? = some e → log[l]? = some f → e.op = f.op → k = l
  order : ∀ (k l : Nat) e f, k < l → log[k]? = some e →
    log[l]? = some f → cfg.key e.req = cfg.key f.req → e.op < f.op
  settled : ∀ (i : Nat) op r, t.ops[i]? = some op →
    op.status.result? = some r → ∃ e ∈ log, e.op = i ∧ ∃ u, e.ended = some (r, u) ∧
      ∀ r' completedAt, op.status = .kept r' completedAt → u ≤ completedAt

end Execution

def Pc.leads : Pc Result Cause → Option Nat
  | .leading i => some i
  | .running i _ => some i
  | .returned i _ => some i
  | .beginning => none
  | .waiting _ => none
  | .looking _ => none
  | .ended _ => none

/-- The caller's operation object, with what the caller asked for. -/
def Named (cfg : Config Key Tag Request Result) (t : Table Key Tag Result) (req : Request)
    (i : Nat) (P : Status Result → Prop) : Prop :=
  ∃ op, t.ops[i]? = some op ∧ op.key = cfg.key req ∧ op.tag = cfg.tag req ∧ P op.status

/-- What a caller knows at each point. -/
def Pc.Sound (cfg : Config Key Tag Request Result) (now : Int) (t : Table Key Tag Result)
    (log : List (Execution Request Result)) (req : Request) : Pc Result Cause → Prop
  | .beginning => True
  | .leading i => Named cfg t req i (· = .pending) ∧ ∀ e ∈ log, e.op ≠ i
  | .running i k => Named cfg t req i (· = .pending) ∧
      ∃ e, log[k]? = some e ∧ e.op = i ∧ e.req = req ∧ e.ended = none
  | .returned i r => Named cfg t req i (· = .pending) ∧
      ∃ e ∈ log, e.op = i ∧ e.req = req ∧ ∃ u, e.ended = some (r, u) ∧ u ≤ now
  | .waiting i => Named cfg t req i fun _ => True
  | .looking i => Named cfg t req i (· ≠ .pending)
  | .ended (.result r) => ∃ e ∈ log, cfg.key e.req = cfg.key req ∧ cfg.tag e.req = cfg.tag req ∧
      ∃ u, e.ended = some (r, u)
  | .ended .mismatch => True
  | .ended .full => True
  | .ended (.cancelled _) => True

/-- Where a caller that waited on operation object `i` stands. -/
def Pc.Awaits (log : List (Execution Request Result)) (i : Nat) : Pc Result Cause → Prop
  | .waiting j => j = i
  | .looking j => j = i
  | .ended (.result r) => ∃ e ∈ log, e.op = i ∧ ∃ u, e.ended = some (r, u)
  | .ended (.cancelled _) => True
  | .ended .mismatch => False
  | .ended .full => False
  | .beginning => False
  | .leading _ => False
  | .running _ _ => False
  | .returned _ _ => False

structure Call.Sound (cfg : Config Key Tag Request Result) (now : Int) (t : Table Key Tag Result)
    (log : List (Execution Request Result)) (call : Call Request Result Cause) : Prop where
  place : call.pc.Sound cfg now t log call.req
  waited : ∀ i ∈ call.waited, (∃ u, (i, u) ∈ call.missed) ∨ call.pc.Awaits log i
  missed : ∀ i u, (i, u) ∈ call.missed → u ≤ now ∧
    Named cfg t call.req i fun st => st.Retired cfg.retention u

section Callers

variable {cfg : Config Key Tag Request Result} {now now' : Int} {t t' : Table Key Tag Result}
  {log log' : List (Execution Request Result)} {req : Request}

theorem Named.closed_mono {i : Nat} {P : Status Result → Prop} (h : Named cfg t req i P)
    (grows : t.Extends t') (closed : ∀ st, P st → st ≠ .pending) : Named cfg t' req i P := by
  obtain ⟨op, found, key, tag, holds⟩ := h
  obtain ⟨op', found', -, -, -, same⟩ := grows i op found
  cases same (closed _ holds)
  exact ⟨op, found', key, tag, holds⟩

theorem Named.mono {i : Nat} (h : Named cfg t req i fun _ => True) (grows : t.Extends t') :
    Named cfg t' req i fun _ => True := by
  obtain ⟨op, found, key, tag, -⟩ := h
  obtain ⟨op', found', key', tag', -, -⟩ := grows i op found
  exact ⟨op', found', key'.trans key, tag'.trans tag, trivial⟩

/-- What another caller's step leaves to the leader of operation object `i`. -/
def Untouched (t t' : Table Key Tag Result) (log log' : List (Execution Request Result))
    (i : Nat) : Prop :=
  t'.ops[i]? = t.ops[i]? ∧ ∀ (k : Nat) e, log'[k]? = some e → e.op = i → log[k]? = some e

theorem Pc.Sound.mono {pc : Pc Result Cause} (h : pc.Sound cfg now t log req) (le : now ≤ now')
    (tables : t.Extends t') (logs : Execution.Extends log log')
    (mine : ∀ i, pc.leads = some i → Untouched t t' log log' i) :
    pc.Sound cfg now' t' log' req := by
  cases pc with
  | beginning => exact trivial
  | leading i =>
    obtain ⟨same, entries⟩ := mine i rfl
    refine ⟨?_, fun e found at_i => ?_⟩
    · simpa [Named, same] using h.1
    · obtain ⟨k, at_k⟩ := mem_iff_getElem?.mp found
      exact h.2 e (mem_of_getElem? (entries k e at_k at_i)) at_i
  | running i k =>
    obtain ⟨same, entries⟩ := mine i rfl
    obtain ⟨led, e, at_k, at_i, asked, unended⟩ := h
    obtain ⟨e', at_k', at_i', -, -⟩ := logs k e at_k
    cases at_k.symm.trans (entries k e' at_k' (at_i'.trans at_i))
    refine ⟨?_, e, at_k', at_i, asked, unended⟩
    simpa [Named, same] using led
  | returned i =>
    obtain ⟨same, entries⟩ := mine i rfl
    obtain ⟨led, e, found, at_i, asked, u, ended, past⟩ := h
    refine ⟨?_, e, logs.ended found ?_, at_i, asked, u, ended, Int.le_trans past le⟩
    · simpa [Named, same] using led
    · simp [ended]
  | waiting => exact Named.mono h tables
  | looking i =>
    have named : Named cfg t req i (· ≠ .pending) := h
    exact named.closed_mono tables fun _ => id
  | ended o =>
    cases o with
    | result =>
      obtain ⟨e, found, key, tag, u, ended⟩ := h
      exact ⟨e, logs.ended found (by simp [ended]), key, tag, u, ended⟩
    | _ => exact trivial

theorem Pc.Awaits.mono {pc : Pc Result Cause} {i : Nat} (h : pc.Awaits log i)
    (logs : Execution.Extends log log') : pc.Awaits log' i := by
  cases pc with
  | ended o =>
    cases o with
    | result =>
      obtain ⟨e, found, at_i, u, ended⟩ := h
      exact ⟨e, logs.ended found (by simp [ended]), at_i, u, ended⟩
    | cancelled => exact trivial
    | _ => exact h
  | _ => exact h

theorem Call.Sound.mono {call : Call Request Result Cause} (h : call.Sound cfg now t log)
    (le : now ≤ now') (tables : t.Extends t') (logs : Execution.Extends log log')
    (mine : ∀ i, call.pc.leads = some i → Untouched t t' log log' i) :
    call.Sound cfg now' t' log' where
  place := h.place.mono le tables logs mine
  waited := fun i at_i => (h.waited i at_i).imp id fun awaits => awaits.mono logs
  missed := by
    intro i u at_i
    obtain ⟨past, named⟩ := h.missed i u at_i
    refine ⟨Int.le_trans past le, named.closed_mono tables ?_⟩
    intro st retired pending
    exact Status.not_retired_pending (pending ▸ retired)

theorem Call.Sound.at_pc {call : Call Request Result Cause} {pc : Pc Result Cause}
    (h : call.Sound cfg now t log) (at_pc : call.pc = pc) : pc.Sound cfg now t log call.req :=
  at_pc ▸ h.place

/-- A caller that moves on keeps its history. -/
theorem Call.Sound.moved {call : Call Request Result Cause} {pc : Pc Result Cause}
    (h : call.Sound cfg now t log) (place : pc.Sound cfg now t log call.req)
    (awaits : ∀ i ∈ call.waited, call.pc.Awaits log i → pc.Awaits log i) :
    Call.Sound cfg now t log { call with pc := pc } where
  place := place
  waited := fun i at_i => (h.waited i at_i).imp id (awaits i at_i)
  missed := h.missed

end Callers

structure Sound (cfg : Config Key Tag Request Result) (s : State Key Tag Request Result Cause) :
    Prop where
  table : s.table.Sound cfg s.clock
  log : Execution.Sound cfg s.table s.log
  calls : ∀ (c : Nat) call, s.calls[c]? = some call → call.Sound cfg s.clock s.table s.log
  leaders : ∀ (c d : Nat) x y (i : Nat), s.calls[c]? = some x →
    s.calls[d]? = some y → x.pc.leads = some i → y.pc.leads = some i → c = d

section Runs

variable {cfg : Config Key Tag Request Result} {s s' : State Key Tag Request Result Cause}

theorem sound_initial [DecidableEq Key] [DecidableEq Tag] (clock : Int) :
    Sound cfg (initial clock : State Key Tag Request Result Cause) where
  table := Table.sound_empty
  log := by
    refine ⟨?_, ?_, ?_, ?_⟩
    · intro e found
      cases found
    · intro k l e f found
      cases found
    · intro k l e f before found
      cases found
    · intro i op r found
      cases found
  calls := by
    intro c call found
    cases found
  leaders := by
    intro c d x y i found
    cases found

variable {t : Table Key Tag Result} {i : Nat}

/-- A leader's object is allocated. -/
theorem Pc.Sound.leads_named {now : Int} {log : List (Execution Request Result)} {req : Request}
    {pc : Pc Result Cause} (h : pc.Sound cfg now t log req) (leads : pc.leads = some i) :
    Named cfg t req i (· = .pending) := by
  cases pc with
  | beginning => cases leads
  | waiting => cases leads
  | looking => cases leads
  | ended => cases leads
  | _ =>
    cases leads
    exact h.1

variable {c : Nat} {call call' : Call Request Result Cause}

theorem Execution.Sound.record {log : List (Execution Request Result)} {key : Key} {tag : Tag}
    {now : Int} (sound : Execution.Sound cfg t log) :
    Execution.Sound cfg (t.record key tag now) log where
  origin := by
    intro e found
    obtain ⟨op, at_op, rest⟩ := sound.origin e found
    exact ⟨op, at_push_old at_op, rest⟩
  once := sound.once
  order := sound.order
  settled := by
    intro i op r found result
    rcases at_push found with old | ⟨-, rfl⟩
    · exact sound.settled i op r old result
    · cases result

theorem Table.find_cases [DecidableEq Key] {key : Key} {r : Result} (h : t.find key i = some r) :
    ∃ (op : Op Key Tag Result) (completedAt : Int), t.ops[i]? = some op ∧
      op.status = .kept r completedAt := by
  obtain ⟨-, h⟩ := ite_none_right_eq_some.mp h
  split at h
  · rename_i status
    cases h
    obtain ⟨op, found, status⟩ := map_eq_some_iff.mp status
    exact ⟨op, _, found, status⟩
  · cases h

section Caller

variable (sound : Sound cfg s) (caller : s.calls[c]? = some call)

include sound caller

/-- A step of one caller: its own place is shown, and the others are untouched. -/
theorem Sound.put (clock : s'.clock = s.clock) (calls : s'.calls = s.calls)
    (table : s'.table.Sound cfg s.clock) (log : Execution.Sound cfg s'.table s'.log)
    (tables : s.table.Extends s'.table) (logs : Execution.Extends s.log s'.log)
    (others : ∀ i, call.pc.leads ≠ some i → i < s.table.ops.length →
      Untouched s.table s'.table s.log s'.log i)
    (mine : call'.Sound cfg s.clock s'.table s'.log)
    (leads : ∀ i, call'.pc.leads = some i → call.pc.leads = some i ∨ s.table.ops.length ≤ i) :
    Sound cfg (s'.put c call') := by
  have allocated : ∀ (d : Nat) x (i : Nat), s.calls[d]? = some x →
      x.pc.leads = some i → i < s.table.ops.length := by
    intro d x i at_d leads
    obtain ⟨op, found, -⟩ := (sound.calls d x at_d).place.leads_named leads
    exact (List.getElem?_eq_some_iff.mp found).1
  refine ⟨?_, log, ?_, ?_⟩
  · simpa [State.put, clock] using table
  · intro d x at_d
    simp only [State.put, calls, clock] at at_d ⊢
    rcases at_set at_d with ⟨rfl, rfl⟩ | ⟨other, old⟩
    · exact mine
    · refine (sound.calls d x old).mono (Int.le_refl _) tables logs fun i leading => ?_
      refine others i (fun also => other ?_) (allocated d x i old leading)
      exact sound.leaders d c x call i old caller leading also
  · intro d e x y i
    simp only [State.put, calls]
    -- the caller that moves leads what it led before or an object that is new
    refine Exclusion.alone_set (fun d e x y => sound.leaders d e x y i) caller
      (fun leading => (leads i leading).imp_right ?_) d e x y
    intro new f z _ old leading
    exact absurd (allocated f z i old leading) (Nat.not_lt.mpr new)

/-- A step that changes nothing but the caller. -/
theorem Sound.move (mine : call'.Sound cfg s.clock s.table s.log)
    (leads : call'.pc.leads = none) : Sound cfg (s.put c call') := by
  refine sound.put caller rfl rfl sound.table sound.log (.of_eq rfl) (.refl _) ?_ mine ?_
  · intro i _ _
    exact ⟨rfl, fun _ _ found _ => found⟩
  · intro i leading
    cases leads.symm.trans leading

/-- A step that prunes the table and moves the caller. -/
theorem Sound.pruned (mine : call'.Sound cfg s.clock s.table s.log)
    (leads : call'.pc.leads = none) :
    Sound cfg ((s.store (s.table.prune cfg.retention s.clock)).put c call') := by
  refine sound.put caller rfl rfl sound.table.prune ?_ (.of_eq rfl) (.refl _) ?_ ?_ ?_
  · exact ⟨sound.log.origin, sound.log.once, sound.log.order, sound.log.settled⟩
  · intro i _ _
    exact ⟨rfl, fun _ _ found _ => found⟩
  · exact mine.mono (Int.le_refl _) (.of_eq rfl) (.refl _) fun i _ =>
      ⟨rfl, fun _ _ found _ => found⟩
  · intro i leading
    cases leads.symm.trans leading

theorem Sound.led [DecidableEq Key] (pc : call.pc = .beginning)
    (absent : (s.table.prune cfg.retention s.clock).current (cfg.key call.req) = none)
    (room : (s.table.prune cfg.retention s.clock).records.length < cfg.maxEntries) :
    Sound cfg ((s.store ((s.table.prune cfg.retention s.clock).record (cfg.key call.req)
      (cfg.tag call.req) s.clock)).put c { call with pc := .leading s.table.ops.length }) := by
  have pruned : Execution.Sound cfg (s.table.prune cfg.retention s.clock) s.log :=
    ⟨sound.log.origin, sound.log.once, sound.log.order, sound.log.settled⟩
  have grows : s.table.Extends ((s.table.prune cfg.retention s.clock).record (cfg.key call.req)
      (cfg.tag call.req) s.clock) := Table.extends_record
  refine sound.put caller rfl rfl (sound.table.prune.record absent room) pruned.record grows
    (.refl _) ?_ ⟨⟨⟨_, List.getElem?_concat_length, rfl, rfl, rfl⟩, ?_⟩, ?_, ?_⟩ ?_
  · intro i _ bound
    exact ⟨List.getElem?_append_left bound, fun _ _ found _ => found⟩
  · intro e found same
    obtain ⟨op, at_op, -⟩ := sound.log.origin e found
    have bound := (List.getElem?_eq_some_iff.mp at_op).1
    omega
  · intro i at_i
    refine .inl (((sound.calls c call caller).waited i at_i).resolve_right ?_)
    rw [pc]
    exact id
  · have old := (sound.calls c call caller).mono (Int.le_refl _) grows (.refl _) ?_
    · exact old.missed
    · rw [pc]
      intro i leads
      cases leads
  · intro i leads
    cases leads
    exact .inr (Nat.le_refl _)

theorem Sound.invoked (pc : call.pc = .leading i) :
    Sound cfg ((s.launch i call.req).put c { call with pc := .running i s.log.length }) := by
  have before := sound.calls c call caller
  obtain ⟨named, unused⟩ := before.at_pc pc
  obtain ⟨op, found, key, tag, pending⟩ := named
  have grows : Execution.Extends s.log (s.launch i call.req).log := fun k e at_k =>
    ⟨e, at_push_old at_k, rfl, rfl, fun _ => rfl⟩
  refine sound.put caller rfl rfl sound.table ?_ (.of_eq rfl) grows ?_
    ⟨⟨⟨op, found, key, tag, pending⟩, _, List.getElem?_concat_length, rfl, rfl, rfl⟩, ?_,
      before.missed⟩ ?_
  · refine ⟨?_, ?_, ?_, ?_⟩
    · intro e member
      rcases mem_append.mp member with old | new
      · exact sound.log.origin e old
      · cases mem_singleton.mp new
        exact ⟨op, found, key, tag, sound.table.allocated i op found⟩
    · intro k l e f at_k at_l same
      rcases at_push at_k with first | ⟨rfl, rfl⟩
      · rcases at_push at_l with second | ⟨rfl, rfl⟩
        · exact sound.log.once k l e f first second same
        · exact absurd same (unused e (mem_of_getElem? first))
      · rcases at_push at_l with second | ⟨rfl, rfl⟩
        · exact absurd same.symm (unused f (mem_of_getElem? second))
        · rfl
    · intro k l e f before at_k at_l same
      rcases at_push at_k with first | ⟨rfl, rfl⟩
      · rcases at_push at_l with second | ⟨rfl, rfl⟩
        · exact sound.log.order k l e f before first second same
        -- an object of the key that is not older would make this one closed
        obtain ⟨a, at_a, key_a, -⟩ := sound.log.origin e (mem_of_getElem? first)
        refine Nat.lt_of_le_of_ne (Nat.le_of_not_lt fun older => ?_)
          (unused e (mem_of_getElem? first))
        have retired := sound.table.order i e.op op a older found at_a
          (key.trans (same.symm.trans key_a.symm))
        exact Status.not_retired_pending (pending ▸ retired)
      · rcases at_push at_l with second | ⟨rfl, rfl⟩
        · have bound := (List.getElem?_eq_some_iff.mp second).1
          omega
        · exact absurd before (Nat.lt_irrefl _)
    · intro j x r at_j result
      obtain ⟨e, member, rest⟩ := sound.log.settled j x r at_j result
      exact ⟨e, mem_append_left _ member, rest⟩
  · intro j other _
    refine ⟨rfl, fun k e at_k same => ?_⟩
    rcases at_push at_k with old | ⟨-, rfl⟩
    · exact old
    · exact absurd (pc ▸ congrArg some same) other
  · intro j at_j
    refine .inl ((before.waited j at_j).resolve_right ?_)
    rw [pc]
    exact id
  · intro j leads
    rw [pc]
    exact .inl leads

theorem Sound.answered {e : Nat} {r : Result} (pc : call.pc = .running i e) :
    Sound cfg ((s.report e r).put c { call with pc := .returned i r }) := by
  have before := sound.calls c call caller
  obtain ⟨named, x, at_e, at_i, asked, unended⟩ := before.at_pc pc
  have entry : ∀ (k : Nat) y, (s.report e r).log[k]? = some y →
      ∃ z, s.log[k]? = some z ∧ y.op = z.op ∧ y.req = z.req ∧
        y.began = z.began ∧ (k ≠ e → y = z) := by
    intro k y at_k
    obtain ⟨z, old, rfl⟩ := at_modify at_k
    refine ⟨z, old, ?_⟩
    by_cases same : e = k
    · rw [if_pos same]
      exact ⟨rfl, rfl, rfl, fun other => absurd same.symm other⟩
    · rw [if_neg same]
      exact ⟨rfl, rfl, rfl, fun _ => rfl⟩
  have here : (s.report e r).log[e]? = some { x with ended := some (r, s.clock) } := by
    have changed := at_modify_of (f := fun x : Execution Request Result =>
      { x with ended := some (r, s.clock) }) (i := e) at_e
    rwa [if_pos rfl] at changed
  have grows : Execution.Extends s.log (s.report e r).log := by
    intro k y at_k
    refine ⟨_, at_modify_of at_k, ?_⟩
    by_cases same : e = k
    · subst same
      cases at_e.symm.trans at_k
      rw [if_pos rfl]
      exact ⟨rfl, rfl, fun past => absurd unended past⟩
    · rw [if_neg same]
      exact ⟨rfl, rfl, fun _ => rfl⟩
  refine sound.put caller rfl rfl sound.table ?_ (.of_eq rfl) grows ?_
    ⟨⟨named, _, mem_of_getElem? here, at_i, asked, s.clock, rfl, Int.le_refl _⟩, ?_,
      before.missed⟩ ?_
  · refine ⟨?_, ?_, ?_, ?_⟩
    · intro y member
      obtain ⟨k, at_k⟩ := mem_iff_getElem?.mp member
      obtain ⟨z, old, op, req, began, -⟩ := entry k y at_k
      rw [op, req, began]
      exact sound.log.origin z (mem_of_getElem? old)
    · intro k l y z at_k at_l same
      obtain ⟨y', old, op, -⟩ := entry k y at_k
      obtain ⟨z', old', op', -⟩ := entry l z at_l
      exact sound.log.once k l y' z' old old' (op ▸ op' ▸ same)
    · intro k l y z earlier at_k at_l same
      obtain ⟨y', old, op, req, -⟩ := entry k y at_k
      obtain ⟨z', old', op', req', -⟩ := entry l z at_l
      rw [op, op']
      exact sound.log.order k l y' z' earlier old old' (req ▸ req' ▸ same)
    · intro j a result at_j settled
      obtain ⟨y, member, rest⟩ := sound.log.settled j a result at_j settled
      obtain ⟨-, u, ended, -⟩ := id rest
      exact ⟨y, grows.ended member (by simp [ended]), rest⟩
  · intro j other _
    refine ⟨rfl, fun k y at_k same => ?_⟩
    obtain ⟨z, old, op, -, -, unchanged⟩ := entry k y at_k
    have elsewhere : k ≠ e := by
      rintro rfl
      cases at_e.symm.trans old
      exact other (pc ▸ congrArg some (at_i.symm.trans (op.symm.trans same)))
    exact unchanged elsewhere ▸ old
  · intro j at_j
    refine .inl ((before.waited j at_j).resolve_right ?_)
    rw [pc]
    exact id
  · intro j leads
    rw [pc]
    exact .inl leads

theorem Sound.completed [DecidableEq Key] {r : Result} (pc : call.pc = .returned i r) :
    Sound cfg ((s.store (s.table.complete cfg s.clock call.req i r)).put c
      { call with pc := .ended (.result r) }) := by
  have before := sound.calls c call caller
  obtain ⟨⟨op, found, key, -, pending⟩, e, member, at_i, asked, u, ended, past⟩ := before.at_pc pc
  have current : s.table.current (cfg.key call.req) = some i := by
    refine Table.current_of_mem sound.table.keys (key ▸ ?_)
    exact (sound.table.held i op found).resolve_right (pending ▸ Status.not_retired_pending)
  have ops : (s.table.complete cfg s.clock call.req i r).ops =
      (s.table.settle i (Table.closing cfg s.clock r)).ops := Table.complete_ops current
  have settled : ∀ (j : Nat) x, (s.table.complete cfg s.clock call.req i r).ops[j]? = some x →
      (j = i ∧ x = { op with status := Table.closing cfg s.clock r }) ∨
        (j ≠ i ∧ s.table.ops[j]? = some x) := by
    intro j x at_j
    exact Table.at_settle found (ops ▸ at_j)
  have grows : s.table.Extends (s.table.complete cfg s.clock call.req i r) := by
    intro j x at_j
    have settles : s.table.Extends (s.table.settle i (Table.closing cfg s.clock r)) :=
      Table.extends_settle found pending
    obtain ⟨x', at_j', rest⟩ := settles j x at_j
    exact ⟨x', ops ▸ at_j', rest⟩
  refine sound.put caller rfl rfl (sound.table.complete found key pending) ?_ grows (.refl _) ?_
    ⟨⟨e, member, asked ▸ rfl, asked ▸ rfl, u, ended⟩, ?_, ?_⟩ ?_
  · refine ⟨?_, sound.log.once, sound.log.order, ?_⟩
    · intro f listed
      obtain ⟨x, at_x, key', tag', time⟩ := sound.log.origin f listed
      obtain ⟨x', at_x', same_key, same_tag, same_time, -⟩ := grows f.op x at_x
      exact ⟨x', at_x', same_key.trans key', same_tag.trans tag', same_time ▸ time⟩
    · intro j x result at_j closed
      rcases settled j x at_j with ⟨rfl, rfl⟩ | ⟨-, old⟩
      · rw [Table.closing_result] at closed
        cases closed
        refine ⟨e, member, at_i, u, ended, fun r' completedAt status => ?_⟩
        unfold Table.closing at status
        split at status <;> cases status
        exact past
      · exact sound.log.settled j x result old closed
  · intro j other bound
    refine ⟨?_, fun _ _ found _ => found⟩
    have elsewhere : i ≠ j := by
      rintro rfl
      exact other (pc ▸ rfl)
    simp only [State.store, ops, Table.settle]
    exact List.getElem?_modify_ne _ _ elsewhere
  · intro j at_j
    refine .inl ((before.waited j at_j).resolve_right ?_)
    rw [pc]
    exact id
  · intro j time at_j
    obtain ⟨le, named⟩ := before.missed j time at_j
    refine ⟨le, named.closed_mono grows fun st retired open_ => ?_⟩
    exact Status.not_retired_pending (open_ ▸ retired)
  · intro j leads
    cases leads

theorem Sound.joined [DecidableEq Key] {op : Op Key Tag Result} (pc : call.pc = .beginning)
    (current : (s.table.prune cfg.retention s.clock).current (cfg.key call.req) = some i)
    (found : s.table.ops[i]? = some op) (agrees : op.tag = cfg.tag call.req) :
    Sound cfg ((s.store (s.table.prune cfg.retention s.clock)).put c
      { call with pc := .waiting i, waited := i :: call.waited }) := by
  have before := sound.calls c call caller
  refine sound.pruned caller ⟨?_, ?_, before.missed⟩ rfl
  · obtain ⟨x, at_i, key, -⟩ := sound.table.prune.listed _ i (Table.current_mem current)
    cases found.symm.trans at_i
    exact ⟨op, found, key, agrees, trivial⟩
  · intro j at_j
    rcases mem_cons.mp at_j with rfl | old
    · exact .inr rfl
    · refine .inl ((before.waited j old).resolve_right ?_)
      rw [pc]
      exact id

theorem Sound.woke (pc : call.pc = .waiting i) (closed : s.table.closed i = true) :
    Sound cfg (s.put c { call with pc := .looking i }) := by
  have before := sound.calls c call caller
  obtain ⟨op, found, key, tag, -⟩ := before.at_pc pc
  obtain ⟨x, at_i, some_result⟩ := (Option.any_eq_true _ _).mp closed
  cases found.symm.trans at_i
  refine sound.move caller (before.moved ⟨op, found, key, tag, ?_⟩ ?_) rfl
  · intro pending
    rw [pending] at some_result
    cases some_result
  · rw [pc]
    exact fun _ _ awaits => awaits

theorem Sound.replayed [DecidableEq Key] {r : Result} (pc : call.pc = .looking i)
    (found : s.table.find (cfg.key call.req) i = some r) :
    Sound cfg (s.put c { call with pc := .ended (.result r) }) := by
  have before := sound.calls c call caller
  obtain ⟨x, at_x, key, tag, -⟩ := before.at_pc pc
  obtain ⟨op, time, at_i, status⟩ := Table.find_cases found
  cases at_x.symm.trans at_i
  obtain ⟨e, member, of_i, u, ended, -⟩ := sound.log.settled i x r at_x (by rw [status]; rfl)
  obtain ⟨y, at_y, key', tag', -⟩ := sound.log.origin e member
  rw [of_i] at at_y
  cases at_x.symm.trans at_y
  refine sound.move caller (before.moved
    ⟨e, member, key'.symm.trans key, tag'.symm.trans tag, u, ended⟩ ?_) rfl
  rw [pc]
  rintro j - rfl
  exact ⟨e, member, of_i, u, ended⟩

theorem Sound.missed [DecidableEq Key] (pc : call.pc = .looking i)
    (gone : s.table.find (cfg.key call.req) i = none) :
    Sound cfg (s.put c { call with pc := .beginning, missed := (i, s.clock) :: call.missed }) := by
  have before := sound.calls c call caller
  obtain ⟨op, found, key, tag, closed⟩ := before.at_pc pc
  have retired : op.status.Retired cfg.retention s.clock := by
    refine (sound.table.held i op found).resolve_left fun listed => ?_
    -- a record of a closed object is completed, so the look would have found it
    obtain ⟨x, at_i, -, undropped⟩ := sound.table.listed _ i listed
    cases found.symm.trans at_i
    have current := Table.current_of_mem sound.table.keys (key ▸ listed)
    unfold Table.find at gone
    rw [if_pos current, found, map_some] at gone
    cases status : op.status with
    | pending => exact closed status
    | dropped r => exact undropped r status
    | kept =>
      rw [status] at gone
      cases gone
  refine sound.move caller ⟨trivial, ?_, ?_⟩ rfl
  · intro j at_j
    refine .inl ?_
    rcases before.waited j at_j with ⟨u, old⟩ | awaits
    · exact ⟨u, mem_cons_of_mem _ old⟩
    · rw [pc] at awaits
      cases awaits
      exact ⟨s.clock, mem_cons_self⟩
  · intro j u at_j
    rcases mem_cons.mp at_j with new | old
    · cases new
      exact ⟨Int.le_refl _, op, found, key, tag, retired⟩
    · exact before.missed j u old

end Caller

variable [DecidableEq Key]

theorem Sound.steps (sound : Sound cfg s) (h : Steps cfg s s') : Sound cfg s' := by
  cases h with
  | tick elapsed =>
    have le : s.clock ≤ s.clock + elapsed := by omega
    refine ⟨sound.table.later le, sound.log, ?_, sound.leaders⟩
    intro c call caller
    exact (sound.calls c call caller).mono le (.of_eq rfl) (.refl _)
      fun i _ => ⟨rfl, fun _ _ found _ => found⟩
  | enter =>
    refine ⟨sound.table, sound.log, ?_, ?_⟩
    · intro c call caller
      rcases at_push caller with old | ⟨-, rfl⟩
      · exact sound.calls c call old
      · exact ⟨trivial, nofun, nofun⟩
    · intro c d x y i
      exact Exclusion.alone_push (fun c d x y => sound.leaders c d x y i) (by rintro ⟨⟩) c d x y
  | refused c call o caller pc refusal =>
    have before := sound.calls c call caller
    refine sound.pruned caller (before.moved ?_ ?_) rfl
    · rcases refusal with rfl | rfl <;> exact trivial
    · rw [pc]
      exact fun _ _ => False.elim
  | joined c call i _ caller pc current found agrees =>
    exact sound.joined caller pc current found agrees
  | led c call caller pc absent room => exact sound.led caller pc absent room
  | invoked c call i caller pc => exact sound.invoked caller pc
  | answered c call i e r caller pc => exact sound.answered caller pc
  | completed c call i r caller pc => exact sound.completed caller pc
  | gaveUp c call i _ caller =>
    have before := sound.calls c call caller
    exact sound.move caller (before.moved trivial fun _ _ _ => trivial) rfl
  | woke c call i caller pc closed => exact sound.woke caller pc closed
  | replayed c call i r caller pc found => exact sound.replayed caller pc found
  | missed c call i caller pc gone => exact sound.missed caller pc gone

variable [DecidableEq Tag]

theorem Sound.step {a : Action Request Result Cause} (sound : Sound cfg s)
    (h : step cfg s a = some s') : Sound cfg s' :=
  sound.steps (steps_of_step h)

end Runs

section Results

variable {cfg : Config Key Tag Request Result} {s : State Key Tag Request Result Cause}
  {e f : Execution Request Result}

section

variable (sound : Sound cfg s)

include sound

theorem Sound.entry_of_op (member : e ∈ s.log) (other : f ∈ s.log)
    (same : e.op = f.op) : e = f := by
  obtain ⟨k, at_k⟩ := mem_iff_getElem?.mp member
  obtain ⟨l, at_l⟩ := mem_iff_getElem?.mp other
  cases sound.log.once k l e f at_k at_l same
  exact Option.some.inj (at_k.symm.trans at_l)

/-- When a second execution of a key begins the first has ended, and if its result was kept
the retention period has passed since. -/
theorem Sound.executions_apart {k l : Nat} (before : k < l)
    (first : s.log[k]? = some e) (second : s.log[l]? = some f)
    (same : cfg.key e.req = cfg.key f.req) :
    ∃ r u, e.ended = some (r, u) ∧ (cfg.keep r = true → u + cfg.retention ≤ f.began) := by
  have member := mem_of_getElem? first
  obtain ⟨a, at_a, key_a, -⟩ := sound.log.origin e member
  obtain ⟨b, at_b, key_b, -, time⟩ := sound.log.origin f (mem_of_getElem? second)
  have retired := sound.table.order e.op f.op a b (sound.log.order k l e f before first second same)
    at_a at_b (key_a.trans (same.trans key_b.symm))
  obtain ⟨r, result⟩ := retired.result
  obtain ⟨g, listed, of_a, u, ended, past⟩ := sound.log.settled e.op a r at_a result
  cases sound.entry_of_op member listed of_a.symm
  refine ⟨r, u, ended, fun keep => ?_⟩
  rcases retired with ⟨r', dropped⟩ | expired
  · rw [dropped] at result
    cases result
    rw [sound.table.dropped e.op a r at_a dropped] at keep
    cases keep
  · cases status : a.status with
    | kept r' completedAt =>
      rw [status] at expired
      have closed := past r' completedAt status
      have expired : cfg.retention ≤ b.allocatedAt - completedAt := expired
      omega
    | _ =>
      rw [status] at expired
      exact expired.elim

/-- A younger object of a key was allocated after the outcome of the older one had expired,
unless that outcome was not kept. -/
theorem Sound.objects_apart {i j : Nat} {a b : Op Key Tag Result} (before : i < j) (first :
    s.table.ops[i]? = some a) (second : s.table.ops[j]? = some b)
    (same : a.key = b.key) :
    (∃ r, cfg.keep r = false ∧ a.status = .dropped r) ∨
      a.allocatedAt + cfg.retention ≤ b.allocatedAt := by
  rcases sound.table.order i j a b before first second same with ⟨r, dropped⟩ | expired
  · exact .inl ⟨r, sound.table.dropped i a r first dropped, dropped⟩
  cases status : a.status with
  | kept r completedAt =>
    rw [status] at expired
    have closed := sound.table.closed i a r completedAt first status
    have expired : cfg.retention ≤ b.allocatedAt - completedAt := expired
    right
    omega
  | _ =>
    rw [status] at expired
    exact expired.elim

/-- The key of a running execution is recorded, with the tag of its request. -/
theorem Sound.running_recorded [DecidableEq Key] (member : e ∈ s.log) (running : e.ended = none) :
    ∃ op, s.table.current (cfg.key e.req) = some e.op ∧
      s.table.ops[e.op]? = some op ∧ op.tag = cfg.tag e.req := by
  obtain ⟨op, found, key, tag, -⟩ := sound.log.origin e member
  refine ⟨op, ?_, found, tag⟩
  have open_ : op.status.result? = none := by
    cases result : op.status.result? with
    | none => rfl
    | some r =>
      obtain ⟨g, listed, of_op, u, ended, -⟩ := sound.log.settled e.op op r found result
      cases sound.entry_of_op member listed of_op.symm
      cases running.symm.trans ended
  refine Table.current_of_mem sound.table.keys (key ▸ ?_)
  refine (sound.table.held e.op op found).resolve_right fun retired => ?_
  obtain ⟨r, result⟩ := retired.result
  cases open_.symm.trans result

/-- A caller that has waited on an operation object ends with the result of its execution
or gives up, unless the outcome was gone when it looked. -/
theorem Sound.waiter_outcome {c i : Nat} {call : Call Request Result Cause}
    {o : Outcome Result Cause} (caller : s.calls[c]? = some call)
    (past : call.pc = .ended o) (waited : i ∈ call.waited) :
    (∃ e ∈ s.log, e.op = i ∧ ∃ r u, e.ended = some (r, u) ∧ o = .result r) ∨
      (∃ cause, o = .cancelled cause) ∨
      ∃ u, (i, u) ∈ call.missed ∧ ∃ op, s.table.ops[i]? = some op ∧
        op.status.Retired cfg.retention u := by
  have known := sound.calls c call caller
  rcases known.waited i waited with ⟨u, missed⟩ | awaits
  · obtain ⟨-, op, found, -, -, retired⟩ := known.missed i u missed
    exact .inr (.inr ⟨u, missed, op, found, retired⟩)
  rw [past] at awaits
  cases o with
  | result r =>
    obtain ⟨e, member, of_i, u, ended⟩ := awaits
    exact .inl ⟨e, member, of_i, r, u, ended, rfl⟩
  | cancelled cause => exact .inr (.inl ⟨cause, rfl⟩)
  | _ => exact awaits.elim

/-- A result that a caller returns is that of an execution for an equal request. -/
theorem Sound.result_source {c : Nat} {call : Call Request Result Cause} {r : Result} (caller :
    s.calls[c]? = some call)
    (past : call.pc = .ended (.result r)) :
    ∃ e ∈ s.log, cfg.key e.req = cfg.key call.req ∧ cfg.tag e.req = cfg.tag call.req ∧
      ∃ u, e.ended = some (r, u) := by
  have place := (sound.calls c call caller).place
  rw [past] at place
  exact place

end

end Results

/-- A service looks at a request before it goes to the table: it may refuse it, and it may pass
it to the wrapped service as it is. -/
inductive Admission (Result : Type) where
  | refused (r : Result)
  | passed
  | keyed

structure Service (Key Tag Request Result Cause : Type) where
  config : Config Key Tag Request Result
  /-- The checks at the door; the first argument is the error of the caller's context. -/
  admission : Option Cause → Request → Admission Result

/-- A call that does not go to the table. -/
structure Plain (Request Result : Type) where
  req : Request
  result : Option Result

structure Served (Key Tag Request Result Cause : Type) where
  flights : State Key Tag Request Result Cause
  plain : List (Plain Request Result)

inductive ServiceAct (Request Result Cause : Type) where
  | tick (elapsed : Nat)
  | enter (ctx : Option Cause) (req : Request)
  | call (c : Nat) (a : CallAct Result Cause)
  | answer (p : Nat) (r : Result)

section Services

variable [DecidableEq Key] [DecidableEq Tag]

namespace Served

def initial (clock : Int) : Served Key Tag Request Result Cause :=
  ⟨SingleFlight.initial clock, []⟩

/-- A step of the calls that go to the table. -/
def fly (svc : Service Key Tag Request Result Cause) (s : Served Key Tag Request Result Cause)
    (a : Action Request Result Cause) : Option (Served Key Tag Request Result Cause) :=
  (SingleFlight.step svc.config s.flights a).map fun flights => { s with flights }

def step (svc : Service Key Tag Request Result Cause) (s : Served Key Tag Request Result Cause) :
    ServiceAct Request Result Cause → Option (Served Key Tag Request Result Cause)
  | .tick elapsed => fly svc s (.tick elapsed)
  | .enter ctx req =>
    match svc.admission ctx req with
    | .refused r => some { s with plain := s.plain ++ [⟨req, some r⟩] }
    | .passed => some { s with plain := s.plain ++ [⟨req, none⟩] }
    | .keyed => fly svc s (.enter req)
  | .call c a => fly svc s (.call c a)
  | .answer p r =>
    match s.plain[p]? with
    | some ⟨req, none⟩ => some { s with plain := s.plain.set p ⟨req, some r⟩ }
    | _ => none

variable {svc : Service Key Tag Request Result Cause} {s s' : Served Key Tag Request Result Cause}

theorem flights_of_step {a : ServiceAct Request Result Cause} (h : step svc s a = some s') :
    s'.flights = s.flights ∨ ∃ b, SingleFlight.step svc.config s.flights b = some s'.flights ∧
      ∀ c x, b = .call c x → a = .call c x := by
  have flown : ∀ b, fly svc s b = some s' →
      SingleFlight.step svc.config s.flights b = some s'.flights := by
    intro b h
    obtain ⟨flights, taken, rfl⟩ := map_eq_some_iff.mp h
    exact taken
  cases a with
  | tick => exact .inr ⟨_, flown _ h, nofun⟩
  | call =>
    refine .inr ⟨_, flown _ h, fun d x same => ?_⟩
    cases same
    rfl
  | enter =>
    simp only [step] at h
    split at h
    · cases h
      exact .inl rfl
    · cases h
      exact .inl rfl
    · exact .inr ⟨_, flown _ h, nofun⟩
  | answer =>
    simp only [step] at h
    split at h <;> cases h
    exact .inl rfl

theorem sound_of_step {a : ServiceAct Request Result Cause} (sound : Sound svc.config s.flights)
    (h : step svc s a = some s') : Sound svc.config s'.flights := by
  rcases flights_of_step h with same | ⟨b, taken, -⟩
  · exact same ▸ sound
  · exact sound.step taken

theorem sound_of_reachable {clock : Int}
    (reach : Runs.Reachable (step svc) (initial clock) s) : Sound svc.config s.flights :=
  Runs.reachable_invariant (fun s => Sound svc.config s.flights)
    (fun _ _ _ sound h => sound_of_step sound h) (sound_initial clock) reach

variable {c : Nat} {call : Call Request Result Cause}

/-- The first critical section of a call is `start`. -/
theorem table_of_begin (caller : s.flights.calls[c]? = some call) (pc : call.pc = .beginning)
    (h : step svc s (.call c .begin) = some s') :
    s'.flights.table = (s.flights.table.start svc.config s.flights.clock call.req).2 := by
  obtain ⟨flights, taken, rfl⟩ := map_eq_some_iff.mp h
  exact SingleFlight.table_of_begin caller pc taken

/-- The last critical section of a leader is `complete`. -/
theorem table_of_complete {i : Nat} {r : Result} (caller : s.flights.calls[c]? = some call)
    (pc : call.pc = .returned i r) (h : step svc s (.call c .complete) = some s') :
    s'.flights.table = s.flights.table.complete svc.config s.flights.clock call.req i r := by
  obtain ⟨flights, taken, rfl⟩ := map_eq_some_iff.mp h
  simp only [SingleFlight.step, caller, bind_some, pc, advance] at taken
  cases taken
  rfl

end Served

end Services

end SingleFlight
