import WeDecent.FileTransferService
import WeDecent.Library.Exclusion

/-!
# Who obtains a file operation

`CommitFileUpload` and `CancelFileTransfer` look an operation up, check its connection and
remove it in three critical sections. `removeOperation` does not say whether it removed the
entry, so two requests that have both found it both obtain it. When no request looks the
operation up while another stands between its look and its removal, each handle is obtained by
one request, and `Commit` or `Cancel` is called on it at most once.
-/

namespace FileOperationOwnership

open Bool List Option CoreRequests FileTransferService
open ConnectionService (ID oneConnection)

/-- What a thread has in hand: a handle that is not in the table, or an entry of the table that
it is going to remove -/
inductive Grip where
  | none
  /-- A handle, on which `Commit` or `Cancel` may be called next -/
  | held (transfer : Nat)
  /-- A handle on which it was called -/
  | spent (transfer : Nat)
  | aimed (operationID : ID) (entry : Entry)

def Grip.transfer : Grip → Option Nat
  | .none => Option.none
  | .held k => some k
  | .spent k => some k
  | .aimed _ e => some e.transfer

def gripOfTake (operationID : ID) : RequestPc → Grip
  | .checking e => .aimed operationID e
  | .removing e => .aimed operationID e
  | .calling e => .held e.transfer
  | .waiting e => .spent e.transfer
  | .failed e => .spent e.transfer
  | .returned (some k) _ => .spent k
  | _ => .none

def grip : Thread → Grip
  | .opens _ (.checking _ _ transfer _ _) => .held transfer
  | .opens _ (.activating _ _ transfer _ _) => .held transfer
  | .opens _ (.cancelling _ transfer _) => .held transfer
  | .request r _ operationID pc => if r.takes then gripOfTake operationID pc else .none
  | _ => .none

/-- How often `Commit` or `Cancel` was called on a handle -/
def Transfer.calls (x : Transfer) : Nat := x.commits + x.cancels

def callsAt (t : Table) (k : Nat) : Option Nat := (t.transfers[k]?).map Transfer.calls

/-- What a step of one thread does to the entries and the calls, with what the thread has in
hand before and after -/
inductive Turn (t : Table) : Grip → Table → Grip → Prop
  | quiet (g : Grip) (t' : Table) (ops : t'.ops = t.ops) (transfers : t'.transfers = t.transfers) :
      Turn t g t' g
  | dropped (g : Grip) : Turn t g t .none
  | fetched (parent : Nat) : Turn t .none (t.push parent) (.held t.transfers.length)
  | activated (id : ID) (e : Entry) (reserved) :
      Turn t (.held e.transfer) { t with reserved := reserved, ops := t.ops.set id e } .none
  | looked (id : ID) (e : Entry) (found : t.ops.get id = some e) : Turn t .none t (.aimed id e)
  | taken (id : ID) (e : Entry) :
      Turn t (.aimed id e) (t.removeOperation id e.token) (.held e.transfer)
  | called (k : Nat) (t' : Table) (after : Grip) (called : t' = t.commit k ∨ t' = t.cancel k)
      (past : after = .spent k ∨ after = .none) : Turn t (.held k) t' after
  | removed (g : Grip) (id : ID) (token : Nat) : Turn t g (t.removeOperation id token) g

section Inversion

variable {cfg : Config} {core : ConnectionService.Shared} {t : Table} {o : Outcome}

theorem turn_of_openStep {direction : Direction} {pc : OpenPc} {a : Act} {r : Table × OpenPc}
    (h : openStep cfg core t direction pc a = some r) :
    Turn t (grip (.opens direction pc)) r.1 (grip (.opens direction r.2)) := by
  unfold openStep reserveOperationID at h
  split at h
  case h_6 =>
    cases h
    exact .fetched _
  case h_7 =>
    cases h
    exact .fetched _
  case h_11 =>
    cases h
    unfold activateOperation
    split
    · exact .quiet _ _ rfl rfl
    · dsimp only
      exact .activated _ ⟨_, _, _, _⟩ _
  case h_12 =>
    cases h
    exact .called _ _ _ (.inr rfl) (.inr rfl)
  all_goals
    repeat' split at h
    all_goals cases h
    all_goals exact .quiet _ _ rfl rfl

theorem turn_of_take {r : Request} {connectionID operationID : ID} {pc : RequestPc} {a : Act}
    {o : Table × RequestPc} (takes : r.takes = true)
    (h : requestStep core t r connectionID operationID pc a = some o) :
    Turn t (gripOfTake operationID pc) o.1 (gripOfTake operationID o.2) := by
  unfold requestStep at h
  split at h
  · split at h
    · cases h
      exact .quiet _ _ rfl rfl
    · rename_i found
      cases h
      exact .looked _ _ (filter_eq_some_iff.mp found).1
  · split at h
    · cases h
      exact .quiet _ _ rfl rfl
    · cases h
      exact .dropped _
  · cases h
    exact .taken _ _
  · cases h
    cases r with
    | commit => exact .called _ _ _ (.inl rfl) (.inl rfl)
    | cancel => exact .called _ _ _ (.inr rfl) (.inl rfl)
    | _ => cases takes
  · split at h
    · cases h
    · cases h
      split <;> exact .quiet _ _ rfl rfl
  · split at h
    · cases takes
    · cases takes
    · cases h
  · cases h
    exact .quiet _ _ rfl rfl
  · cases h
    exact .quiet _ _ rfl rfl
  · cases h
    exact .removed _ _ _
  · cases h
    exact .quiet _ _ rfl rfl
  · cases h

theorem turn_of_use {r : Request} {connectionID operationID : ID} {pc : RequestPc} {a : Act}
    {o : Table × RequestPc} (uses : r.takes = false)
    (h : requestStep core t r connectionID operationID pc a = some o) :
    Turn t .none o.1 .none := by
  unfold requestStep at h
  split at h
  case h_3 =>
    cases h
    exact .removed _ _ _
  case h_4 =>
    cases h
    cases r with
    | commit => cases uses
    | cancel => cases uses
    | _ => exact .quiet _ _ rfl rfl
  case h_9 =>
    cases h
    exact .removed _ _ _
  all_goals
    repeat' split at h
    all_goals cases h
    all_goals exact .quiet _ _ rfl rfl

theorem turn_of_advance {x : Thread} {a : Act} (h : advance cfg core t x a = some o) :
    Turn t (grip x) o.table (grip o.thread) ∧ ∀ y ∈ o.spawned, grip y = .none := by
  unfold advance at h
  split at h
  · cases h
    refine ⟨.quiet _ _ rfl rfl, fun y member => ?_⟩
    cases mem_singleton.mp member
    rfl
  · obtain ⟨r, moved, rfl⟩ := map_eq_some_iff.mp h
    exact ⟨turn_of_openStep moved, forall_mem_nil _⟩
  · rename_i r _ _ _ a
    obtain ⟨o, moved, rfl⟩ := map_eq_some_iff.mp h
    refine ⟨?_, forall_mem_nil _⟩
    simp only [grip]
    split
    · rename_i takes
      exact turn_of_take takes moved
    · rename_i uses
      exact turn_of_use (eq_false_iff.mpr uses) moved
  · obtain ⟨-, h⟩ := ite_none_right_eq_some.mp h
    cases h
    exact ⟨.removed _ _ _, forall_mem_nil _⟩
  · cases h

theorem aimed_of_gripOfTake {operationID id : ID} {pc : RequestPc} {e : Entry}
    (h : gripOfTake operationID pc = .aimed id e) : operationID = id := by
  unfold gripOfTake at h
  split at h <;> cases h
  · rfl
  · rfl

/-- Only a request that looks the operation up takes aim at it. -/
theorem looking_of_advance {x : Thread} {a : Act} {id : ID} {e : Entry}
    (h : advance cfg core t x a = some o) (before : grip x = .none)
    (after : grip o.thread = .aimed id e) :
    ∃ r connectionID, x = .request r connectionID id .looking ∧ r.takes = true := by
  unfold advance at h
  split at h
  · cases h
    cases after
  · obtain ⟨⟨t', pc'⟩, -, rfl⟩ := map_eq_some_iff.mp h
    cases pc' <;> cases after
  · rename_i r connectionID _ pc
    obtain ⟨⟨t', pc'⟩, moved, rfl⟩ := map_eq_some_iff.mp h
    simp only [grip] at before after
    by_cases takes : r.takes = true
    · rw [if_pos takes] at before after
      cases pc with
      | looking => exact ⟨r, connectionID, aimed_of_gripOfTake after ▸ rfl, takes⟩
      | refused => cases a <;> cases moved
      | delivered => cases a <;> cases moved
      | dropping | reporting =>
        cases a <;> cases moved
        cases after
      | returned => cases a <;> cases moved
      | _ => cases before
    · rw [if_neg takes] at after
      cases after
  · obtain ⟨-, h⟩ := ite_none_right_eq_some.mp h
    cases h
    cases after
  · cases h

end Inversion

section Turns

variable {t t' : Table} {g g' : Grip} {id : ID} {e : Entry} {k n : Nat}

theorem entry_of_removeOperation {token : Nat} {operationID : ID}
    (found : (t.removeOperation operationID token).ops.get id = some e) :
    t.ops.get id = some e ∧ (id = operationID → e.token ≠ token) := by
  unfold Table.removeOperation at found
  split at found
  · obtain ⟨other, old⟩ := GoMap.get_of_erase found
    exact ⟨old, fun same => absurd same other⟩
  · rename_i kept
    refine ⟨found, fun same stale => kept ?_⟩
    subst same
    exact (Option.any_eq_true _ _).mpr ⟨e, found, decide_eq_true stale⟩

theorem transfers_of_removeOperation (t : Table) (operationID : ID) (token : Nat) :
    (t.removeOperation operationID token).transfers = t.transfers := by
  unfold Table.removeOperation
  split <;> rfl

theorem callsAt_modify {c : Nat} {f : Transfer → Transfer}
    (more : ∀ x, Transfer.calls (f x) = Transfer.calls x + 1) :
    ((t.transfers.modify c f)[k]?).map Transfer.calls =
      if c = k then (callsAt t k).map (· + 1) else callsAt t k := by
  rw [List.getElem?_modify, callsAt]
  cases t.transfers[k]? with
  | none => split <;> rfl
  | some =>
    by_cases here : c = k
    · simp [if_pos here, more]
    · simp [if_neg here]

/-- One more call is made on the handle, and the others are as they were. -/
theorem callsAt_called {c : Nat} (called : t' = t.commit c ∨ t' = t.cancel c) :
    callsAt t' k = if c = k then (callsAt t k).map (· + 1) else callsAt t k := by
  rcases called with rfl | rfl
  all_goals
    refine callsAt_modify fun x => ?_
    simp only [Transfer.calls]
    omega

theorem callsAt_push (parent : Nat) :
    callsAt (t.push parent) k = if k = t.transfers.length then some 0 else callsAt t k := by
  unfold callsAt Table.push
  by_cases here : k = t.transfers.length
  · rw [if_pos here, here, List.getElem?_concat_length]
    rfl
  rw [if_neg here]
  by_cases old : k < t.transfers.length
  · rw [List.getElem?_append_left old]
  · have beyond : t.transfers.length < k := by omega
    rw [List.getElem?_eq_none (Nat.le_of_lt beyond), List.getElem?_eq_none]
    rw [length_append, length_singleton]
    exact beyond

theorem callsAt_end (t : Table) : callsAt t t.transfers.length = none := by
  rw [callsAt, List.getElem?_eq_none (Nat.le_refl _)]
  rfl

theorem callsAt_of_transfers (same : t'.transfers = t.transfers) : callsAt t' k = callsAt t k := by
  rw [callsAt, same, callsAt]

/-- What becomes of the number of calls on a handle -/
theorem calls_after (turn : Turn t g t' g') (h : callsAt t k = some n) : callsAt t' k = some n ∨
      (g = .held k ∧ callsAt t' k = some (n + 1) ∧ t'.ops = t.ops ∧
        (g' = .spent k ∨ g' = .none)) := by
  cases turn with
  | quiet g t' _ transfers => exact .inl ((callsAt_of_transfers transfers).trans h)
  | dropped => exact .inl h
  | fetched parent =>
    refine .inl ((callsAt_push parent).trans ?_)
    rw [if_neg]
    · exact h
    · rintro rfl
      cases (callsAt_end t).symm.trans h
  | activated => exact .inl h
  | looked => exact .inl h
  | called c t' _ called past =>
    have calls := callsAt_called (k := k) called
    by_cases here : c = k
    · subst here
      rw [if_pos rfl, h] at calls
      refine .inr ⟨rfl, calls, ?_, past⟩
      rcases called with rfl | rfl <;> rfl
    · rw [if_neg here, h] at calls
      exact .inl calls
  | _ =>
    exact .inl ((callsAt_of_transfers (transfers_of_removeOperation t _ _)).trans h)

theorem calls_before (turn : Turn t g t' g') (h : callsAt t' k = some n) :
    callsAt t k = some n ∨ n = 0 ∨ (g = .held k ∧ ∃ m, callsAt t k = some m ∧ n = m + 1) := by
  cases turn with
  | quiet g t' _ transfers => exact .inl ((callsAt_of_transfers transfers).symm.trans h)
  | dropped => exact .inl h
  | fetched =>
    rw [callsAt_push] at h
    split at h
    · exact .inr (.inl (Option.some.inj h).symm)
    · exact .inl h
  | activated => exact .inl h
  | looked => exact .inl h
  | called c t' _ called =>
    rw [callsAt_called called] at h
    split at h
    · rename_i here
      obtain ⟨m, before, rfl⟩ := map_eq_some_iff.mp h
      exact .inr (.inr ⟨here ▸ rfl, m, before, rfl⟩)
    · exact .inl h
  | _ =>
    exact .inl ((callsAt_of_transfers (transfers_of_removeOperation t _ _)).symm.trans h)

/-- An entry was there before, or it is that of the handle that the thread had in hand. -/
theorem entry_after (turn : Turn t g t' g') (found : t'.ops.get id = some e) :
    t.ops.get id = some e ∨ (g = .held e.transfer ∧ g' = .none ∧ t'.transfers = t.transfers ∧
        ∀ id' e', t'.ops.get id' = some e' → id' ≠ id → t.ops.get id' = some e') := by
  cases turn with
  | quiet g t' ops => exact .inl (ops ▸ found)
  | activated id' e' =>
    rcases GoMap.get_of_set found with ⟨rfl, rfl⟩ | ⟨-, old⟩
    · refine .inr ⟨rfl, rfl, rfl, fun id' e' found' other => ?_⟩
      exact (GoMap.get_set_of_ne other).symm.trans found'
    · exact .inl old
  | taken => exact .inl (entry_of_removeOperation found).1
  | called c t' _ called =>
    rcases called with rfl | rfl <;> exact .inl found
  | removed => exact .inl (entry_of_removeOperation found).1
  | _ => exact .inl found

theorem held_after (turn : Turn t g t' (.held k)) :
    g = .held k ∨ (callsAt t k = none ∧ callsAt t' k = some 0) ∨
      ∃ id e, g = .aimed id e ∧ e.transfer = k ∧ t' = t.removeOperation id e.token := by
  cases turn with
  | fetched =>
    refine .inr (.inl ⟨callsAt_end t, ?_⟩)
    rw [callsAt_push, if_pos rfl]
  | taken id e => exact .inr (.inr ⟨id, e, rfl, rfl, rfl⟩)
  | called c t' _ called past => rcases past with past | past <;> cases past
  | _ => exact .inl rfl

theorem aimed_after (turn : Turn t g t' (.aimed id e)) :
    g = .aimed id e ∨ (g = .none ∧ t.ops.get id = some e ∧ t' = t) := by
  cases turn with
  | looked id e found => exact .inr ⟨rfl, found, rfl⟩
  | called c t' _ called past => rcases past with past | past <;> cases past
  | _ => exact .inl rfl

theorem spent_after (turn : Turn t g t' (.spent k)) :
    g = .spent k ∨ (g = .held k ∧ ∀ n, callsAt t k = some n → callsAt t' k = some (n + 1)) := by
  cases turn with
  | called c t' _ called past =>
    rcases past with past | past <;> cases past
    refine .inr ⟨rfl, fun n h => ?_⟩
    rw [callsAt_called called, if_pos rfl, h]
    rfl
  | _ => exact .inl rfl

/-- A handle that a thread has in hand it had before, or was not there, or is in the table. -/
theorem transfer_after (turn : Turn t g t' g') (h : g'.transfer = some k) :
    g.transfer = some k ∨ callsAt t k = none ∨
      ∃ id e, g = .none ∧ g' = .aimed id e ∧ t.ops.get id = some e ∧ e.transfer = k := by
  cases g' with
  | none => cases h
  | held =>
    cases h
    rcases held_after turn with rfl | ⟨fresh, -⟩ | ⟨id, e, rfl, same, -⟩
    · exact .inl rfl
    · exact .inr (.inl fresh)
    · exact .inl (congrArg some same)
  | spent =>
    cases h
    rcases spent_after turn with rfl | ⟨rfl, -⟩ <;> exact .inl rfl
  | aimed id e =>
    cases h
    rcases aimed_after turn with rfl | ⟨rfl, found, -⟩
    · exact .inl rfl
    · exact .inr (.inr ⟨id, e, rfl, rfl, found, rfl⟩)

end Turns

/-- The request stands between its look at the operation and the removal of the entry. -/
def aimsAt (operationID : ID) : Thread → Bool
  | .request r _ operationID' (.checking _) => r.takes && operationID' == operationID
  | .request r _ operationID' (.removing _) => r.takes && operationID' == operationID
  | _ => false

/-- `CommitFileUpload` and `CancelFileTransfer` look an operation up only while no other of them
stands between its look and the removal. -/
def timely (s : State) : Action → Bool
  | .run i _ =>
    match s.threads[i]? with
    | some (.request r _ operationID .looking) =>
      !(r.takes && s.threads.any (aimsAt operationID))
    | _ => true
  | _ => true

/-- The fields say where a handle may be, and what has been called on it there. -/
structure Owned (s : State) : Prop where
  entries : ∀ id e, s.table.ops.get id = some e → callsAt s.table e.transfer = some 0
  single : ∀ id id' e e', s.table.ops.get id = some e →
    s.table.ops.get id' = some e' → e.transfer = e'.transfer → id = id'
  held : ∀ x ∈ s.threads, ∀ k, grip x = .held k → callsAt s.table k = some 0 ∧
    ∀ id e, s.table.ops.get id = some e → e.transfer ≠ k
  aimed : ∀ x ∈ s.threads, ∀ id e, grip x = .aimed id e →
    callsAt s.table e.transfer = some 0 ∧ ∀ id' e',
      s.table.ops.get id' = some e' → e'.transfer = e.transfer → id' = id ∧ e' = e
  spent : ∀ x ∈ s.threads, ∀ k, grip x = .spent k → callsAt s.table k = some 1
  calls : ∀ k n, callsAt s.table k = some n → n ≤ 1
  apart : ∀ (i j : Nat) x y (k : Nat), s.threads[i]? = some x →
    s.threads[j]? = some y → (grip x).transfer = some k → (grip y).transfer = some k → i = j

section Owned

variable {connections : ConnectionService.Config} {cfg : Config} {s s' : State}

theorem owned_initial : Owned initial where
  entries := fun _ _ found => nomatch found
  single := fun _ _ _ _ found => nomatch found
  held := fun _ member => absurd member not_mem_nil
  aimed := fun _ member => absurd member not_mem_nil
  spent := fun _ member => absurd member not_mem_nil
  calls := fun _ _ calls => nomatch calls
  apart := fun _ _ _ _ _ at_i => nomatch List.getElem?_nil.symm.trans at_i

variable {x : Thread}

/-- A handle that a thread has in hand has been returned by the backend. -/
theorem Owned.known (owned : Owned s) (member : x ∈ s.threads) {k : Nat}
    (h : (grip x).transfer = some k) : ∃ n, callsAt s.table k = some n := by
  cases g : grip x with
  | none =>
    rw [g] at h
    cases h
  | held =>
    rw [g] at h
    cases h
    exact ⟨0, (owned.held x member k g).1⟩
  | spent =>
    rw [g] at h
    cases h
    exact ⟨1, owned.spent x member k g⟩
  | aimed id e =>
    rw [g] at h
    cases h
    exact ⟨0, (owned.aimed x member id e g).1⟩

theorem aimsAt_of_grip {id : ID} {e : Entry} (h : grip x = .aimed id e) : aimsAt id x = true := by
  unfold grip at h
  split at h
  · cases h
  · cases h
  · cases h
  · rename_i r _ _ _
    split at h
    · rename_i takes
      unfold gripOfTake at h
      split at h <;> cases h
      · simp [aimsAt, takes]
      · simp [aimsAt, takes]
    · cases h
  · cases h

theorem owned_of_start (owned : Owned s) (idle : grip x = .none) : Owned (s.start x) := by
  have older : ∀ {y}, y ∈ (s.start x).threads → grip y ≠ .none → y ∈ s.threads := by
    intro y member busy
    rcases mem_append.mp member with old | new
    · exact old
    · cases mem_singleton.mp new
      exact absurd idle busy
  refine ⟨owned.entries, owned.single, ?_, ?_, ?_, owned.calls, ?_⟩
  · intro y member k h
    exact owned.held y (older member (by rw [h]; rintro ⟨⟩)) k h
  · intro y member id e h
    exact owned.aimed y (older member (by rw [h]; rintro ⟨⟩)) id e h
  · intro y member k h
    exact owned.spent y (older member (by rw [h]; rintro ⟨⟩)) k h
  · intro i j y z k
    refine Exclusion.alone_push (fun i j y z => owned.apart i j y z k) ?_ i j y z
    rw [idle]
    rintro ⟨⟩

section Run

variable {i j k : Nat} {y : Thread} {table : Table} {after : Grip}

/-- A handle that a thread has in hand is in no other hand. -/
theorem Owned.not_held (owned : Owned s) (at_i : s.threads[i]? = some x)
    (at_j : s.threads[j]? = some y) (other : j ≠ i) (mine : (grip y).transfer = some k) :
    grip x ≠ .held k :=
  fun same => other (owned.apart _ _ _ _ _ at_j at_i mine (by rw [same]; rfl))

variable (owned : Owned s) (turn : Turn s.table (grip x) table after)

include owned turn

theorem Owned.calls_kept (at_i : s.threads[i]? = some x) (at_j : s.threads[j]? = some y)
    (other : j ≠ i) (mine : (grip y).transfer = some k) {n : Nat}
    (calls : callsAt s.table k = some n) : callsAt table k = some n := by
  rcases calls_after turn calls with same | ⟨same, -⟩
  · exact same
  · exact absurd same (owned.not_held at_i at_j other mine)

theorem Owned.entry_old (at_i : s.threads[i]? = some x) (at_j : s.threads[j]? = some y)
    (other : j ≠ i) (mine : (grip y).transfer = some k) {id : ID} {e : Entry}
    (found : table.ops.get id = some e) (same : e.transfer = k) :
    s.table.ops.get id = some e := by
  rcases entry_after turn found with old | ⟨mine', -⟩
  · exact old
  · exact absurd (same ▸ mine') (owned.not_held at_i at_j other mine)

theorem Owned.entries_after (here : x ∈ s.threads) {id : ID} {e : Entry}
    (found : table.ops.get id = some e) : callsAt table e.transfer = some 0 := by
  rcases entry_after turn found with old | ⟨mine, -, transfers, -⟩
  · rcases calls_after turn (owned.entries id e old) with same | ⟨mine, -⟩
    · exact same
    · exact absurd rfl ((owned.held x here _ mine).2 id e old)
  · exact (callsAt_of_transfers transfers).trans (owned.held x here _ mine).1

theorem Owned.single_after (here : x ∈ s.threads) {id id' : ID} {e e' : Entry}
    (found : table.ops.get id = some e) (found' : table.ops.get id' = some e')
    (same : e.transfer = e'.transfer) : id = id' := by
  by_cases apart : id' = id
  · exact apart.symm
  rcases entry_after turn found with old | ⟨mine, -, -, others⟩
  · rcases entry_after turn found' with old' | ⟨mine', -⟩
    · exact owned.single id id' e e' old old' same
    · exact absurd same ((owned.held x here _ mine').2 id e old)
  · have old' := others id' e' found' apart
    exact absurd same.symm ((owned.held x here _ mine).2 id' e' old')

theorem Owned.held_after (here : x ∈ s.threads) (h : after = .held k) :
    callsAt table k = some 0 ∧ ∀ id e, table.ops.get id = some e → e.transfer ≠ k := by
  subst h
  rcases FileOperationOwnership.held_after turn with
    mine | ⟨fresh, zero⟩ | ⟨id, e, mine, same, removed⟩
  · obtain ⟨calls, absent⟩ := owned.held x here k mine
    refine ⟨?_, fun id e found => ?_⟩
    · rcases calls_after turn calls with same | ⟨-, -, -, past | past⟩
      · exact same
      · cases past
      · cases past
    · rcases entry_after turn found with old | ⟨-, past, -⟩
      · exact absent id e old
      · cases past
  · refine ⟨zero, fun id e found same => ?_⟩
    rcases entry_after turn found with old | ⟨-, past, -⟩
    · cases (same ▸ owned.entries id e old).symm.trans fresh
    · cases past
  · obtain ⟨calls, only⟩ := owned.aimed x here id e mine
    subst same
    rw [removed]
    refine ⟨?_, fun id' e' found same => ?_⟩
    · exact (callsAt_of_transfers (transfers_of_removeOperation _ _ _)).trans calls
    · obtain ⟨old, stale⟩ := entry_of_removeOperation found
      obtain ⟨rfl, rfl⟩ := only id' e' old same
      exact stale rfl rfl

theorem Owned.aimed_after (here : x ∈ s.threads) {id : ID} {e : Entry} (h : after = .aimed id e) :
    callsAt table e.transfer = some 0 ∧ ∀ id' e', table.ops.get id' = some e' →
      e'.transfer = e.transfer → id' = id ∧ e' = e := by
  subst h
  rcases FileOperationOwnership.aimed_after turn with mine | ⟨-, found, same⟩
  · obtain ⟨calls, only⟩ := owned.aimed x here id e mine
    refine ⟨?_, fun id' e' found => ?_⟩
    · rcases calls_after turn calls with same | ⟨mine', -⟩
      · exact same
      · cases mine.symm.trans mine'
    · rcases entry_after turn found with old | ⟨mine', -⟩
      · exact only id' e' old
      · cases mine.symm.trans mine'
  · rw [same]
    refine ⟨owned.entries id e found, fun id' e' found' equal => ?_⟩
    have key := owned.single id' id e' e found' found equal
    subst key
    exact ⟨rfl, Option.some.inj (found'.symm.trans found)⟩

theorem Owned.spent_after (here : x ∈ s.threads) (h : after = .spent k) :
    callsAt table k = some 1 := by
  subst h
  rcases FileOperationOwnership.spent_after turn with mine | ⟨mine, more⟩
  · rcases calls_after turn (owned.spent x here k mine) with same | ⟨mine', -⟩
    · exact same
    · cases mine.symm.trans mine'
  · exact more 0 (owned.held x here k mine).1

theorem Owned.calls_bounded (here : x ∈ s.threads) {n : Nat} (calls : callsAt table k = some n) :
    n ≤ 1 := by
  rcases calls_before turn calls with before | rfl | ⟨mine, m, before, rfl⟩
  · exact owned.calls k n before
  · exact Nat.zero_le 1
  · cases before.symm.trans (owned.held x here k mine).1
    exact Nat.le_refl 1

end Run

/-- Nobody else has in hand what a request takes aim at. -/
theorem Owned.not_aimed (owned : Owned s) {y : Thread} (member : y ∈ s.threads) {id : ID}
    {e : Entry} (found : s.table.ops.get id = some e) (unaimed : aimsAt id y ≠ true) :
    (grip y).transfer ≠ some e.transfer := by
  intro mine
  cases g : grip y with
  | none =>
    rw [g] at mine
    cases mine
  | held =>
    rw [g] at mine
    cases mine
    exact (owned.held y member _ g).2 id e found rfl
  | spent =>
    rw [g] at mine
    cases mine
    cases (owned.spent y member _ g).symm.trans (owned.entries id e found)
  | aimed id' e' =>
    rw [g] at mine
    obtain ⟨rfl, rfl⟩ := (owned.aimed y member id' e' g).2 id e found
      (Option.some.inj mine).symm
    exact unaimed (aimsAt_of_grip g)

variable {core : ConnectionService.Shared}

theorem owned_of_run (owned : Owned s) {i : Nat} {a : Act} {o : Outcome}
    (at_i : s.threads[i]? = some x) (moved : advance cfg core s.table x a = some o)
    (ok : timely s (.run i a) = true) :
    Owned { s with table := o.table, threads := s.threads.set i o.thread ++ o.spawned } := by
  obtain ⟨turn, idle⟩ := turn_of_advance moved
  have here := mem_of_getElem? at_i
  refine ⟨fun _ _ => owned.entries_after turn here, fun _ _ _ _ => owned.single_after turn here,
    ?_, ?_, ?_, fun _ _ => owned.calls_bounded turn here, ?_⟩
  · intro y member k h
    obtain ⟨j, at_j⟩ := mem_iff_getElem?.mp member
    rcases Cells.at_move at_j with ⟨-, rfl⟩ | ⟨other, old⟩ | fresh
    · exact owned.held_after turn here h
    · have mine : (grip y).transfer = some k := by rw [h]; rfl
      obtain ⟨calls, absent⟩ := owned.held y (mem_of_getElem? old) k h
      refine ⟨owned.calls_kept turn at_i old other mine calls, fun id e found same => ?_⟩
      exact absent id e (owned.entry_old turn at_i old other mine found same) same
    · cases h.symm.trans (idle y fresh)
  · intro y member id e h
    obtain ⟨j, at_j⟩ := mem_iff_getElem?.mp member
    rcases Cells.at_move at_j with ⟨-, rfl⟩ | ⟨other, old⟩ | fresh
    · exact owned.aimed_after turn here h
    · have mine : (grip y).transfer = some e.transfer := by rw [h]; rfl
      obtain ⟨calls, only⟩ := owned.aimed y (mem_of_getElem? old) id e h
      refine ⟨owned.calls_kept turn at_i old other mine calls, fun id' e' found same => ?_⟩
      exact only id' e' (owned.entry_old turn at_i old other mine found same) same
    · cases h.symm.trans (idle y fresh)
  · intro y member k h
    obtain ⟨j, at_j⟩ := mem_iff_getElem?.mp member
    rcases Cells.at_move at_j with ⟨-, rfl⟩ | ⟨other, old⟩ | fresh
    · exact owned.spent_after turn here h
    · have mine : (grip y).transfer = some k := by rw [h]; rfl
      exact owned.calls_kept turn at_i old other mine (owned.spent y (mem_of_getElem? old) k h)
    · cases h.symm.trans (idle y fresh)
  · -- the thread has got hold of a handle that is in no other hand
    have fresh_hand : ∀ {j y k}, s.threads[j]? = some y → j ≠ i →
        (grip y).transfer = some k → (grip o.thread).transfer ≠ some k := by
      intro j y k old other mine h
      have member := mem_of_getElem? old
      rcases transfer_after turn h with same | none_before | ⟨id, e, before, after, found, rfl⟩
      · exact other (owned.apart _ _ _ _ _ old at_i mine same)
      · obtain ⟨n, calls⟩ := owned.known member mine
        cases calls.symm.trans none_before
      obtain ⟨r, connectionID, rfl, takes⟩ := looking_of_advance moved before after
      refine owned.not_aimed member found (fun aims => ?_) mine
      simp only [timely, at_i, takes, Bool.true_and, not_eq_true'] at ok
      cases ok.symm.trans (List.any_eq_true.mpr ⟨y, member, aims⟩)
    intro j j' y y' k
    refine Exclusion.alone_append (Exclusion.alone_set (fun j j' y y' => owned.apart j j' y y' k)
      at_i fun mine => .inr ?_) ?_ j j' y y'
    · intro j y other old h
      exact fresh_hand old other h mine
    · intro y fresh
      rw [idle y fresh]
      rintro ⟨⟩

theorem callsAt_finish (t : Table) (k c : Nat) : callsAt (t.finish c) k = callsAt t k := by
  rw [callsAt, Table.finish, List.getElem?_modify, callsAt]
  cases t.transfers[k]? with
  | none => rfl
  | some =>
    by_cases here : c = k
    · simp [if_pos here, Transfer.calls]
    · simp [if_neg here]

theorem owned_of_finish (owned : Owned s) (c : Nat) :
    Owned { s with table := s.table.finish c } := by
  refine ⟨?_, owned.single, ?_, ?_, ?_, ?_, owned.apart⟩
  · intro id e found
    exact (callsAt_finish _ _ _).trans (owned.entries id e found)
  · intro x member k h
    obtain ⟨calls, absent⟩ := owned.held x member k h
    exact ⟨(callsAt_finish _ _ _).trans calls, absent⟩
  · intro x member id e h
    obtain ⟨calls, only⟩ := owned.aimed x member id e h
    exact ⟨(callsAt_finish _ _ _).trans calls, only⟩
  · intro x member k h
    exact (callsAt_finish _ _ _).trans (owned.spent x member k h)
  · intro k n h
    exact owned.calls k n ((callsAt_finish _ _ _).symm.trans h)

theorem grip_enter (ctx : Option ContextError) (r : Request) (connectionID operationID : ID)
    (valid : Bool) : grip (enter ctx r connectionID operationID valid) = .none := by
  simp only [enter, grip]
  split
  · split
    · rfl
    · split <;> rfl
  · rfl

theorem owned_of_step {a : Action} (owned : Owned s) (ok : timely s a = true)
    (h : step connections cfg s a = some s') : Owned s' := by
  cases a with
  | core =>
    obtain ⟨core, -, rfl⟩ := map_eq_some_iff.mp h
    exact ⟨owned.entries, owned.single, owned.held, owned.aimed, owned.spent, owned.calls,
      owned.apart⟩
  | openFile =>
    cases h
    refine owned_of_start owned ?_
    unfold openFile
    split
    · rfl
    · split <;> rfl
  | run =>
    obtain ⟨x, at_i, h⟩ := bind_eq_some_iff.mp h
    obtain ⟨o, moved, rfl⟩ := map_eq_some_iff.mp h
    exact owned_of_run owned at_i moved ok
  | finish k =>
    obtain ⟨-, h⟩ := ite_none_right_eq_some.mp h
    cases h
    exact owned_of_finish owned k
  | _ =>
    cases h
    exact owned_of_start owned (grip_enter _ _ _ _ _)

/-- A request that has called no handle was told that there is no such operation. -/
def Answered : Thread → Prop
  | .request _ _ _ (.returned none err) => err = some (.of .fileTransferNotFound)
  | _ => True

theorem answered_of_requestStep {t : Table} {r : Request} {connectionID operationID : ID}
    {pc : RequestPc} {a : Act} {o : Table × RequestPc}
    (h : requestStep core t r connectionID operationID pc a = some o) :
    Answered (.request r connectionID operationID o.2) := by
  unfold requestStep at h
  split at h
  · split at h <;> cases h
    · rfl
    · trivial
  · split at h <;> cases h
    · dsimp only
      split <;> trivial
    · rfl
  · cases h
    trivial
  · cases h
    trivial
  · split at h
    · cases h
    · cases h
      split <;> trivial
  · split at h
    · cases h
      trivial
    · cases h
      unfold readChunk
      split
      · trivial
      · split <;> trivial
    · cases h
  · cases h
    trivial
  · cases h
    trivial
  · cases h
    trivial
  · cases h
    trivial
  · cases h

theorem answered_of_advance {t : Table} {a : Act} {o : Outcome}
    (h : advance cfg core t x a = some o) :
    Answered o.thread ∧ ∀ y ∈ o.spawned, Answered y := by
  unfold advance at h
  split at h
  · cases h
    refine ⟨trivial, fun y member => ?_⟩
    cases mem_singleton.mp member
    trivial
  · obtain ⟨r, -, rfl⟩ := map_eq_some_iff.mp h
    exact ⟨trivial, forall_mem_nil _⟩
  · obtain ⟨r, moved, rfl⟩ := map_eq_some_iff.mp h
    exact ⟨answered_of_requestStep moved, forall_mem_nil _⟩
  · obtain ⟨-, h⟩ := ite_none_right_eq_some.mp h
    cases h
    exact ⟨trivial, forall_mem_nil _⟩
  · cases h

theorem answered_enter (ctx : Option ContextError) (r : Request) (connectionID operationID : ID)
    (valid : Bool) : Answered (enter ctx r connectionID operationID valid) := by
  unfold enter
  split
  · trivial
  · split <;> trivial

theorem answered_of_start (answered : ∀ y ∈ s.threads, Answered y) (new : Answered x) :
    ∀ y ∈ (s.start x).threads, Answered y := by
  intro y member
  rcases mem_append.mp member with old | fresh
  · exact answered y old
  · cases mem_singleton.mp fresh
    exact new

theorem answered_of_step {a : Action} (answered : ∀ x ∈ s.threads, Answered x)
    (h : step connections cfg s a = some s') : ∀ x ∈ s'.threads, Answered x := by
  cases a with
  | core =>
    obtain ⟨core, -, rfl⟩ := map_eq_some_iff.mp h
    exact answered
  | openFile =>
    cases h
    refine answered_of_start answered ?_
    unfold openFile
    split
    · trivial
    · split <;> trivial
  | run =>
    obtain ⟨x, -, h⟩ := bind_eq_some_iff.mp h
    obtain ⟨o, moved, rfl⟩ := map_eq_some_iff.mp h
    obtain ⟨own, new⟩ := answered_of_advance moved
    intro y member
    rcases Cells.mem_move member with old | rfl | fresh
    · exact answered y old
    · exact own
    · exact new y fresh
  | finish =>
    obtain ⟨-, h⟩ := ite_none_right_eq_some.mp h
    cases h
    exact answered
  | _ =>
    cases h
    exact answered_of_start answered (answered_enter _ _ _ _ _)

/-- The handle that a `CommitFileUpload` or `CancelFileTransfer` has obtained -/
def obtained : Thread → Option Nat
  | .request r _ _ (.calling e) => if r.takes then some e.transfer else none
  | .request r _ _ (.waiting e) => if r.takes then some e.transfer else none
  | .request r _ _ (.failed e) => if r.takes then some e.transfer else none
  | .request r _ _ (.returned transfer _) => if r.takes then transfer else none
  | _ => none

theorem transfer_of_obtained {k : Nat} (h : obtained x = some k) : (grip x).transfer = some k := by
  unfold obtained at h
  split at h
  case h_5 => cases h
  case h_4 =>
    obtain ⟨takes, rfl⟩ := ite_none_right_eq_some.mp h
    simp only [grip, if_pos takes]
    rfl
  all_goals
    obtain ⟨takes, h⟩ := ite_none_right_eq_some.mp h
    simp only [grip, if_pos takes]
    exact h

/-- `Commit` or `Cancel` is called on each handle at most once, at most one request obtains it,
and a request that has passed the checks at the door and returns without a handle returns
`ErrFileTransferNotFound`. -/
theorem operation_one_shot {acts : List Action}
    (meets : Runs.Meets (step connections cfg) (fun s a => timely s a = true) initial acts)
    (run : Runs.exec (step connections cfg) initial acts = some s) :
    (∀ (k : Nat) (x : Transfer), s.table.transfers[k]? = some x → x.commits + x.cancels ≤ 1) ∧
    (∀ (i j : Nat) (x y : Thread) (k : Nat), s.threads[i]? = some x → s.threads[j]? = some y →
      obtained x = some k → obtained y = some k → i = j) ∧
    ∀ (r : Request) (connectionID operationID : ID) (err : Option Err),
      Thread.request r connectionID operationID (.returned none err) ∈ s.threads →
      err = some (.of .fileTransferNotFound) := by
  obtain ⟨owned, answered⟩ : Owned s ∧ ∀ x ∈ s.threads, Answered x :=
    Runs.exec_invariant (fun s => Owned s ∧ ∀ x ∈ s.threads, Answered x)
      (fun _ _ _ inv ok h => ⟨owned_of_step inv.1 ok h, answered_of_step inv.2 h⟩)
      ⟨owned_initial, fun _ member => absurd member not_mem_nil⟩ meets run
  refine ⟨fun k x found => ?_, fun i j x y k at_i at_j h h' => ?_, fun r c o err member => ?_⟩
  · refine owned.calls k _ ?_
    rw [callsAt, found]
    rfl
  · exact owned.apart i j x y k at_i at_j (transfer_of_obtained h) (transfer_of_obtained h')
  · exact answered _ member

end Owned

section Sample

/-- A commit, and a cancellation that comes too late -/
def lateRun : List Action :=
  openRun .upload ++ ([.commitFileUpload none [98] sampleOperation, .run 2 .go, .run 2 .go,
    .run 2 .go, .cancelFileTransfer none [98] sampleOperation, .run 3 .go, .run 2 .go,
    .run 2 (.result true)] : List Action)

theorem operation_one_shot_late : ∃ s : State,
    Runs.exec (step oneConnection oneTransfer) initial lateRun = some s ∧
      s.table.transfers = [⟨0, false, 1, 0⟩] ∧
      ∀ (k : Nat) (x : Transfer), s.table.transfers[k]? = some x → x.commits + x.cancels ≤ 1 := by
  have run : (Runs.exec (step oneConnection oneTransfer) initial lateRun).any (fun s =>
      decide (s.table.transfers = [⟨0, false, 1, 0⟩])) = true := by decide +kernel
  have meets : Runs.Meets (step oneConnection oneTransfer) (fun s a => timely s a = true) initial
      lateRun := by decide +kernel
  obtain ⟨s, reached, met⟩ := (Option.any_eq_true _ _).mp run
  exact ⟨s, reached, of_decide_eq_true met, (operation_one_shot meets reached).1⟩

/-- Two commits find the entry before either removes it. -/
def twiceRun : List Action :=
  openRun .upload ++ ([.commitFileUpload none [98] sampleOperation,
    .commitFileUpload none [98] sampleOperation, .run 2 .go, .run 3 .go, .run 2 .go, .run 3 .go,
    .run 2 .go, .run 3 .go, .run 2 .go, .run 3 .go] : List Action)

theorem upload_committed_twice : ∃ s : State,
    Runs.exec (step oneConnection oneTransfer) initial twiceRun = some s ∧
      s.threads.map obtained = [none, none, some 0, some 0] ∧
      s.table.transfers = [⟨0, false, 2, 0⟩] := by
  have run : (Runs.exec (step oneConnection oneTransfer) initial twiceRun).any (fun s =>
      decide (s.threads.map obtained = [none, none, some 0, some 0]) &&
        decide (s.table.transfers = [⟨0, false, 2, 0⟩])) = true := by decide +kernel
  obtain ⟨s, reached, met⟩ := (Option.any_eq_true _ _).mp run
  rw [and_eq_true, decide_eq_true_eq, decide_eq_true_eq] at met
  exact ⟨s, reached, met⟩

end Sample

end FileOperationOwnership
