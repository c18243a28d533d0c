import WeDecent.TrustStore

/-!
# Updates of the trust store

The calls take effect one after the other: a change when it replaces the file, a call that changes
nothing when it reads it. A call that fails takes no effect, as long as the mode of the new file
can be set; that step alone may fail after the replacement.
-/

namespace TrustUpdates

open List Option Cells Exclusion Linear TrustStore

abbrev Held := Linear.Call Operation Answer

def changing : Pc → Option Change
  | .saving change => some change
  | .replacing change => some change
  | _ => none

/-- The answer of a call that has taken effect -/
def effected : Pc → Option Answer
  | .securing change => some change.answer
  | .returned answer => answer
  | _ => none

/-- What is known of a call -/
structure Standing (s : System) (i : Nat) (c : Call) : Prop where
  texts : c.op.Valid
  there : c.pc = .reading → ∃ f, s.file = some f ∧ lstat false (some f) = some true
  changed : ∀ change, changing c.pc = some change → c.op.writes = true ∧
    ∃ m, s.stores[c.store]? = some m ∧ Does c.op (seen s.file) change.answer m.get ∧ Valid m
  logged : ∀ a, effected c.pc = some a → (i, a) ∈ s.log
  unlogged : effected c.pc = none → i ∉ s.log.map Prod.fst

/-- The steps of a call -/
inductive Moved (s : System) (i : Nat) (c : Call) (memory : Peers) : Effect → Prop
  | walked {pc : Pc} (before : effected c.pc = none) (after : effected pc = none)
      (there : pc = .reading → ∃ f, s.file = some f ∧ lstat false (some f) = some true)
      (same : ∀ change, changing pc = some change → changing c.pc = some change) :
      Moved s i c memory ⟨pc, memory, s.file, s.log⟩
  | changed {m : Peers} {change : Change} (before : effected c.pc = none)
      (holds : c.pc.holdsMutex = true) (writes : c.op.writes = true)
      (does : Does c.op (seen s.file) change.answer m.get) (valid : Valid m) :
      Moved s i c memory ⟨.saving change, m, s.file, s.log⟩
  | answered {m : Peers} {a : Answer} (before : effected c.pc = none)
      (holds : c.pc.holdsMutex = true) (does : Does c.op (seen s.file) a (seen s.file)) :
      Moved s i c memory ⟨.returned (some a), m, s.file, s.log ++ [(i, a)]⟩
  | undone {m : Peers} (before : effected c.pc = none) (holds : c.pc.holdsMutex = true) :
      Moved s i c memory ⟨.returned none, m, s.file, s.log⟩
  | replaced {change : Change} (at_ : c.pc = .replacing change) : Moved s i c memory
        ⟨.securing change, memory, some (saved memory), s.log ++ [(i, change.answer)]⟩
  | finished {change : Change} (at_ : c.pc = .securing change) :
      Moved s i c memory ⟨.returned (some change.answer), memory, s.file, s.log⟩

section Step

variable {s s' : System} {i : Nat} {c : Call} {memory : Peers} {e : Effect}
  {fails : Bool} {order : List (Text × Peer)}

theorem change_writes {op : Operation} {m : Peers} {change : Change}
    (h : op.use m order = .change memory change) : op.writes = true := by
  cases op with
  | put => rfl
  | deletePeer => rfl
  | _ => cases h

theorem moved_of_loaded {m : Peers} (h : s.loaded i c m order = some e)
    (before : effected c.pc = none) (holds : c.pc.holdsMutex = true) (texts : c.op.Valid)
    (peers : seen s.file = m.get) (valid : Valid m) : Moved s i c memory e := by
  unfold System.loaded at h
  split at h
  · rename_i perm
    split at h
    · rename_i memory' change use
      cases h
      exact .changed before holds (change_writes use) (peers ▸ change_does use)
        (change_valid use valid texts)
    · rename_i a use
      cases h
      exact .answered before holds (by rw [peers]; exact answer_does use perm)
  · cases h

theorem moved_of_next (h : s.next i c memory fails order = some e) (standing : Standing s i c)
    (steady : ∀ change, c.pc = .securing change → fails = false) : Moved s i c memory e := by
  unfold System.next at h
  dsimp only at h
  split at h
  · -- `locking`
    rename_i at_
    have before : effected c.pc = none := by rw [at_]; rfl
    split at h
    · cases h
      exact .walked before rfl nofun nofun
    · split at h
      · cases h
        exact .walked before rfl nofun nofun
      · cases h
  · -- `waiting`
    rename_i at_
    have before : effected c.pc = none := by rw [at_]; rfl
    split at h
    · cases h
      exact .walked before rfl nofun nofun
    · cases h
  · -- `statting`
    rename_i at_
    have before : effected c.pc = none := by rw [at_]; rfl
    have holds : c.pc.holdsMutex = true := by rw [at_]; rfl
    split at h
    · cases h
      exact .walked before rfl nofun nofun
    · rename_i absent
      refine moved_of_loaded h before holds standing.texts ?_ (forall_mem_nil _)
      rw [lstat_absent absent, seen_absent]
    · rename_i there
      cases h
      exact .walked before rfl (fun _ => lstat_there there) nofun
  · -- `reading`
    rename_i at_
    have before : effected c.pc = none := by rw [at_]; rfl
    have holds : c.pc.holdsMutex = true := by rw [at_]; rfl
    split at h
    · cases h
      exact .walked before rfl nofun nofun
    rename_i m read
    obtain ⟨f, hfile, there⟩ := standing.there at_
    have peers : f.peers = some m := by
      rw [hfile] at read
      cases fails with
      | true => cases read
      | false => exact read
    refine moved_of_loaded h before holds standing.texts ?_ (f.valid m peers)
    rw [hfile, seen_read there peers]
  · -- `saving`
    rename_i change at_
    have before : effected c.pc = none := by rw [at_]; rfl
    split at h
    · cases h
      exact .undone before (by rw [at_]; rfl)
    · cases h
      refine .walked before rfl (by rintro ⟨⟩) fun change' same => ?_
      rw [at_]
      exact same
  · -- `replacing`
    rename_i change at_
    split at h
    · cases h
      exact .undone (by rw [at_]; rfl) (by rw [at_]; rfl)
    · cases h
      exact .replaced at_
  · -- `securing`
    rename_i change at_
    rw [steady change at_] at h
    cases h
    exact .finished at_
  · cases h

theorem Moved.memory_same (moved : Moved s i c memory e) :
    e.memory = memory ∨ c.pc.holdsMutex = true := by
  cases moved with
  | changed _ holds => exact .inr holds
  | answered _ holds => exact .inr holds
  | undone _ holds => exact .inr holds
  | _ => exact .inl rfl

theorem Moved.file_same (moved : Moved s i c memory e) :
    e.file = s.file ∨ ∃ change, changing c.pc = some change ∧ e.file = some (saved memory) := by
  cases moved with
  | replaced at_ => exact .inr ⟨_, by rw [at_]; rfl, rfl⟩
  | _ => exact .inl rfl

theorem Moved.log_grows (moved : Moved s i c memory e) :
    e.log = s.log ∨ ∃ a, e.log = s.log ++ [(i, a)] ∧ effected c.pc = none := by
  cases moved with
  | answered before => exact .inr ⟨_, rfl, before⟩
  | replaced at_ => exact .inr ⟨_, rfl, by rw [at_]; rfl⟩
  | _ => exact .inl rfl

theorem changing_holdsMutex {pc : Pc} {change : Change} (h : changing pc = some change) :
    pc.holdsMutex = true := by
  cases pc <;> first | rfl | cases h

theorem changing_holdsLock {change : Change} (h : changing c.pc = some change)
    (writes : c.op.writes = true) : c.holdsLock = true := by
  rw [Call.holdsLock, writes, Bool.true_and]
  cases hpc : c.pc with
  | locking => cases (hpc ▸ h :)
  | returned => cases (hpc ▸ h :)
  | _ => rfl

theorem mutex_of_next (h : s.next i c memory fails order = some e)
    (holds : e.pc.holdsMutex = true) : c.pc.holdsMutex = true ∨ s.mutexFree c.store = true := by
  cases hpc : c.pc with
  | locking =>
    simp only [System.next, hpc] at h
    split at h
    · cases h
      cases holds
    · split at h
      · cases h
        cases holds
      · cases h
  | waiting =>
    simp only [System.next, hpc] at h
    split at h
    · rename_i free
      exact .inr free
    · cases h
  | returned =>
    simp only [System.next, hpc] at h
    cases h
  | _ => exact .inl rfl

theorem lock_of_next (h : s.next i c memory fails order = some e)
    (holds : Call.holdsLock { c with pc := e.pc } = true) :
    c.holdsLock = true ∨ s.lockFree = true := by
  have writes : c.op.writes = true := ((Bool.and_eq_true _ _).mp holds).1
  rw [Call.holdsLock, writes, Bool.true_and] at holds ⊢
  cases hpc : c.pc with
  | locking =>
    simp only [System.next, hpc] at h
    split at h
    · cases h
      cases holds
    · split at h
      · rename_i free
        exact .inr free
      · cases h
  | returned =>
    simp only [System.next, hpc] at h
    cases h
  | _ => exact .inl rfl

theorem mutexFree_iff {store : Nat} :
    s.mutexFree store = true ↔ ∀ c ∈ s.calls, ¬(c.store = store ∧ c.pc.holdsMutex = true) := by
  simp only [System.mutexFree, List.all_eq_true, Bool.or_eq_true, decide_eq_true_eq,
    Bool.not_eq_true', not_and, Bool.not_eq_true]
  exact forall₂_congr fun c _ => ⟨fun h same => h.resolve_left (not_not.mpr same), fun h =>
    (em (c.store = store)).elim (fun same => .inr (h same)) .inl⟩

theorem lockFree_iff : s.lockFree = true ↔ ∀ c ∈ s.calls, ¬c.holdsLock = true := by
  simp [System.lockFree]

end Step

/-- What a run from `file` keeps -/
structure Sound (file : Option File) (s : System) : Prop where
  mutex : ∀ store, Alone (fun c => c.store = store ∧ c.pc.holdsMutex = true) s.calls
  lock : Alone (fun c => c.holdsLock = true) s.calls
  standing : ∀ (i : Nat) c, s.calls[i]? = some c → Standing s i c
  serial : Serial Does s.history (seen file) s.log (seen s.file)
  once : (s.log.map Prod.fst).Nodup

/-- The state after a step of the call `i` -/
def after (s : System) (i : Nat) (c : Call) (e : Effect) : System :=
  ⟨e.file, s.stores.set c.store e.memory, s.calls.set i { c with pc := e.pc }, e.log⟩

section Runs

variable {file : Option File} {s s' : System} {i : Nat} {c : Call} {memory : Peers}
  {e : Effect} {fails : Bool} {order : List (Text × Peer)}

/-- Another call knows what it knew. -/
theorem standing_other (sound : Sound file s) (at_i : s.calls[i]? = some c)
    (own : s.stores[c.store]? = some memory) (moved : Moved s i c memory e) {j : Nat}
    {d : Call} (other : j ≠ i) (at_j : s.calls[j]? = some d) :
    Standing (after s i c e) j d := by
  have standing := sound.standing j d at_j
  refine ⟨standing.texts, fun at_ => ?_, fun change changes => ?_, fun a done => ?_, fun none => ?_⟩
  · rcases moved.file_same with same | ⟨_, -, replaced⟩
    · obtain ⟨f, hfile, there⟩ := standing.there at_
      exact ⟨f, same.trans hfile, there⟩
    · exact ⟨_, replaced, lstat_saved memory⟩
  · obtain ⟨writes, m, held, does, valid⟩ := standing.changed change changes
    have apart : (after s i c e).file = s.file := by
      rcases moved.file_same with same | ⟨_, replaces, -⟩
      · exact same
      · have mine := ((sound.standing i c at_i).changed _ replaces).1
        exact absurd (changing_holdsLock changes writes)
          (sound.lock.out at_i (changing_holdsLock replaces mine) other at_j)
    refine ⟨writes, m, ?_, by rw [apart]; exact does, valid⟩
    by_cases shared : d.store = c.store
    · rcases moved.memory_same with same | holds
      · rw [shared] at held
        cases own.symm.trans held
        rw [shared]
        exact (at_set_self own).trans (congrArg some same)
      · exact absurd ⟨shared, changing_holdsMutex changes⟩
          ((sound.mutex c.store).out at_i ⟨rfl, holds⟩ other at_j)
    · exact at_set_other shared held
  · change (j, a) ∈ e.log
    rcases moved.log_grows with same | ⟨_, grown, -⟩
    · rw [same]
      exact standing.logged a done
    · rw [grown]
      exact mem_append_left _ (standing.logged a done)
  · change j ∉ e.log.map Prod.fst
    rcases moved.log_grows with same | ⟨_, grown, -⟩
    · rw [same]
      exact standing.unlogged none
    · rw [grown, map_append, mem_append]
      rintro (old | new)
      · exact standing.unlogged none old
      · exact other (mem_singleton.mp new)

theorem standing_self (sound : Sound file s) (at_i : s.calls[i]? = some c)
    (own : s.stores[c.store]? = some memory) (moved : Moved s i c memory e) :
    Standing (after s i c e) i { c with pc := e.pc } := by
  have standing := sound.standing i c at_i
  cases moved with
  | walked before after there same =>
    refine ⟨standing.texts, there, fun change changes => ?_, fun a done => ?_, fun _ =>
      standing.unlogged before⟩
    · obtain ⟨writes, m, held, does, valid⟩ := standing.changed change (same change changes)
      cases own.symm.trans held
      exact ⟨writes, memory, at_set_self own, does, valid⟩
    · cases after.symm.trans done
  | changed before holds writes does valid =>
    refine ⟨standing.texts, nofun, fun change same => ?_, nofun, fun _ =>
      standing.unlogged before⟩
    cases same
    exact ⟨writes, _, at_set_self own, does, valid⟩
  | undone before =>
    exact ⟨standing.texts, nofun, nofun, nofun, fun _ => standing.unlogged before⟩
  | finished at_ =>
    refine ⟨standing.texts, nofun, nofun, fun a same => ?_, nofun⟩
    cases same
    exact standing.logged _ (by rw [at_]; rfl)
  | _ =>
    refine ⟨standing.texts, nofun, nofun, fun a same => ?_, nofun⟩
    cases same
    exact mem_append_right _ (mem_singleton.mpr rfl)

theorem history_inv {h : Held} (called : s.history[i]? = some h) :
    ∃ c, s.calls[i]? = some c ∧ h = ⟨c.op, c.pc.result⟩ := by
  rw [System.history, List.getElem?_map] at called
  obtain ⟨c, at_i, rfl⟩ := map_eq_some_iff.mp called
  exact ⟨c, at_i, rfl⟩

/-- The calls ask what they asked. -/
theorem history_ops (at_i : s.calls[i]? = some c) (k : Nat) (h : Held)
    (called : s.history[k]? = some h) :
    ∃ h', (after s i c e).history[k]? = some h' ∧ h'.op = h.op := by
  obtain ⟨d, at_k, rfl⟩ := history_inv called
  by_cases same : k = i
  · subst same
    cases at_i.symm.trans at_k
    refine ⟨⟨c.op, e.pc.result⟩, ?_, rfl⟩
    rw [System.history, List.getElem?_map]
    simp [after, at_set_self at_i]
  · refine ⟨⟨d.op, d.pc.result⟩, ?_, rfl⟩
    rw [System.history, List.getElem?_map]
    simp [after, at_set_other same at_k]

section

variable (sound : Sound file s) (at_i : s.calls[i]? = some c)

include sound at_i

theorem serial_after (own : s.stores[c.store]? = some memory) (moved : Moved s i c memory e) :
    Serial Does (after s i c e).history (seen file) e.log (seen e.file) := by
  have kept : Serial Does (after s i c e).history (seen file) s.log (seen s.file) :=
    sound.serial.same_ops (history_ops at_i)
  have called : (after s i c e).history[i]? = some ⟨c.op, e.pc.result⟩ := by
    rw [System.history, List.getElem?_map]
    simp [after, at_set_self at_i]
  cases moved with
  | answered before holds does => exact .snoc kept called does
  | replaced at_ =>
    obtain ⟨-, m, held, does, valid⟩ :=
      (sound.standing i c at_i).changed _ (by rw [at_]; rfl)
    cases own.symm.trans held
    exact .snoc kept called ((seen_saved valid).symm ▸ does)
  | _ => exact kept

theorem once_after (moved : Moved s i c memory e) : (e.log.map Prod.fst).Nodup := by
  rcases moved.log_grows with same | ⟨a, grown, none⟩
  · exact same ▸ sound.once
  · rw [grown, map_append, map_singleton, nodup_append]
    refine ⟨sound.once, nodup_singleton _, fun x old y new same => ?_⟩
    have fresh : x = i := same.trans (mem_singleton.mp new)
    exact (sound.standing i c at_i).unlogged none (fresh ▸ old)

theorem sound_after (own : s.stores[c.store]? = some memory) (h :
    s.next i c memory fails order = some e)
    (moved : Moved s i c memory e) : Sound file (after s i c e) where
  mutex store := by
    refine alone_set (sound.mutex store) at_i fun ⟨same, holds⟩ => ?_
    rcases mutex_of_next h holds with held | free
    · exact .inl ⟨same, held⟩
    · exact .inr fun j d _ at_j => mutexFree_iff.mp (same ▸ free) d (mem_of_getElem? at_j)
  lock := by
    refine alone_set sound.lock at_i fun holds => ?_
    rcases lock_of_next h holds with held | free
    · exact .inl held
    · exact .inr fun j d _ at_j => lockFree_iff.mp free d (mem_of_getElem? at_j)
  standing j d at_j := by
    rcases at_set at_j with ⟨rfl, rfl⟩ | ⟨other, at_j⟩
    · exact standing_self sound at_i own moved
    · exact standing_other sound at_i own moved other at_j
  serial := serial_after sound at_i own moved
  once := once_after sound at_i moved

end

theorem sound_open (sound : Sound file s) (m : Peers) :
    Sound file { s with stores := s.stores ++ [m] } where
  mutex := sound.mutex
  lock := sound.lock
  standing j d at_j := by
    have standing := sound.standing j d at_j
    refine ⟨standing.texts, standing.there, fun change changes => ?_, standing.logged,
      standing.unlogged⟩
    obtain ⟨writes, m, held, does, valid⟩ := standing.changed change changes
    exact ⟨writes, m, at_push_old held, does, valid⟩
  serial := sound.serial
  once := sound.once

theorem sound_call (sound : Sound file s) {d : Call} (texts : d.op.Valid)
    (waits : d.pc = .locking ∨ d.pc = .waiting)
    (locking : d.op.writes = true → d.pc = .locking) :
    Sound file { s with calls := s.calls ++ [d] } where
  mutex store := by
    refine alone_push (sound.mutex store) fun both => ?_
    rcases waits with at_ | at_ <;> cases (at_ ▸ both.2 :)
  lock := by
    refine alone_push sound.lock fun holds => ?_
    have writes : d.op.writes = true := ((Bool.and_eq_true _ _).mp holds).1
    rw [Call.holdsLock, locking writes, Bool.and_false] at holds
    cases holds
  standing j x at_j := by
    rcases at_push at_j with at_j | ⟨rfl, rfl⟩
    · have standing := sound.standing j x at_j
      exact ⟨standing.texts, standing.there, standing.changed, standing.logged, standing.unlogged⟩
    · have new : s.calls.length ∉ s.log.map Prod.fst := by
        intro member
        have early := sound.serial.called member
        rw [System.history, length_map] at early
        exact Nat.lt_irrefl _ early
      have idle : effected x.pc = none ∧ changing x.pc = none ∧ x.pc ≠ .reading := by
        rcases waits with at_ | at_ <;> rw [at_] <;> exact ⟨rfl, rfl, by rintro ⟨⟩⟩
      refine ⟨texts, fun at_ => absurd at_ idle.2.2, fun change changes => ?_, fun a done => ?_,
        fun _ => new⟩
      · cases idle.2.1.symm.trans changes
      · cases idle.1.symm.trans done
  serial := by
    refine sound.serial.same_ops fun k h called => ⟨h, ?_, rfl⟩
    rw [System.history, map_append]
    exact at_push_old called
  once := sound.once

theorem step_inv (h : step s (.step i fails order) = some s') :
    ∃ c memory e, s.calls[i]? = some c ∧ s.stores[c.store]? = some memory ∧
      s.next i c memory fails order = some e ∧ s' = after s i c e := by
  obtain ⟨c, at_i, h⟩ := bind_eq_some_iff.mp h
  obtain ⟨memory, own, h⟩ := bind_eq_some_iff.mp h
  obtain ⟨e, next, rfl⟩ := map_eq_some_iff.mp h
  exact ⟨c, memory, e, at_i, own, next, rfl⟩

theorem steady_securing (quiet : steady s (.step i fails order) = true)
    (at_i : s.calls[i]? = some c) (change : Change) (at_ : c.pc = .securing change) :
    fails = false := by
  simpa [steady, at_i, at_] using quiet

theorem sound_step {a : Action} (sound : Sound file s) (quiet : steady s a = true)
    (h : step s a = some s') : Sound file s' := by
  cases a with
  | openStore =>
    simp only [step] at h
    split at h
    · cases h
      exact sound
    · cases h
      exact sound_open sound _
  | call store op =>
    simp only [step] at h
    split at h
    · cases h
      have texts : op.Valid := by
        cases op with
        | put p =>
          have valid : p.readBack = p := of_decide_eq_true quiet
          exact valid
        | _ => trivial
      cases writes : op.writes with
      | true => exact sound_call sound texts (.inl rfl) fun _ => rfl
      | false => exact sound_call sound texts (.inr rfl) fun yes => nomatch writes.symm.trans yes
    · cases h
  | step i =>
    obtain ⟨c, memory, e, at_i, own, next, rfl⟩ := step_inv h
    have moved := moved_of_next next (sound.standing i c at_i) (steady_securing quiet at_i)
    exact sound_after sound at_i own next moved

theorem sound_start (file : Option File) : Sound file (start file) :=
  ⟨fun _ => alone_nil, alone_nil, fun _ _ none => (by cases none), .nil, nodup_nil⟩

theorem log_extends {a : Action} (sound : Sound file s) (quiet : steady s a = true)
    (h : step s a = some s') : s.log <+: s'.log := by
  cases a with
  | openStore =>
    simp only [step] at h
    split at h <;> cases h <;> exact prefix_refl _
  | call =>
    simp only [step] at h
    split at h
    · cases h
      exact prefix_refl _
    · cases h
  | step i =>
    obtain ⟨c, memory, e, at_i, -, next, rfl⟩ := step_inv h
    have moved := moved_of_next next (sound.standing i c at_i) (steady_securing quiet at_i)
    change s.log <+: e.log
    rcases moved.log_grows with same | ⟨a, grown, -⟩
    · exact same ▸ prefix_refl _
    · rw [grown]
      exact prefix_append _ _

theorem explains_of_sound (sound : Sound file s) :
    Explains Does (seen file) s.history s.log (seen s.file) where
  serial := sound.serial
  once := sound.once
  answered i h a called returned := by
    obtain ⟨c, at_i, rfl⟩ := history_inv called
    refine (sound.standing i c at_i).logged a ?_
    cases hpc : c.pc <;> rw [hpc] at returned <;> cases returned
    rfl
  failed i h called returned := by
    obtain ⟨c, at_i, rfl⟩ := history_inv called
    refine (sound.standing i c at_i).unlogged ?_
    cases hpc : c.pc <;> rw [hpc] at returned <;> cases returned
    rfl

end Runs

/-- In a run in which the texts of the peers are valid and the mode of a new file can always be
set, the calls are explained by the log: those that have returned an answer took effect once, with
that answer, and those that have failed took none, so what is seen of the file is the work of the
others. A call that has returned is in front of every call that begins later. -/
theorem updates_linearizable (file : Option File) (earlier later : List Action) (s t : System)
    (quiet : Runs.Meets step (steady · · = true) (start file) (earlier ++ later))
    (before : Runs.exec step (start file) earlier = some s)
    (after : Runs.exec step s later = some t) :
    Explains Does (seen file) t.history t.log (seen t.file) ∧
    ∀ (i j : Nat) c a, s.calls[i]? = some c → c.pc = .returned (some a) → s.calls.length ≤ j →
      ∃ front back, t.log = front ++ back ∧ (i, a) ∈ front ∧ j ∉ front.map Prod.fst := by
  obtain ⟨quietBefore, quietAfter⟩ := Runs.meets_append before quiet
  have sound : Sound file s := Runs.exec_invariant (Sound file)
    (fun _ _ _ held quiet moved => sound_step held quiet moved) (sound_start file) quietBefore
    before
  have last : Sound file t ∧ s.log <+: t.log :=
    Runs.exec_invariant (fun t => Sound file t ∧ s.log <+: t.log)
      (fun _ _ _ held quiet moved => ⟨sound_step held.1 quiet moved,
        held.2.trans (log_extends held.1 quiet moved)⟩)
      ⟨sound, prefix_refl _⟩ quietAfter after
  refine ⟨explains_of_sound last.1, fun i j c a at_i returned later => ?_⟩
  have called : s.history[i]? = some ⟨c.op, c.pc.result⟩ := by
    rw [System.history, List.getElem?_map, at_i, map_some]
  refine (explains_of_sound sound).in_order last.2 called ?_ ?_
  · rw [returned]
    rfl
  · rw [System.history, length_map]
    exact later

section Sample

/-- A peer whose texts are ASCII -/
def samplePeer : Peer := ⟨[112], [110], [102], [], none⟩

/-- A store puts the peer; the last step of the call is to set the mode of the new file. -/
def putRun (fails : Bool) : List Action :=
  ([.openStore false, .openStore false, .call 0 (.put samplePeer 7)] : List Action) ++
    replicate 5 (Action.step 0 false []) ++ ([.step 0 fails []] : List Action)

/-- Another store looks it up. -/
def getRun : List Action :=
  Action.call 1 (.get [112]) :: replicate 2 (Action.step 1 false []) ++
    ([.step 1 false [([112], samplePeer.stamped 7)]] : List Action)

theorem updates_linearizable_put :
    ∃ s t, Runs.exec step (start none) (putRun false) = some s ∧ Runs.exec step s getRun = some t ∧
      t.log = [(0, .stored), (1, .got (some (samplePeer.stamped 7)))] ∧
      Explains Does (seen none) t.history t.log (seen t.file) := by
  have run : (Runs.exec step (start none) (putRun false)).any (fun s =>
      (Runs.exec step s getRun).any fun t =>
        decide (t.log = [(0, .stored), (1, .got (some (samplePeer.stamped 7)))])) = true := by
    decide +kernel
  obtain ⟨s, before, run⟩ := (Option.any_eq_true _ _).mp run
  obtain ⟨t, after, log⟩ := (Option.any_eq_true _ _).mp run
  refine ⟨s, t, before, after, of_decide_eq_true log, ?_⟩
  exact (updates_linearizable none (putRun false) getRun s t (by decide +kernel) before after).1

/-- `Put` returns an error after it has replaced the file, and the peer is trusted. -/
theorem failed_put_trusted : seen none [112] = none ∧
    ∃ s t, Runs.exec step (start none) (putRun true) = some s ∧ Runs.exec step s getRun = some t ∧
      s.calls.map Call.pc = [.returned none] ∧
      t.calls.map Call.pc =
        [.returned none, .returned (some (.got (some (samplePeer.stamped 7))))] := by
  have run : (Runs.exec step (start none) (putRun true)).any (fun s =>
      decide (s.calls.map Call.pc = [.returned none]) && (Runs.exec step s getRun).any fun t =>
        decide (t.calls.map Call.pc =
          [.returned none, .returned (some (.got (some (samplePeer.stamped 7))))])) = true := by
    decide +kernel
  obtain ⟨s, before, run⟩ := (Option.any_eq_true _ _).mp run
  obtain ⟨failed, run⟩ := (Bool.and_eq_true _ _).mp run
  obtain ⟨t, after, trusted⟩ := (Option.any_eq_true _ _).mp run
  exact ⟨rfl, s, t, before, after, of_decide_eq_true failed, of_decide_eq_true trusted⟩

end Sample

end TrustUpdates
