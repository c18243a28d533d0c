import WeDecent.ConnectionOwnership

/-!
# A connection whose local close fails

`Disconnect` marks a connection as closing, calls `Close` on its handle and, when that fails,
samples `Done` and takes the mark back. The watcher of the connection looks at the entry only
once, when `Done` is closed: a look between the sample and the taking back finds the mark, and
nobody removes the entry afterwards. When no look falls into that gap, a connection stays active
after its `Done` only for a `Disconnect` that is still at work or that found `Done` closed.
-/

namespace FailedDisconnect

open Bool List Option

open Cells ConnectionObligations ConnectionOwnership ConnectionService CoreRequests GoMap

/-- What a thread has to do with the closing of a connection -/
inductive Phase where
  | outside
  /-- The watcher has looked. -/
  | watched (token : Nat)
  /-- `Disconnect` has marked the connection, and may have sampled `Done`. -/
  | working (token : Nat) (sampled : Option Bool)
  /-- `Disconnect` has returned because the handle failed to close. -/
  | failed (token : Nat) (sampled : Bool)
deriving DecidableEq

def phase : Thread → Phase
  | .watched token => .watched token
  | .disconnect (.closing _ token _) => .working token none
  | .disconnect (.failed _ token _) => .working token none
  | .disconnect (.sampled _ token doneClosed) => .working token (some doneClosed)
  | .disconnect (.clearing _ token _) => .working token none
  | .disconnect (.returned (some (token, doneClosed)) _) => .failed token doneClosed
  | _ => .outside

/-- What a step of one thread means for the closing of connections: the map of the active
connections after it, and the phase of the thread -/
inductive Turn (s : Shared) (t : Thread) : GoMap ID ActiveConnection → Phase → Prop
  | quiet : Turn s t s.active (phase t)
  | joined (id : ID) (a) (before : phase t = .outside)
      (unmarked : a.closing = false) (heeded : a.suppressDone = false)
      (fresh : a.token = s.generations.length) : Turn s t (s.active.set id a) .outside
  | emptied (before : phase t = .outside) : Turn s t .empty .outside
  | marked (id : ID) (a) (before : phase t = .outside) (found : s.active.get id = some a) :
      Turn s t (s.active.set id { a with closing := true }) (.working a.token none)
  | sampled (token : Nat) (id : ID) (h : Nat) (before : phase t = .working token none)
      (made : Knows s t → Made s token id h) :
      Turn s t s.active (.working token (some (s.signalled h)))
  | cleared (id : ID) (a) (doneClosed : Bool)
      (before : phase t = .working a.token (some doneClosed)) (found : s.active.get id = some a) :
      Turn s t (s.active.set id { a with closing := false, suppressDone := doneClosed })
        (.failed a.token doneClosed)
  /-- `Disconnect` ends, and the connection is not active any more. -/
  | ended (id : ID) (token : Nat) (active) (after : Phase)
      (before : ∃ sample, phase t = .working token sample)
      (made : Knows s t → ∃ h, Made s token id h)
      (left : ∀ k a, active.get k = some a → s.active.get k = some a)
      (absent : ∀ a, active.get id = some a → a.token ≠ token)
      (past : after = .outside ∨ ∃ doneClosed, after = .failed token doneClosed) :
      Turn s t active after
  /-- The watcher leaves no entry of the connection. -/
  | gone (id : ID) (token h : Nat) (active)
      (watcher : t = .watch id token h) (done : s.signalled h = true)
      (left : ∀ k a, active.get k = some a → s.active.get k = some a)
      (absent : ∀ a, active.get id = some a → a.token ≠ token) :
      Turn s t active (.watched token)
  | refused (id : ID) (token h : Nat) (a) (watcher : t = .watch id token h)
      (done : s.signalled h = true) (found : s.active.get id = some a) (same : a.token = token)
      (marked : a.closing = true) : Turn s t s.active (.watched token)
  | suppressed (id : ID) (token h : Nat) (a) (watcher : t = .watch id token h)
      (done : s.signalled h = true) (found : s.active.get id = some a) (same : a.token = token)
      (suppress : a.suppressDone = true) :
      Turn s t (s.active.set id { a with suppressDone := false }) (.watched token)

section Inversion

variable {cfg : Config} {s : Shared} {o : Outcome}

/-- The thread moves, and nothing happens to the active connections. -/
theorem still {t : Thread} (active : o.shared.active = s.active) (same : phase o.thread = phase t)
    (alone : o.spawned = []) :
    Turn s t o.shared.active (phase o.thread) ∧ ∀ x ∈ o.spawned, phase x = .outside := by
  rw [active, same, alone]
  exact ⟨.quiet, fun _ member => absurd member not_mem_nil⟩

theorem turn_of_activate {connection : Connection} {h : Nat} {picks : List ID}
    (step : activate cfg s connection h picks = some o) :
    Turn s (.connect (.activating connection h)) o.shared.active (phase o.thread) ∧
      o.spawned = [] := by
  unfold activate at step
  simp only at step
  split at step
  · obtain ⟨-, step⟩ := ite_none_right_eq_some.mp step
    cases step
    exact ⟨.quiet, rfl⟩
  · split at step
    · obtain ⟨-, -, rfl⟩ := map_eq_some_iff.mp step
      exact ⟨.joined _ _ rfl rfl rfl rfl, rfl⟩
    · obtain ⟨-, step⟩ := ite_none_right_eq_some.mp step
      cases step
      exact ⟨.joined _ _ rfl rfl rfl rfl, rfl⟩

theorem turn_of_connectStep {pc : ConnectPc} {a : Act} (h : connectStep cfg s pc a = some o) :
    Turn s (.connect pc) o.shared.active (phase o.thread) ∧
      ∀ x ∈ o.spawned, phase x = .outside := by
  unfold connectStep reserveOpening reserveConnectionID opened at h
  split at h
  case h_14 =>
    obtain ⟨turn, none_spawned⟩ := turn_of_activate h
    exact ⟨turn, none_spawned ▸ (forall_mem_nil _)⟩
  case h_18 =>
    cases h
    refine ⟨.quiet, fun x member => ?_⟩
    split at member
    · cases mem_singleton.mp member
      rfl
    · cases member
  all_goals
    repeat' split at h
    all_goals cases h
    all_goals exact still rfl rfl rfl

theorem turn_of_disconnectStep {pc : DisconnectPc} {a : Act} (h : disconnectStep s pc a = some o) :
    Turn s (.disconnect pc) o.shared.active (phase o.thread) ∧
      ∀ x ∈ o.spawned, phase x = .outside := by
  cases pc with
  | looking id =>
    cases a <;> try cases h
    simp only [disconnectStep] at h
    split at h
    · cases h
      exact still rfl rfl rfl
    rename_i a found
    split at h
    · cases h
      exact still rfl rfl rfl
    · cases h
      exact ⟨.marked id a rfl found, by intros; contradiction⟩
  | closing =>
    cases a <;> try cases h
    refine ⟨?_, by intros; contradiction⟩
    split <;> exact .quiet
  | failed id token handle =>
    cases a <;> try cases h
    exact ⟨.sampled token id handle rfl fun made => made, by intros; contradiction⟩
  | sampled id token doneClosed =>
    cases a <;> try cases h
    simp only [disconnectStep] at h
    split at h
    · rename_i a found
      split at h
      · rename_i same
        cases h
        subst same
        exact ⟨.cleared id a doneClosed rfl found, by intros; contradiction⟩
      · rename_i other
        cases h
        refine ⟨.ended id token s.active _ ⟨_, rfl⟩ (fun made => made) (fun _ _ found => found) ?_
          (.inr ⟨_, rfl⟩), by intros; contradiction⟩
        intro b at_id
        cases found.symm.trans at_id
        exact other
    · rename_i absent
      cases h
      refine ⟨.ended id token s.active _ ⟨_, rfl⟩ (fun made => made) (fun _ _ found => found) ?_
        (.inr ⟨_, rfl⟩), by intros; contradiction⟩
      intro b at_id
      cases absent.symm.trans at_id
  | clearing id token handle =>
    cases a with
    | go =>
      have erased : Turn s (.disconnect (.clearing id token handle)) (s.active.erase id) .outside :=
        .ended id token _ _ ⟨_, rfl⟩ (fun known => ⟨handle, known.1⟩)
          (fun _ _ found => (get_of_erase found).2)
          (fun _ found => absurd rfl (get_of_erase found).1) (.inl rfl)
      simp only [disconnectStep] at h
      split at h
      · split at h <;> cases h <;> exact ⟨erased, by intros; contradiction⟩
      rename_i other
      have unchanged : Turn s (.disconnect (.clearing id token handle)) s.active .outside := by
        refine .ended id token _ _ ⟨_, rfl⟩ (fun known => ⟨handle, known.1⟩)
          (fun _ _ found => found) (fun b at_id => ?_) (.inl rfl)
        rintro rfl
        exact other ((Option.any_eq_true _ _).mpr ⟨b, at_id, decide_eq_true rfl⟩)
      split at h <;> cases h <;> exact ⟨unchanged, by intros; contradiction⟩
    | _ => cases h
  | returned => cases a <;> cases h

theorem turn_of_watchRemoteClose {id : ID} {token h : Nat} (done : s.signalled h = true) :
    Turn s (.watch id token h) (watchRemoteClose s id token).shared.active
        (phase (watchRemoteClose s id token).thread) ∧
      ∀ x ∈ (watchRemoteClose s id token).spawned, phase x = .outside := by
  have unchanged : (∀ a, s.active.get id = some a → a.token ≠ token) →
      Turn s (.watch id token h) s.active (.watched token) :=
    .gone id token h s.active rfl done fun _ _ found => found
  have erased : Turn s (.watch id token h) (s.active.erase id) (.watched token) :=
    .gone id token h _ rfl done (fun _ _ found => (get_of_erase found).2)
      fun _ found => absurd rfl (get_of_erase found).1
  unfold watchRemoteClose
  split
  · rename_i absent
    exact ⟨unchanged fun a found => (by cases absent.symm.trans found), by simp⟩
  rename_i a found
  split
  · rename_i other
    refine ⟨unchanged fun b at_id => ?_, by simp⟩
    cases found.symm.trans at_id
    exact other
  · rename_i same
    rw [ne_eq, Decidable.not_not] at same
    split
    · rename_i marked
      exact ⟨.refused id token h a rfl done found same marked, by simp⟩
    split
    · rename_i suppress
      exact ⟨.suppressed id token h a rfl done found same suppress, by simp⟩
    dsimp only
    split
    · exact ⟨erased, by simp⟩
    split
    · refine ⟨erased, fun x member => ?_⟩
      cases mem_singleton.mp member
      rfl
    · exact ⟨erased, by simp⟩

theorem turn_of_openStep {pc : OpenPc} {a : Act} (h : openStep s pc a = some o) :
    Turn s (.openTerminal pc) o.shared.active (phase o.thread) ∧
      ∀ x ∈ o.spawned, phase x = .outside := by
  unfold openStep reserveTerminalStreamID register at h
  split at h
  case h_12 =>
    cases h
    refine ⟨.quiet, fun x member => ?_⟩
    cases mem_singleton.mp member
    rfl
  all_goals
    repeat' split at h
    all_goals cases h
    all_goals exact still rfl rfl rfl

theorem turn_of_advance {t : Thread} {a : Act} (h : advance cfg s t a = some o) :
    Turn s t o.shared.active (phase o.thread) ∧ ∀ x ∈ o.spawned, phase x = .outside := by
  unfold advance at h
  split at h
  · exact turn_of_connectStep h
  · exact turn_of_disconnectStep h
  · unfold closeStep at h
    split at h
    · split at h
      · cases h
        exact still rfl rfl rfl
      · cases h
        exact ⟨.emptied rfl, by simp⟩
    · obtain ⟨e, -, rfl⟩ := map_eq_some_iff.mp h
      exact still rfl rfl rfl
    · cases h
      exact still rfl rfl rfl
    · cases h
  · exact turn_of_openStep h
  · obtain ⟨done, h⟩ := ite_none_right_eq_some.mp h
    cases h
    exact turn_of_watchRemoteClose done
  · cases h
    refine ⟨?_, by simp⟩
    unfold expireTerminalStream
    split <;> exact .quiet
  · obtain ⟨-, h⟩ := ite_none_right_eq_some.mp h
    cases h
    refine ⟨?_, by simp⟩
    unfold removeLogicalTerminal
    split <;> exact .quiet
  · cases h

end Inversion

/-- A reason for a connection to stay active after its `Done` -/
def Keeps (token : Nat) : Phase → Prop
  | .working token' sample => token' = token ∧ sample ≠ some false
  | .failed token' doneClosed => token' = token ∧ doneClosed = true
  | _ => False

section Turns

variable {s : Shared} {t : Thread} {active : GoMap ID ActiveConnection} {after : Phase} {k : ID}
  {b : ActiveConnection}

/-- A token stands for one connection ID. -/
theorem id_of_token (facts : Facts s) {id : ID} {token h : Nat} (made : Made s token id h)
    (found : s.active.get k = some b) (same : b.token = token) : k = id := by
  have made' := (facts.active k b found).1
  rw [same] at made'
  exact congrArg Generation.id (Option.some.inj (made'.symm.trans made.1))

theorem outside_of_watch {id : ID} {token h : Nat} (watcher : t = .watch id token h) :
    phase t = .outside := by
  rw [watcher]
  rfl

section

variable (turn : Turn s t active after)

include turn

/-- A marked connection was marked before, and its `Disconnect` is still at work, or the thread
is that `Disconnect`. -/
theorem marked_after (facts : Facts s) (known : Knows s t)
    (found : active.get k = some b) (marked : b.closing = true) :
    (∃ sample, after = .working b.token sample) ∨
      ∃ a, s.active.get k = some a ∧ a.closing = true ∧ a.token = b.token ∧
        ∀ sample, phase t ≠ .working b.token sample := by
  have before_outside : phase t = .outside → ∀ sample, phase t ≠ .working b.token sample :=
    fun outside _ working => nomatch outside.symm.trans working
  by_cases quiet : ∃ sample, phase t = .working b.token sample ∧ after = phase t
  · obtain ⟨sample, working, same⟩ := quiet
    exact .inl ⟨sample, same.trans working⟩
  cases turn with
  | quiet =>
    refine .inr ⟨b, found, marked, rfl, fun sample working => quiet ⟨sample, working, rfl⟩⟩
  | joined id a before unmarked =>
    rcases get_of_set found with ⟨-, rfl⟩ | ⟨-, old⟩
    · cases unmarked.symm.trans marked
    · exact .inr ⟨b, old, marked, rfl, before_outside before⟩
  | emptied => cases found
  | marked id a before =>
    rcases get_of_set found with ⟨-, rfl⟩ | ⟨-, old⟩
    · exact .inl ⟨none, rfl⟩
    · exact .inr ⟨b, old, marked, rfl, before_outside before⟩
  | sampled token id h before =>
    by_cases same : token = b.token
    · exact .inl ⟨_, by rw [same]⟩
    · refine .inr ⟨b, found, marked, rfl, fun sample working => ?_⟩
      cases before.symm.trans working
      exact same rfl
  | cleared id a _ before at_id =>
    rcases get_of_set found with ⟨-, rfl⟩ | ⟨other, old⟩
    · cases marked
    · refine .inr ⟨b, old, marked, rfl, fun sample working => other ?_⟩
      obtain ⟨same, -⟩ := Phase.working.inj (before.symm.trans working)
      exact id_of_token facts (facts.active id a at_id) old same.symm
  | ended id token active after before made left absent =>
    obtain ⟨sample, before⟩ := before
    refine .inr ⟨b, left k b found, marked, rfl, fun sample' working => ?_⟩
    obtain ⟨h, made⟩ := made known
    obtain ⟨same, -⟩ := Phase.working.inj (before.symm.trans working)
    have here := id_of_token facts made (left k b found) same.symm
    exact absent b (here ▸ found) same.symm
  | gone id token h active watcher done left =>
    exact .inr ⟨b, left k b found, marked, rfl, before_outside (outside_of_watch watcher)⟩
  | refused id token h a watcher =>
    exact .inr ⟨b, found, marked, rfl, before_outside (outside_of_watch watcher)⟩
  | suppressed id token h a watcher done at_id =>
    rcases get_of_set found with ⟨rfl, rfl⟩ | ⟨-, old⟩
    · exact .inr ⟨a, at_id, marked, rfl, before_outside (outside_of_watch watcher)⟩
    · exact .inr ⟨b, old, marked, rfl, before_outside (outside_of_watch watcher)⟩

/-- `suppressDone` is set by a `Disconnect` that returns with a closed `Done`. -/
theorem suppressed_after (found : active.get k = some b) (suppress : b.suppressDone = true) :
    after = .failed b.token true ∨
      ∃ a, s.active.get k = some a ∧ a.suppressDone = true ∧ a.token = b.token ∧
        (phase t = .failed b.token true → after = phase t) := by
  have other : ∀ {p : Phase}, phase t = p → p ≠ .failed b.token true →
      phase t = .failed b.token true → after = phase t :=
    fun before differs failed => absurd (before.symm.trans failed) differs
  cases turn with
  | quiet => exact .inr ⟨b, found, suppress, rfl, fun _ => rfl⟩
  | joined id a before _ heeded =>
    rcases get_of_set found with ⟨-, rfl⟩ | ⟨-, old⟩
    · cases heeded.symm.trans suppress
    · exact .inr ⟨b, old, suppress, rfl, other before (by rintro ⟨⟩)⟩
  | emptied => cases found
  | marked id a before at_id =>
    rcases get_of_set found with ⟨rfl, rfl⟩ | ⟨-, old⟩
    · exact .inr ⟨a, at_id, suppress, rfl, other before (by rintro ⟨⟩)⟩
    · exact .inr ⟨b, old, suppress, rfl, other before (by rintro ⟨⟩)⟩
  | sampled token id h before => exact .inr ⟨b, found, suppress, rfl, other before (by rintro ⟨⟩)⟩
  | cleared id a _ before =>
    rcases get_of_set found with ⟨-, rfl⟩ | ⟨-, old⟩
    · exact .inl (congrArg (Phase.failed a.token) suppress)
    · exact .inr ⟨b, old, suppress, rfl, other before (by rintro ⟨⟩)⟩
  | ended id token active after before _ left =>
    obtain ⟨sample, before⟩ := before
    exact .inr ⟨b, left k b found, suppress, rfl, other before (by rintro ⟨⟩)⟩
  | gone id token h active watcher _ left =>
    exact .inr ⟨b, left k b found, suppress, rfl, other (outside_of_watch watcher) (by rintro ⟨⟩)⟩
  | refused id token h a watcher =>
    exact .inr ⟨b, found, suppress, rfl, other (outside_of_watch watcher) (by rintro ⟨⟩)⟩
  | suppressed id token h a watcher =>
    rcases get_of_set found with ⟨rfl, rfl⟩ | ⟨-, old⟩
    · cases suppress
    · exact .inr ⟨b, old, suppress, rfl, other (outside_of_watch watcher) (by rintro ⟨⟩)⟩

/-- An entry of a token that existed before the step was there before. -/
theorem entry_before (found : active.get k = some b) (old : b.token ≠ s.generations.length) :
    ∃ a, s.active.get k = some a ∧ a.token = b.token := by
  cases turn with
  | joined id a before _ _ fresh =>
    rcases get_of_set found with ⟨-, rfl⟩ | ⟨-, at_k⟩
    · exact absurd fresh old
    · exact ⟨b, at_k, rfl⟩
  | emptied => cases found
  | marked id a before at_id | cleared id a _ before at_id
  | suppressed id token h a watcher done at_id =>
    rcases get_of_set found with ⟨rfl, rfl⟩ | ⟨-, at_k⟩
    · exact ⟨a, at_id, rfl⟩
    · exact ⟨b, at_k, rfl⟩
  | ended id token active _ before _ left => exact ⟨b, left k b found, rfl⟩
  | gone id token h active watcher done left => exact ⟨b, left k b found, rfl⟩
  | _ => exact ⟨b, found, rfl⟩

/-- A thread that keeps a connection whose `Done` is closed goes on doing so while the connection
is active. -/
theorem keeps_after (facts : Facts s) (known : Knows s t)
    (found : active.get k = some b) {id : ID} {h : Nat} (made : Made s b.token id h)
    (done : s.signalled h = true) (keeps : Keeps b.token (phase t)) : Keeps b.token after := by
  have outside : phase t ≠ .outside := fun before => by
    rw [before] at keeps
    exact keeps
  cases turn with
  | quiet => exact keeps
  | joined id a before => exact absurd before outside
  | emptied before => exact absurd before outside
  | marked id a before => exact absurd before outside
  | sampled token id' h' before made' =>
    rw [before] at keeps
    obtain ⟨rfl, -⟩ := keeps
    cases made_unique made (made' known)
    exact ⟨rfl, by rw [done]; nofun⟩
  | cleared id' a _ before =>
    rw [before] at keeps
    exact ⟨keeps.1, ne_false_iff.mp fun sampled => keeps.2 (congrArg some sampled)⟩
  | ended id' token active after before made' left absent =>
    obtain ⟨sample, before⟩ := before
    rw [before] at keeps
    obtain ⟨h', made'⟩ := made' known
    have here := id_of_token facts made' (left k b found) keeps.1.symm
    exact absurd keeps.1.symm (absent b (here ▸ found))
  | gone id' token h' active watcher | refused id' token h' a watcher
  | suppressed id' token h' a watcher =>
    exact absurd (outside_of_watch watcher) outside

/-- What the watcher has found when it leaves an entry of the connection -/
theorem watched_after (facts : Facts s) (known : Knows s t)
    {token : Nat} (watched : after = .watched token) :
    phase t = .watched token ∨ ∃ id h, t = .watch id token h ∧ Made s token id h ∧
      s.signalled h = true ∧ (∀ k b, active.get k = some b → b.token = token →
        ∃ a, s.active.get id = some a ∧ a.token = token ∧
          (a.closing = true ∨ a.suppressDone = true)) := by
  cases turn with
  | quiet => exact .inl watched
  | ended id token' active after _ _ left absent past =>
    rcases past with rfl | ⟨doneClosed, rfl⟩ <;> cases watched
  | gone id token' h active watcher done left absent =>
    cases watched
    subst watcher
    refine .inr ⟨id, h, rfl, known, done, fun k b found same => ?_⟩
    have here := id_of_token facts known (left k b found) same
    exact absurd same (absent b (here ▸ found))
  | refused id token' h a watcher done found same marked =>
    cases watched
    subst watcher
    exact .inr ⟨id, h, rfl, known, done, fun _ _ _ _ => ⟨a, found, same, .inl marked⟩⟩
  | suppressed id token' h a watcher done found same suppress =>
    cases watched
    subst watcher
    exact .inr ⟨id, h, rfl, known, done, fun _ _ _ _ => ⟨a, found, same, .inr suppress⟩⟩
  | _ => cases watched

end

end Turns

/-- A `Disconnect` has sampled that `Done` is open, and the mark is still on the connection. -/
def inGap (token : Nat) : Thread → Bool
  | .disconnect (.sampled _ token' false) => token' == token
  | _ => false

/-- The watcher of a connection does not look in the gap. -/
def timely (s : State) : Action → Bool
  | .run i _ =>
    match s.threads[i]? with
    | some (.watch _ token _) => !s.threads.any (inGap token)
    | _ => true
  | _ => true

structure Attended (s : State) : Prop where
  /-- A mark is that of a `Disconnect` at work. -/
  marked : ∀ (id : ID) (a : ActiveConnection), s.shared.active.get id = some a →
    a.closing = true → ∃ t ∈ s.threads, ∃ sample, phase t = .working a.token sample
  suppressed : ∀ (id : ID) (a : ActiveConnection), s.shared.active.get id = some a →
    a.suppressDone = true → ∃ t ∈ s.threads, phase t = .failed a.token true
  /-- A watcher looks when `Done` is closed. -/
  seen : ∀ t ∈ s.threads, ∀ token, phase t = .watched token →
    ∃ (id : ID) (h : Nat), Made s.shared token id h ∧ s.shared.signalled h = true
  kept : ∀ t ∈ s.threads, ∀ token, phase t = .watched token → ∀ (id : ID) (a : ActiveConnection),
    s.shared.active.get id = some a → a.token = token → ∃ u ∈ s.threads, Keeps token (phase u)

section Attended

variable {cfg : Config} {s s' : State}

theorem attended_initial : Attended initial where
  marked := fun _ _ found => nomatch found
  suppressed := fun _ _ found => nomatch found
  seen := fun _ member => absurd member not_mem_nil
  kept := fun _ member => absurd member not_mem_nil

theorem inGap_of_phase {t : Thread} {token : Nat} (h : phase t = .working token (some false)) :
    inGap token t = true := by
  unfold phase at h
  split at h <;> cases h
  exact beq_self_eq_true token

theorem watched_of_phase {t : Thread} {token : Nat} (h : phase t = .watched token) :
    t = .watched token := by
  unfold phase at h
  split at h <;> cases h
  rfl

theorem attended_of_start (attended : Attended s) {t : Thread} (outside : phase t = .outside) :
    Attended (s.start t) := by
  have older : ∀ {P : Thread → Prop}, (∃ u ∈ s.threads, P u) → ∃ u ∈ (s.start t).threads, P u :=
    fun ⟨u, member, holds⟩ => ⟨u, mem_append_left _ member, holds⟩
  have watcher : ∀ {u token}, u ∈ (s.start t).threads → phase u = .watched token →
      u ∈ s.threads := by
    intro u token member watched
    rcases mem_append.mp member with old | new
    · exact old
    · cases mem_singleton.mp new
      cases outside.symm.trans watched
  refine ⟨fun id a found marked => older (attended.marked id a found marked),
    fun id a found suppress => older (attended.suppressed id a found suppress), ?_, ?_⟩
  · intro u member token watched
    exact attended.seen u (watcher member watched) token watched
  · intro u member token watched id a found same
    exact older (attended.kept u (watcher member watched) token watched id a found same)

theorem attended_of_signal (attended : Attended s) (h : Nat) :
    Attended { s with shared := s.shared.signal h } := by
  have grows := Grows.signal s.shared h
  refine ⟨attended.marked, attended.suppressed, fun t member token watched => ?_, attended.kept⟩
  obtain ⟨id, k, made, done⟩ := attended.seen t member token watched
  exact ⟨id, k, grows.made made, grows.signalled done⟩

theorem attended_of_run (sound : Sound cfg s) (attended : Attended s) {i : Nat} {a : Act}
    {t : Thread} {o : Outcome} (at_i : s.threads[i]? = some t)
    (moved : advance cfg s.shared t a = some o) (ok : timely s (.run i a) = true) :
    Attended ⟨o.shared, s.threads.set i o.thread ++ o.spawned⟩ := by
  obtain ⟨turn, spawned⟩ := turn_of_advance moved
  have facts := sound.facts
  have known := sound.knows t (mem_of_getElem? at_i)
  have grows := (effect_of_advance moved).grows
  -- the thread that has just become a watcher, or a thread that was one before
  have watcher : ∀ {u token}, u ∈ s.threads.set i o.thread ++ o.spawned →
      phase u = .watched token → (∃ v ∈ s.threads, phase v = .watched token) ∨
        phase o.thread = .watched token := by
    intro u token member watched
    rcases mem_move member with old | rfl | new
    · exact .inl ⟨u, old, watched⟩
    · exact .inr watched
    · cases (spawned u new).symm.trans watched
  refine ⟨?_, ?_, ?_, ?_⟩
  · intro k b found marked
    rcases marked_after turn facts known found marked with
      ⟨sample, own⟩ | ⟨a, old, was, same, not_own⟩
    · exact ⟨o.thread, moved_mem at_i, sample, own⟩
    obtain ⟨u, member, sample, working⟩ := attended.marked k a old was
    rw [same] at working
    rcases kept_mem o.thread o.spawned at_i member with rfl | stays
    · exact absurd working (not_own sample)
    · exact ⟨u, stays, sample, working⟩
  · intro k b found suppress
    rcases suppressed_after turn found suppress with own | ⟨a, old, was, same, stays⟩
    · exact ⟨o.thread, moved_mem at_i, own⟩
    · have failed := attended.suppressed k a old was
      rw [same] at failed
      exact owed_still at_i (fun own => (stays own).trans own) failed
  · intro u member token watched
    rcases watcher member watched with ⟨v, old, was⟩ | now
    · obtain ⟨id, h, made, done⟩ := attended.seen v old token was
      exact ⟨id, h, grows.made made, grows.signalled done⟩
    · rcases watched_after turn facts known now with was | ⟨id, h, -, made, done, -⟩
      · obtain ⟨id, h, made, done⟩ := attended.seen t (mem_of_getElem? at_i) token was
        exact ⟨id, h, grows.made made, grows.signalled done⟩
      · exact ⟨id, h, grows.made made, grows.signalled done⟩
  · intro u member token watched k b found same
    have before : ∀ v ∈ s.threads, phase v = .watched token →
        ∃ w ∈ s.threads.set i o.thread ++ o.spawned, Keeps token (phase w) := by
      intro v old was
      obtain ⟨id, h, made, done⟩ := attended.seen v old token was
      have allocated := (List.getElem?_eq_some_iff.mp made.1).1
      obtain ⟨a, at_k, same'⟩ := entry_before turn found (by omega)
      have keeper := attended.kept v old token was k a at_k (same'.trans same)
      subst same
      exact owed_still at_i (keeps_after turn facts known found made done) keeper
    rcases watcher member watched with ⟨v, old, was⟩ | now
    · exact before v old was
    rcases watched_after turn facts known now with was | ⟨id, h, rfl, -, -, left⟩
    · exact before t (mem_of_getElem? at_i) was
    obtain ⟨a, at_id, rfl, marked | suppress⟩ := left k b found same
    · obtain ⟨w, old, sample, working⟩ := attended.marked id a at_id marked
      have no_gap : inGap a.token w ≠ true := by
        intro gap
        rw [timely, at_i] at ok
        simp only [not_eq_true'] at ok
        cases ok.symm.trans (List.any_eq_true.mpr ⟨w, old, gap⟩)
      rcases kept_mem o.thread o.spawned at_i old with rfl | stays
      · cases working
      · refine ⟨w, stays, ?_⟩
        rw [working]
        exact ⟨rfl, fun open_sample => no_gap (inGap_of_phase (open_sample ▸ working))⟩
    · obtain ⟨w, old, failed⟩ := attended.suppressed id a at_id suppress
      rcases kept_mem o.thread o.spawned at_i old with rfl | stays
      · cases failed
      · refine ⟨w, stays, ?_⟩
        rw [failed]
        exact ⟨rfl, rfl⟩

theorem attended_of_step {a : Action} (sound : Sound cfg s) (attended : Attended s)
    (ok : timely s a = true) (h : step cfg s a = some s') : Attended s' := by
  cases a with
  | connect =>
    cases h
    refine attended_of_start attended ?_
    unfold ConnectionService.connect
    split
    · rfl
    · split <;> rfl
  | disconnect =>
    cases h
    refine attended_of_start attended ?_
    unfold ConnectionService.disconnect
    split
    · rfl
    · split <;> rfl
  | close =>
    cases h
    exact attended_of_start attended rfl
  | openTerminal =>
    cases h
    refine attended_of_start attended ?_
    unfold openTerminalStream
    split
    · rfl
    · split <;> rfl
  | run =>
    obtain ⟨t, at_i, h⟩ := bind_eq_some_iff.mp h
    obtain ⟨o, moved, rfl⟩ := map_eq_some_iff.mp h
    exact attended_of_run sound attended at_i moved ok
  | signal k =>
    obtain ⟨-, h⟩ := ite_none_right_eq_some.mp h
    cases h
    exact attended_of_signal attended k

/-- A `Disconnect` of the connection is at work, or has returned after it found `Done` closed. -/
def retains (token : Nat) : Phase → Bool
  | .working token' _ => token' == token
  | .failed token' doneClosed => token' == token && doneClosed
  | _ => false

theorem retains_of_keeps {token : Nat} {p : Phase} (keeps : Keeps token p) :
    retains token p = true := by
  cases p with
  | working => exact beq_iff_eq.mpr keeps.1
  | failed =>
    rw [retains, and_eq_true, beq_iff_eq]
    exact keeps
  | _ => exact keeps.elim

/-- Once its watcher has looked, which it does when `Done` is closed, a connection is not active
any more, unless a `Disconnect` of it is still at work or had found `Done` closed. -/
theorem late_done_removes {acts : List Action}
    (meets : Runs.Meets (step cfg) (fun s a => timely s a = true) initial acts)
    (run : Runs.exec (step cfg) initial acts = some s) {token : Nat}
    (watched : Thread.watched token ∈ s.threads)
    (failed : ∀ t ∈ s.threads, retains token (phase t) = false) {id : ID} {a : ActiveConnection}
    (found : s.shared.active.get id = some a) : a.token ≠ token := by
  have attended : Sound cfg s ∧ Attended s :=
    Runs.exec_invariant (fun s => Sound cfg s ∧ Attended s)
      (fun _ _ _ inv ok h => ⟨sound_of_step inv.1 h, attended_of_step inv.1 inv.2 ok h⟩)
      ⟨sound_initial, attended_initial⟩ meets run
  intro same
  obtain ⟨u, member, keeps⟩ := attended.2.kept _ watched token rfl id a found same
  cases (failed u member).symm.trans (retains_of_keeps keeps)

end Attended

section Sample

/-- `Close` fails and the mark is taken back before `Done` is closed. -/
def lateRun : List Action :=
  openedRun ++ ([.disconnect none [98], .run 2 .go, .run 2 (.result false), .run 2 .go, .run 2 .go,
    .signal 0, .run 1 .go] : List Action)

theorem late_done_removes_gone : ∃ s : State,
    Runs.exec (step oneConnection) initial lateRun = some s ∧
      s.threads.map phase = [.outside, .watched 0, .failed 0 false, .outside] ∧
      ∀ (id : ID) (a : ActiveConnection), s.shared.active.get id = some a → a.token ≠ 0 := by
  have run : (Runs.exec (step oneConnection) initial lateRun).any (fun s =>
      decide (s.threads.map phase = [.outside, .watched 0, .failed 0 false, .outside])) = true := by
    decide +kernel
  have meets : Runs.Meets (step oneConnection) (fun s a => timely s a = true) initial lateRun := by
    decide +kernel
  obtain ⟨s, reached, met⟩ := (Option.any_eq_true _ _).mp run
  have phases := of_decide_eq_true met
  have mapped : ∀ {p : Phase}, p ∈ s.threads.map phase ↔
      p ∈ [Phase.outside, .watched 0, .failed 0 false, .outside] := fun {p} => by rw [phases]
  obtain ⟨t, member, watched⟩ := List.mem_map.mp (mapped.mpr (by decide : Phase.watched 0 ∈ _))
  have watcher : Thread.watched 0 ∈ s.threads := watched_of_phase watched ▸ member
  refine ⟨s, reached, phases, fun id a found => ?_⟩
  refine late_done_removes meets reached watcher (fun u old => ?_) found
  have none_retains : ∀ p ∈ [Phase.outside, .watched 0, .failed 0 false, .outside],
      retains 0 p = false := by decide
  exact none_retains _ (mapped.mp (List.mem_map_of_mem old))

/-- `Done` is closed and the watcher looks between the sample and the taking back. -/
def gapRun : List Action :=
  openedRun ++ ([.disconnect none [98], .run 2 .go, .run 2 (.result false), .run 2 .go,
    .signal 0, .run 1 .go, .run 2 .go] : List Action)

theorem late_done_missed : ∃ (s : State) (a : ActiveConnection),
    Runs.exec (step oneConnection) initial gapRun = some s ∧
      s.threads.map phase = [.outside, .watched 0, .failed 0 false] ∧
      s.shared.signalled 0 = true ∧ s.shared.active.get [98] = some a ∧ a.token = 0 := by
  have run : (Runs.exec (step oneConnection) initial gapRun).any (fun s =>
      decide (s.threads.map phase = [.outside, .watched 0, .failed 0 false]) &&
        s.shared.signalled 0 &&
        (s.shared.active.get [98]).any fun a => decide (a.token = 0)) = true := by
    decide +kernel
  obtain ⟨s, reached, met⟩ := (Option.any_eq_true _ _).mp run
  rw [and_eq_true, and_eq_true, decide_eq_true_eq] at met
  obtain ⟨⟨phases, done⟩, entry⟩ := met
  obtain ⟨a, found, same⟩ := (Option.any_eq_true _ _).mp entry
  exact ⟨s, a, reached, phases, done, found, of_decide_eq_true same⟩

end Sample

end FailedDisconnect
