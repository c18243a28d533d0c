import WeDecent.Library.GoMap
import WeDecent.Library.JavaScript
import WeDecent.Library.ReplayWindow
import WeDecent.Library.Runs
import Mathlib.Order.WithBot

/-!
# Connection grants at the cloud relay

The replay record of connection grants in the storage of a `DeviceRelay`
(`relay-worker/src/grant-replay.js`). A grant is consumed until the millisecond of its expiry and
not after it, and a cleanup deletes the records that expire in its own millisecond. Nothing else
runs between the reading of the clock and the storage operations of a call, so a call is one step.

A grant is accepted once as long as it is not presented in the millisecond of its expiry after a
cleanup has run in that millisecond.
-/

namespace GrantReplay

open Option JavaScript

def storagePrefix : Text := text "connection-grant-jti:"

def clockSkewMS : Int := 30000

def isHex (u : UInt16) : Bool :=
  (48 ≤ u && u ≤ 57) || (65 ≤ u && u ≤ 70) || (97 ≤ u && u ≤ 102)

/-- The pattern `UUID`; its flag ignores case. -/
def uuidPattern (s : Text) : Bool :=
  s.length == 36 && s.zipIdx.all fun (u, i) =>
    if i = 8 ∨ i = 13 ∨ i = 18 ∨ i = 23 then u == 45
    else if i = 14 then 49 ≤ u && u ≤ 53
    else if i = 19 then [56, 57, 65, 66, 97, 98].contains u
    else isHex u

abbrev Storage := GoMap Text Number

def storageKey (js : Runtime) (jti : Text) : Text := storagePrefix ++ toLowerCase js jti

structure Consumption where
  accepted : Bool
  expiresAtMS : Int

/-- A product that is not exact is beyond the safe integers as well. -/
def consumeConnectionGrant (js : Runtime) (storage : Storage) (jti : Text)
    (expSeconds nowMS : Number) : Except Thrown (Consumption × Storage) :=
  match expSeconds.safeInteger?, nowMS.safeInteger? with
  | some exp, some now =>
    if !uuidPattern jti || exp ≤ 0 then
      .error (.error "invalid connection grant replay metadata")
    else
      let expiresAtMS := exp * 1000 + clockSkewMS
      if maxSafeInteger < expiresAtMS.natAbs || expiresAtMS < now then
        .ok (⟨false, expiresAtMS⟩, storage)
      else
        match storage.get (storageKey js jti) with
        | some _ => .ok (⟨false, expiresAtMS⟩, storage)
        | none =>
          .ok (⟨true, expiresAtMS⟩, storage.set (storageKey js jti) (.int expiresAtMS))
  | _, _ => .error (.error "invalid connection grant replay metadata")

def scheduleReplayCleanup (alarm : Option Int) (expiresAtMS : Int) : Option Int :=
  match alarm with
  | none => some expiresAtMS
  | some current => if expiresAtMS < current then some expiresAtMS else some current

/-- The record goes in a cleanup at `nowMS`. -/
def expired (nowMS : Int) (e : Text × Number) : Bool :=
  storagePrefix.isPrefixOf e.1 && (e.2.safeInteger?).all (· ≤ nowMS)

/-- One round of the loop over the records: one that stays may have the earliest expiry so far. -/
def noteExpiry (nowMS : Int) (next : Option Int) (e : Text × Number) : Option Int :=
  if storagePrefix.isPrefixOf e.1 && !expired nowMS e then
    (e.2.safeInteger?).elim next (scheduleReplayCleanup next)
  else next

def nextAlarm (nowMS : Int) (entries : List (Text × Number)) : Option Int :=
  entries.foldl (noteExpiry nowMS) none

/-- An alarm is only ever moved forward. -/
theorem scheduleReplayCleanup_le (alarm : Option Int) (expiresAtMS : Int) :
    ∃ a, scheduleReplayCleanup alarm expiresAtMS = some a ∧ a ≤ expiresAtMS ∧
      ∀ b, alarm = some b → a ≤ b := by
  unfold scheduleReplayCleanup
  split
  · exact ⟨expiresAtMS, rfl, le_refl _, nofun⟩
  rename_i current
  split
  · rename_i earlier
    refine ⟨expiresAtMS, rfl, le_refl _, fun b same => ?_⟩
    cases same
    exact le_of_lt earlier
  · rename_i later
    refine ⟨current, rfl, Int.not_lt.mp later, fun b same => ?_⟩
    cases same
    exact le_refl _

theorem noteExpiry_le {next : Option Int} {b : Int} (nowMS : Int) (e : Text × Number)
    (h : next = some b) : ∃ a, noteExpiry nowMS next e = some a ∧ a ≤ b := by
  unfold noteExpiry
  split
  · cases e.2.safeInteger? with
    | none => exact ⟨b, h, le_refl _⟩
    | some t =>
      obtain ⟨a, ha, -, earlier⟩ := scheduleReplayCleanup_le next t
      exact ⟨a, ha, earlier b h⟩
  · exact ⟨b, h, le_refl _⟩

/-- No record that stays expires before the alarm. -/
theorem nextAlarm_le {nowMS t : Int} {entries : List (Text × Number)} {e : Text × Number}
    (member : e ∈ entries) (listed : storagePrefix.isPrefixOf e.1 = true)
    (stays : expired nowMS e = false) (value : e.2.safeInteger? = some t) :
    ∃ a, nextAlarm nowMS entries = some a ∧ a ≤ t := by
  -- the loop has an alarm in time, or the record is still to come
  have loop : ∀ (rest : List (Text × Number)) (next : Option Int),
      (∃ b, next = some b ∧ b ≤ t) ∨ e ∈ rest →
      ∃ a, rest.foldl (noteExpiry nowMS) next = some a ∧ a ≤ t := by
    intro rest
    induction rest with
    | nil => exact fun next h => h.resolve_right List.not_mem_nil
    | cons first rest ih =>
      intro next h
      refine ih _ ?_
      rcases h with ⟨b, hb, early⟩ | member
      · obtain ⟨a, ha, le⟩ := noteExpiry_le nowMS first hb
        exact .inl ⟨a, ha, le.trans early⟩
      rcases List.mem_cons.mp member with rfl | later
      · obtain ⟨a, ha, le, -⟩ := scheduleReplayCleanup_le next t
        refine .inl ⟨a, ?_, le⟩
        rw [noteExpiry, listed, stays, value]
        exact ha
      · exact .inr later
  exact loop entries none (.inr member)

def cleanupExpiredConnectionGrants (storage : Storage) (alarm : Option Int) (nowMS : Int) :
    Storage × Option Int :=
  (storage.keep fun e => !expired nowMS e, (nextAlarm nowMS storage.entries).or alarm)

/-- After a cleanup the alarm comes no later than the expiry of any record. -/
theorem cleanup_alarm {storage : Storage} {alarm : Option Int} {nowMS t : Int} {e : Text × Number}
    (member : e ∈ (cleanupExpiredConnectionGrants storage alarm nowMS).1.entries)
    (listed : storagePrefix.isPrefixOf e.1 = true) (value : e.2.safeInteger? = some t) :
    ∃ a, (cleanupExpiredConnectionGrants storage alarm nowMS).2 = some a ∧ a ≤ t := by
  obtain ⟨stored, stays⟩ := List.mem_filter.mp member
  rw [Bool.not_eq_true'] at stays
  obtain ⟨a, next, le⟩ := nextAlarm_le stored listed stays value
  exact ⟨a, by rw [cleanupExpiredConnectionGrants, next]; rfl, le⟩

/-- `clock` is the last reading, `cleaned` the last of a cleanup, and `accepted` the grants that
were accepted with what was recorded for them. -/
structure State where
  storage : Storage
  alarm : Option Int
  clock : Int
  cleaned : Option Int
  accepted : List (Text × Number)

inductive Action where
  | consume (jti : Text) (nowMS : Int)
  | schedule (expiresAtMS : Int)
  | cleanup (nowMS : Int)

/-- `expiry` gives the expiry of each grant, in seconds. -/
def step (js : Runtime) (expiry : Text → Number) (s : State) : Action → Option State
  | .consume jti nowMS =>
    if nowMS < s.clock then none
    else
      match consumeConnectionGrant js s.storage jti (expiry (toLowerCase js jti)) (.int nowMS) with
      | .error _ => some { s with clock := nowMS }
      | .ok (c, storage) => some { s with
          clock := nowMS
          storage := storage
          accepted := if c.accepted then
            s.accepted ++ [(toLowerCase js jti, .int c.expiresAtMS)] else s.accepted }
  | .schedule expiresAtMS => some { s with alarm := scheduleReplayCleanup s.alarm expiresAtMS }
  | .cleanup nowMS =>
    if nowMS < s.clock then none
    else some { s with
      clock := nowMS
      cleaned := some nowMS
      storage := (cleanupExpiredConnectionGrants s.storage s.alarm nowMS).1
      alarm := (cleanupExpiredConnectionGrants s.storage s.alarm nowMS).2 }

/-- Before the first call, whatever is stored -/
def initial (storage : Storage) (alarm : Option Int) (clock : Int) : State :=
  ⟨storage, alarm, clock, none, []⟩

/-- A grant that expires at the reading of the clock comes before any cleanup of that reading. -/
def offBoundary (js : Runtime) (expiry : Text → Number) (s : State) : Action → Bool
  | .consume jti nowMS =>
    !((expiry (toLowerCase js jti)).safeInteger?.any (fun exp => exp * 1000 + clockSkewMS = nowMS)
      && decide (s.cleaned = some nowMS))
  | _ => true

/-- When a record expires; what is no safe integer is expired from the start. -/
def moment (value : Number) : WithBot Int := value.safeInteger?

/-- The last reading of a cleanup; before the first one nothing is forgotten. -/
def State.swept (s : State) : WithBot Int := s.cleaned

theorem safeInteger_int {n : Int} (safe : n.natAbs ≤ maxSafeInteger) :
    (Number.int n).safeInteger? = some n := by
  have whole : ((n : Rat)).den = 1 ∧ ((n : Rat)).num.natAbs ≤ maxSafeInteger := ⟨rfl, safe⟩
  simp only [Number.int, Number.safeInteger?, if_pos whole]
  rfl

/-- A grant is accepted when it has not expired and is not on record, and then it is. -/
theorem consume_eq_ok {js : Runtime} {storage storage' : Storage} {jti : Text}
    {expSeconds : Number} {now : Int} {c : Consumption}
    (h : consumeConnectionGrant js storage jti expSeconds (.int now) = .ok (c, storage')) :
    (c.accepted = false ∧ storage' = storage) ∨
      (c.accepted = true ∧ now ≤ c.expiresAtMS ∧ c.expiresAtMS.natAbs ≤ maxSafeInteger ∧
        (∃ exp, expSeconds.safeInteger? = some exp ∧ c.expiresAtMS = exp * 1000 + clockSkewMS) ∧
        storage.get (storageKey js jti) = none ∧
        storage' = storage.set (storageKey js jti) (.int c.expiresAtMS)) := by
  unfold consumeConnectionGrant at h
  split at h
  · rename_i exp reading hexp hnow
    have same : reading = now := by
      simp only [Number.int, Number.safeInteger?] at hnow
      split at hnow
      · exact (Option.some.inj hnow).symm
      · cases hnow
    subst same
    split at h
    · cases h
    dsimp only at h
    split at h
    · cases h
      exact .inl ⟨rfl, rfl⟩
    rename_i live
    simp only [Bool.or_eq_true, decide_eq_true_eq, not_or, Nat.not_lt, Int.not_lt] at live
    split at h
    · cases h
      exact .inl ⟨rfl, rfl⟩
    · rename_i unknown
      cases h
      exact .inr ⟨rfl, live.2, live.1, ⟨exp, hexp, rfl⟩, unknown, rfl⟩
  · cases h

/-- What the relay knows of the grants it has accepted: each is on record until a cleanup at its
expiry, its expiry is that of the grant, and no grant is there twice. -/
structure Guarded (expiry : Text → Number) (s : State) : Prop where
  reading : ReplayWindow.Read s.swept s.clock
  remembers : ReplayWindow.Remembers moment s.swept
    {a | ∃ e ∈ s.accepted, a = (storagePrefix ++ e.1, e.2)} s.storage.entries
  fixed : ∀ e ∈ s.accepted, ∃ exp, (expiry e.1).safeInteger? = some exp ∧
    e.2 = .int (exp * 1000 + clockSkewMS) ∧
    moment e.2 = ((exp * 1000 + clockSkewMS : Int) : WithBot Int)
  once : (s.accepted.map Prod.fst).Nodup

section Guarded

variable {js : Runtime} {expiry : Text → Number} {s s' : State}

theorem guarded_initial (storage : Storage) (alarm : Option Int) (clock : Int) :
    Guarded expiry (initial storage alarm clock) := by
  refine ⟨bot_le (a := (clock : WithBot Int)), ?_,
    fun _ member => absurd member List.not_mem_nil, List.nodup_nil⟩
  rintro a ⟨e, member, -⟩
  exact absurd member List.not_mem_nil

/-- A grant that was accepted is accepted again only at its expiry, after a cleanup then. -/
theorem accepted_again {jti : Text} {now exp : Int} (guarded : Guarded expiry s)
    (passed : s.clock ≤ now) (live : now ≤ exp * 1000 + clockSkewMS)
    (expires : (expiry jti).safeInteger? = some exp)
    (unknown : s.storage.get (storagePrefix ++ jti) = none)
    (member : jti ∈ s.accepted.map Prod.fst) :
    exp * 1000 + clockSkewMS = now ∧ s.cleaned = some now := by
  obtain ⟨e, accepted, rfl⟩ := List.mem_map.mp member
  obtain ⟨exp', expires', -, expiry_e⟩ := guarded.fixed e accepted
  cases expires.symm.trans expires'
  have forgotten : ((exp * 1000 + clockSkewMS : Int) : WithBot Int) ≤ s.swept := by
    rw [← expiry_e]
    by_contra kept
    have recorded := guarded.remembers _ ⟨e, accepted, rfl⟩ (not_le.mp kept)
    cases unknown.symm.trans (GoMap.get_eq_some.mpr recorded)
  have reading : s.swept ≤ s.clock := guarded.reading
  unfold State.swept at forgotten reading
  cases hcleaned : s.cleaned with
  | none =>
    rw [hcleaned] at forgotten
    exact absurd forgotten (WithBot.not_coe_le_bot _)
  | some c =>
    rw [hcleaned] at forgotten reading
    have early : exp * 1000 + clockSkewMS ≤ c := WithBot.coe_le_coe.mp forgotten
    have late : c ≤ s.clock := WithBot.coe_le_coe.mp reading
    exact ⟨by omega, congrArg some (by omega)⟩

theorem guarded_of_consume {jti : Text} {now : Int} (guarded : Guarded expiry s)
    (ok : offBoundary js expiry s (.consume jti now) = true)
    (h : step js expiry s (.consume jti now) = some s') : Guarded expiry s' := by
  simp only [step] at h
  split at h
  · cases h
  rename_i passed
  have passed : s.clock ≤ now := Int.not_lt.mp passed
  have reading : s.swept ≤ now := le_trans guarded.reading (WithBot.coe_le_coe.mpr passed)
  split at h
  · cases h
    exact ⟨reading, guarded.remembers, guarded.fixed, guarded.once⟩
  rename_i c storage consumed
  cases h
  rcases consume_eq_ok consumed with
    ⟨refused, rfl⟩ | ⟨accepted, live, safe, ⟨exp, expires, same⟩, unknown, rfl⟩
  · rw [refused]
    exact ⟨reading, guarded.remembers, guarded.fixed, guarded.once⟩
  rw [accepted, if_pos rfl]
  rw [same] at live safe ⊢
  refine ⟨reading, ?_, ?_, ?_⟩
  · rintro a ⟨e, member, rfl⟩ kept
    rcases List.mem_append.mp member with old | new
    · have recorded := guarded.remembers _ ⟨e, old, rfl⟩ kept
      rw [← GoMap.get_eq_some] at recorded ⊢
      refine (GoMap.get_set_of_ne ?_).trans recorded
      intro here
      rw [here, unknown] at recorded
      cases recorded
    · cases List.mem_singleton.mp new
      exact List.mem_cons_self
  · intro e member
    rcases List.mem_append.mp member with old | new
    · exact guarded.fixed e old
    · cases List.mem_singleton.mp new
      exact ⟨exp, expires, rfl, safeInteger_int safe⟩
  · rw [List.map_append, List.map_singleton, ← List.concat_eq_append]
    refine List.Nodup.concat (fun member => ?_) guarded.once
    have boundary := accepted_again guarded passed live expires unknown member
    simp only [offBoundary, expires, boundary.2, any_some, boundary.1] at ok
    cases ok

theorem guarded_of_cleanup {now : Int} (guarded : Guarded expiry s)
    (h : step js expiry s (.cleanup now) = some s') : Guarded expiry s' := by
  simp only [step] at h
  split at h
  · cases h
  rename_i passed
  have passed : s.clock ≤ now := Int.not_lt.mp passed
  cases h
  refine ⟨le_refl (now : WithBot Int), ?_, guarded.fixed, guarded.once⟩
  rintro a ⟨e, member, rfl⟩ kept
  have reading : s.swept ≤ now := le_trans guarded.reading (WithBot.coe_le_coe.mpr passed)
  have recorded := (guarded.remembers.later reading) _ ⟨e, member, rfl⟩ kept
  obtain ⟨exp, -, -, moment_e⟩ := guarded.fixed e member
  rw [moment_e] at kept
  refine List.mem_filter.mpr ⟨recorded, ?_⟩
  have live : now < exp * 1000 + clockSkewMS := WithBot.coe_lt_coe.mp kept
  have value : e.2.safeInteger? = some (exp * 1000 + clockSkewMS) := moment_e
  rw [expired, value, all_some, decide_eq_false (Int.not_le.mpr live), Bool.and_false]
  rfl

theorem guarded_of_step {a : Action} (guarded : Guarded expiry s)
    (ok : offBoundary js expiry s a = true) (h : step js expiry s a = some s') :
    Guarded expiry s' := by
  cases a with
  | consume => exact guarded_of_consume guarded ok h
  | schedule =>
    cases h
    exact ⟨guarded.reading, guarded.remembers, guarded.fixed, guarded.once⟩
  | cleanup => exact guarded_of_cleanup guarded h

end Guarded

theorem grant_accepted_once {js : Runtime} {expiry : Text → Number} {storage : Storage}
    {alarm : Option Int} {clock : Int} {acts : List Action} {s : State}
    (conforms : Runs.Meets (step js expiry) (offBoundary js expiry · · = true)
      (initial storage alarm clock) acts)
    (h : Runs.exec (step js expiry) (initial storage alarm clock) acts = some s) (jti : Text) :
    (s.accepted.map Prod.fst).count jti ≤ 1 := by
  have guarded := Runs.exec_invariant (Guarded expiry)
    (fun _ _ _ guarded ok stepped => guarded_of_step guarded ok stepped)
    (guarded_initial storage alarm clock) conforms h
  exact List.nodup_iff_count_le_one.mp guarded.once jti

/-- The records with the alarm as the handlers of the relay leave them. Both ways to use a grant
schedule a cleanup after they have stored its record; the alarm that fires is cleared before its
handler runs. -/
structure Schedule where
  storage : Storage
  alarm : Option Int

inductive Handler where
  -- `#acceptClientExclusive` and `#authorizeDirect`, with the metadata of their request
  | accept (jti : Text) (exp : Number) (nowMS : Int)
  | alarm (nowMS : Int)

def handle (js : Runtime) (s : Schedule) : Handler → Schedule
  | .accept jti exp nowMS =>
    match consumeConnectionGrant js s.storage jti exp (.int nowMS) with
    | .error _ => s
    | .ok (c, storage) =>
      ⟨storage, if c.accepted then scheduleReplayCleanup s.alarm c.expiresAtMS else s.alarm⟩
  | .alarm nowMS =>
    let swept := cleanupExpiredConnectionGrants s.storage none nowMS
    ⟨swept.1, swept.2⟩

namespace Handler

def clock : Handler → Int
  | .accept _ _ nowMS => nowMS
  | .alarm nowMS => nowMS

/-- What the handler does to the records -/
def action : Handler → Action
  | .accept jti _ nowMS => .consume jti nowMS
  | .alarm nowMS => .cleanup nowMS

/-- A grant comes with its own expiry. -/
def Genuine (js : Runtime) (expiry : Text → Number) : Handler → Prop
  | .accept jti exp _ => exp = expiry (toLowerCase js jti)
  | .alarm _ => True

end Handler

theorem step_of_handle {js : Runtime} {expiry : Text → Number} {s : State} {r : Schedule}
    {h : Handler} (genuine : h.Genuine js expiry) (later : s.clock ≤ h.clock)
    (same : s.storage = r.storage) :
    ∃ s', step js expiry s h.action = some s' ∧ s'.clock = h.clock ∧
      s'.storage = (handle js r h).storage := by
  cases h with
  | accept jti exp nowMS =>
    subst genuine
    have later : ¬nowMS < s.clock := Int.not_lt.mpr later
    simp only [Handler.action, step, handle, if_neg later, same]
    cases consumeConnectionGrant js r.storage jti (expiry (toLowerCase js jti)) (.int nowMS) with
    | error => exact ⟨_, rfl, rfl, rfl⟩
    | ok => exact ⟨_, rfl, rfl, rfl⟩
  | alarm nowMS =>
    refine ⟨_, if_neg (Int.not_lt.mpr later), rfl, ?_⟩
    simp only [handle, cleanupExpiredConnectionGrants, same]

/-- While the clock does not go back, the records that the handlers leave are those of a run. -/
theorem exec_of_handled {js : Runtime} {expiry : Text → Number} {handled : List Handler}
    {s : State} {r : Schedule} (genuine : ∀ h ∈ handled, h.Genuine js expiry)
    (later : (s.clock :: handled.map Handler.clock).IsChain (· ≤ ·))
    (same : s.storage = r.storage) :
    ∃ s', Runs.exec (step js expiry) s (handled.map Handler.action) = some s' ∧
      s'.storage = (handled.foldl (handle js) r).storage := by
  induction handled generalizing s r with
  | nil => exact ⟨s, rfl, same⟩
  | cons h rest ih =>
    obtain ⟨first, next⟩ := List.isChain_cons_cons.mp later
    obtain ⟨s₁, stepped, reading, stored⟩ :=
      step_of_handle (genuine h List.mem_cons_self) first same
    rw [← reading] at next
    obtain ⟨s', run, left⟩ :=
      ih (fun h member => genuine h (List.mem_cons_of_mem _ member)) next stored
    exact ⟨s', Runs.exec_cons.mpr ⟨s₁, stepped, run⟩, left⟩

/-- The alarm comes no later than the expiry of any record. -/
def Scheduled (s : Schedule) : Prop :=
  ∀ key value, s.storage.get key = some value → storagePrefix.isPrefixOf key = true →
    ∃ t a, value.safeInteger? = some t ∧ s.alarm = some a ∧ a ≤ t

theorem scheduled_accept {js : Runtime} {s : Schedule} (scheduled : Scheduled s) (jti : Text)
    (exp : Number) (nowMS : Int) : Scheduled (handle js s (.accept jti exp nowMS)) := by
  simp only [handle]
  split
  · exact scheduled
  rename_i c storage consumed
  rcases consume_eq_ok consumed with ⟨refused, rfl⟩ | ⟨accepted, -, safe, -, -, rfl⟩
  · rw [refused]
    exact scheduled
  rw [accepted, if_pos rfl]
  obtain ⟨a, next, due, earlier⟩ := scheduleReplayCleanup_le s.alarm c.expiresAtMS
  intro key value stored listed
  rcases GoMap.get_of_set stored with ⟨rfl, rfl⟩ | ⟨-, old⟩
  · exact ⟨c.expiresAtMS, a, safeInteger_int safe, next, due⟩
  · obtain ⟨t, b, expiry, set, before⟩ := scheduled key value old listed
    exact ⟨t, a, expiry, next, (earlier b set).trans before⟩

theorem scheduled_alarm {js : Runtime} {s : Schedule} (scheduled : Scheduled s) (nowMS : Int) :
    Scheduled (handle js s (.alarm nowMS)) := by
  intro key value stored listed
  have member := GoMap.get_eq_some.mp stored
  have old := GoMap.get_eq_some.mpr (List.mem_of_mem_filter member)
  obtain ⟨t, -, expiry, -, -⟩ := scheduled key value old listed
  obtain ⟨a, next, before⟩ := cleanup_alarm member listed expiry
  exact ⟨t, a, expiry, next, before⟩

/-- Whatever is handled from an empty storage on, a stored record has its cleanup scheduled. -/
theorem cleanup_scheduled (js : Runtime) (handled : List Handler) :
    Scheduled (handled.foldl (handle js) ⟨.empty, none⟩) := by
  refine List.foldlRecOn handled (handle js) (motive := Scheduled) ?_ fun s scheduled a _ => ?_
  · rintro key value ⟨⟩
  · cases a with
    | accept jti exp nowMS => exact scheduled_accept scheduled jti exp nowMS
    | alarm nowMS => exact scheduled_alarm scheduled nowMS

section Sample

/-- A runtime that is never asked: all texts are ASCII. -/
def plainRuntime : Runtime where
  objectText := fun _ => none
  objectNumber := fun _ => none
  numberText := fun _ => []
  textNumber := fun _ => .nan
  lowerCase := id
  parseDate := fun _ => none

def sampleGrant : Text := text "0b4ff1a2-9c3d-4e5f-8a6b-7c8d9e0f1a2b"

/-- All grants expire one second after the epoch. -/
def sampleExpiry : Text → Number := fun _ => .int 1

/-- The grant is used, and the alarm of its expiry comes after the last attempt to use it. -/
def spentRun : List Action :=
  [.consume sampleGrant 1000, .schedule 31000, .consume sampleGrant 31000, .cleanup 31000,
    .consume sampleGrant 31001]

theorem grant_accepted_once_spent : ∃ s : State,
    Runs.exec (step plainRuntime sampleExpiry) (initial .empty none 0) spentRun = some s ∧
      s.accepted = [(sampleGrant, .int 31000)] ∧
      (s.accepted.map Prod.fst).count sampleGrant ≤ 1 := by
  have run : (Runs.exec (step plainRuntime sampleExpiry) (initial .empty none 0) spentRun).any
      (fun s => decide (s.accepted = [(sampleGrant, .int 31000)])) = true := by decide +kernel
  have meets : Runs.Meets (step plainRuntime sampleExpiry)
      (offBoundary plainRuntime sampleExpiry · · = true) (initial .empty none 0) spentRun := by
    decide +kernel
  obtain ⟨s, reached, met⟩ := (any_eq_true _ _).mp run
  exact ⟨s, reached, of_decide_eq_true met, grant_accepted_once meets reached sampleGrant⟩

/-- The alarm comes in the millisecond of the expiry, and the grant once more in the same. -/
def twiceRun : List Action :=
  [.consume sampleGrant 1000, .schedule 31000, .cleanup 31000, .consume sampleGrant 31000]

theorem grant_accepted_twice : ∃ s : State,
    Runs.exec (step plainRuntime sampleExpiry) (initial .empty none 0) twiceRun = some s ∧
      (s.accepted.map Prod.fst).count sampleGrant = 2 := by
  have run : (Runs.exec (step plainRuntime sampleExpiry) (initial .empty none 0) twiceRun).any
      (fun s => decide ((s.accepted.map Prod.fst).count sampleGrant = 2)) = true := by
    decide +kernel
  obtain ⟨s, reached, met⟩ := (any_eq_true _ _).mp run
  exact ⟨s, reached, of_decide_eq_true met⟩

end Sample

end GrantReplay
