import WeDecent.Library.Exclusion
import WeDecent.ReplayStore

/-!
# Single use at the verifier

`RouteAuthorizationVerifier.VerifyAndConsume` (`mesh/routeauth.go`), for any number
of calls that share one replay store. A call reads the clock, checks the signature,
the times and the route, and then consumes the JTI. The memory store reads the clock
again before it takes its lock, the file store under it; the clock may move between
any two steps, and the process of a file store may restart.
-/

namespace RouteVerifier

open Bool List Option

open Fallible GoText GoTime GoTime.Time Mesh ReplayStore ReplayWindow RouteAuthorization

/-- `ed25519.Verify`, of a public key, a message and a signature. -/
abbrev Ed25519 := List UInt8 → List UInt8 → List UInt8 → Bool

structure Verifier where
  keyID : List UInt8
  publicKey : List UInt8
  hasReplay : Bool
  deriving DecidableEq

/-- `VerifyAndConsume` between its check of the context and the consumption of the JTI. -/
def verify (ed25519Verify : Ed25519) (v : Verifier) (now : Time) (auth : Authorization)
    (route : Route) (router : DeviceID) : Except AuthError Unit := do
  failIf (v.publicKey.length ≠ 32 ∨ blank v.keyID = true) .invalid
  failIf (v.hasReplay = false) .replayMissing
  validateRouteAuthorizationSyntax auth
  failIf (auth.keyID ≠ trimSpace v.keyID) .signature
  let signature := (rawURLDecode auth.signature).getD []
  failIf (signature.length ≠ 64) .signature
  let message ← routeAuthorizationMessage auth
  failIf (ed25519Verify v.publicKey message signature = false) .signature
  let nowMS := now.unixMilli
  failIf (auth.claims.issuedAtUnixMS.toInt > nowMS) .notYetValid
  failIf (auth.claims.expiresUnixMS.toInt ≤ nowMS) .expired
  failIf (auth.claims.expiresUnixMS - auth.claims.issuedAtUnixMS > maxRouteAuthorizationLifetime)
    .invalid
  orFail .mismatchedRoute (route.validate now)
  failIf (authorizationMatchesRoute auth.claims route router = false) .mismatch

/-- What is known of an authorization that was verified for a route at `now`. -/
structure Verified (ed25519Verify : Ed25519) (v : Verifier) (now : Time) (auth : Authorization)
    (route : Route) (router : DeviceID) : Prop where
  wellFormed : WellFormed auth
  key : auth.keyID = trimSpace v.keyID
  signed : ∃ message, routeAuthorizationMessage auth = .ok message ∧
    ed25519Verify v.publicKey message ((rawURLDecode auth.signature).getD []) = true
  issued : auth.claims.issuedAtUnixMS.toInt ≤ now.unixMilli
  unexpired : now.nanos < auth.claims.expiry.nanos
  fresh : route.Valid now
  matched : authorizationMatchesRoute auth.claims route router = true

theorem verified_of_ok {ed25519Verify : Ed25519} {v : Verifier} {now : Time}
    {auth : Authorization} {route : Route} {router : DeviceID}
    (h : verify ed25519Verify v now auth route router = .ok ()) :
    Verified ed25519Verify v now auth route router := by
  simp only [verify, bind_eq_ok, failIf_eq_ok, orFail_eq_ok] at h
  obtain ⟨-, -, -, -, _, hsyntax, -, hkey, -, -, message, hmessage, -, hsigned, -, hissued, -,
    hexpires, -, -, _, hroute, hmatch⟩ := h
  exact {
    wellFormed := validateSyntax_eq_ok.mp hsyntax
    key := not_not.mp hkey
    signed := ⟨message, hmessage, eq_true_of_not_eq_false hsigned⟩
    issued := Int.not_lt.mp hissued
    unexpired := Time.unixMilli_lt_iff.mp (Int.not_le.mp hexpires)
    fresh := Route.validate_eq_ok.mp hroute
    matched := eq_true_of_not_eq_false hmatch }

inductive CallError where
  | context
  | auth (e : AuthError)
  | store (e : StoreError)
  deriving DecidableEq

/-- The store the calls share. -/
inductive Store where
  | memory (used : List (Jti × Time))
  | file (system : System)

/-- Whether the process that owns the store is running. -/
def Store.running : Store → Bool
  | .memory _ => true
  | .file system => system.memory.isSome

structure Request where
  verifier : Verifier
  auth : Authorization
  route : Route
  router : DeviceID
  deriving DecidableEq

def Request.jti (r : Request) : Jti := r.auth.claims.jti

/-- The `expiresAt` that is handed to the store. -/
def Request.expiresAt (r : Request) : Time := r.auth.claims.expiry.utc

/-- Where a call is: `consuming` has verified its capability and calls the store, and
`timed` has read the clock for the memory store and waits for its lock. -/
inductive Stage where
  | entered
  | consuming
  | timed (now : Time)
  | returned (err : Option CallError)
  | died
  deriving DecidableEq

/-- What a call does next, with what the checks of its context say. -/
inductive Deed where
  | verify (ended : Bool)
  | readClock (ended : Bool)
  | lock
  | consume (endedBefore endedLocked : Bool) (faults : FileOp → Outcome)

def Request.call (r : Request) (clock : Int) (endedBefore endedLocked : Bool)
    (faults : FileOp → Outcome) : Call :=
  ⟨r.jti, r.expiresAt, endedBefore, endedLocked, wall clock, faults⟩

/-- What the call learns from the reply of the file store. -/
def afterReply : Option Reply → Stage
  | none => .died
  | some reply => .returned (reply.err.map .store)

def advance (ed25519Verify : Ed25519) (clock : Int) (store : Store) (r : Request) :
    Stage → Deed → Option (Store × Stage)
  | .entered, .verify ended =>
    if ended then some (store, .returned (some .context))
    else
      match verify ed25519Verify r.verifier (wall clock) r.auth r.route r.router with
      | .error e => some (store, .returned (some (.auth e)))
      | .ok () => some (store, .consuming)
  | .consuming, .readClock ended =>
    match store with
    | .memory _ => some (store, if ended then .returned (some .context) else .timed (wall clock))
    | .file _ => none
  | .timed now, .lock =>
    match store with
    | .memory used =>
      let (used', err) := consumeMemory used now r.jti r.expiresAt
      some (.memory used', .returned (err.map .auth))
    | .file _ => none
  | .consuming, .consume endedBefore endedLocked faults =>
    match store with
    | .memory _ => none
    | .file system =>
      let c := r.call clock endedBefore endedLocked faults
      match system.memory, ReplayStore.step system (.call c) with
      | some used, some system' => some (.file system', afterReply (consume c used system.fs).1)
      | _, _ => none
  | _, _ => none

/-- The step at which a call is told whether its JTI was new. -/
def Deed.decides : Deed → Bool
  | .lock => true
  | .consume _ _ _ => true
  | _ => false

/-- Every capability consumed with nil is on record until it expires. -/
def Remembering (clock : Int) (granted : Set (Jti × Time)) : Store → Prop
  | .memory used => Remembers Time.nanos clock granted used
  | .file system => Kept system ∧ ∀ g ∈ granted, clock < g.2.nanos → g ∈ system.live

theorem Remembering.later {clock later : Int} {granted : Set (Jti × Time)} {store : Store}
    (h : Remembering clock granted store) (passed : clock ≤ later) :
    Remembering later granted store := by
  cases store with
  | memory => exact Remembers.later h passed
  | file => exact ⟨h.1, fun g member live => h.2 g member (Int.lt_of_le_of_lt passed live)⟩

theorem Remembering.subset {clock : Int} {granted fewer : Set (Jti × Time)} {store : Store}
    (h : Remembering clock granted store) (less : fewer ⊆ granted) :
    Remembering clock fewer store := by
  cases store with
  | memory => exact Remembers.subset h less
  | file => exact ⟨h.1, fun g member live => h.2 g (less member) live⟩

/-- The file store can hold the capability of a well-formed authorization. -/
theorem faithful_call {r : Request} (wellFormed : WellFormed r.auth) (clock : Int)
    (endedBefore endedLocked : Bool) (faults : FileOp → Outcome) :
    (r.call clock endedBefore endedLocked faults).faithful = true := by
  refine faithful_iff.mpr ⟨?_, ?_⟩
  · have decodes := wellFormed.jti
    cases hraw : rawURLDecode r.auth.claims.jti with
    | none =>
      rw [hraw] at decodes
      cases decodes
    | some => exact GoJson.readBack_ascii (rawURLDecode_ascii hraw)
  · exact congrArg moment (Time.unixMilli_ofUnixMilli _)

/-- The capability was verified for the route at some moment. -/
def Request.Checked (ed25519Verify : Ed25519) (clock : Int) (r : Request) : Prop :=
  ∃ t ≤ clock, Verified ed25519Verify r.verifier (wall t) r.auth r.route r.router

/-- What is known of a call at each stage. -/
def Stage.Sound (ed25519Verify : Ed25519) (clock : Int) (r : Request) : Stage → Prop
  | .consuming => r.Checked ed25519Verify clock
  | .timed now => r.Checked ed25519Verify clock ∧ now.nanos ≤ clock
  | .returned none => r.Checked ed25519Verify clock
  | _ => True

/-- The steps of a call. -/
inductive Advances (ed25519Verify : Ed25519) (clock : Int) (r : Request) :
    Store → Stage → Deed → Store → Stage → Prop
  | ended {store} : Advances ed25519Verify clock r store .entered (.verify true) store
      (.returned (some .context))
  | rejected {store e} : Advances ed25519Verify clock r store .entered (.verify false) store
      (.returned (some (.auth e)))
  | verified {store}
      (ok : verify ed25519Verify r.verifier (wall clock) r.auth r.route r.router = .ok ()) :
      Advances ed25519Verify clock r store .entered (.verify false) store .consuming
  | endedReading {store} : Advances ed25519Verify clock r store .consuming (.readClock true) store
      (.returned (some .context))
  | read {store} : Advances ed25519Verify clock r store .consuming (.readClock false) store
      (.timed (wall clock))
  | locked {used now} : Advances ed25519Verify clock r (.memory used) (.timed now) .lock
      (.memory (consumeMemory used now r.jti r.expiresAt).1)
      (.returned ((consumeMemory used now r.jti r.expiresAt).2.map .auth))
  | consumed {system system' used endedBefore endedLocked faults}
      (up : system.memory = some used)
      (stepped : ReplayStore.step system
        (.call (r.call clock endedBefore endedLocked faults)) = some system') :
      Advances ed25519Verify clock r (.file system) .consuming
        (.consume endedBefore endedLocked faults) (.file system')
        (afterReply (consume (r.call clock endedBefore endedLocked faults) used system.fs).1)

section Advance

variable {ed25519Verify : Ed25519} {clock clock' : Int} {store store' : Store} {r : Request}
variable {stage stage' : Stage} {deed : Deed} {granted : Set (Jti × Time)}

theorem Request.Checked.later (h : r.Checked ed25519Verify clock) (passed : clock ≤ clock') :
    r.Checked ed25519Verify clock' := by
  obtain ⟨t, before, verified⟩ := h
  exact ⟨t, Int.le_trans before passed, verified⟩

theorem Stage.Sound.later (h : stage.Sound ed25519Verify clock r) (passed : clock ≤ clock') :
    stage.Sound ed25519Verify clock' r := by
  cases stage with
  | consuming => exact Request.Checked.later h passed
  | timed => exact ⟨h.1.later passed, Int.le_trans h.2 passed⟩
  | returned err =>
    cases err with
    | none => exact Request.Checked.later h passed
    | some => trivial
  | _ => trivial

/-- What a step of a call does to the store. A grant is the only step after which the call
has returned nil, and what was granted before under its JTI has expired. -/
inductive Outcomes (clock : Int) (granted : Set (Jti × Time)) (r : Request) (store' : Store)
    (stage' : Stage) : Prop
  | other (kept : Remembering clock granted store') (notGranted : stage' ≠ .returned none)
  | grant (isNil : stage' = .returned none)
      (kept : Remembering clock (insert (r.jti, r.expiresAt) granted) store')
      (expired : ∀ g ∈ granted, g.1 = r.jti → g.2.nanos ≤ clock)

theorem lock_outcomes {used : List (Jti × Time)} {now : Time}
    (h : Remembering clock granted (.memory used)) (reading : now.nanos ≤ clock) :
    Outcomes clock granted r (.memory (consumeMemory used now r.jti r.expiresAt).1)
      (.returned ((consumeMemory used now r.jti r.expiresAt).2.map .auth)) := by
  unfold consumeMemory
  split
  · exact .other (Remembers.prune h reading) nofun
  · rename_i admitted
    refine .grant rfl (Remembers.accept h reading admitted) ?_
    intro g member same
    exact Remembers.expired h reading admitted member same

theorem consume_outcomes {system system' : System} {used : Used} {endedBefore endedLocked : Bool}
    {faults : FileOp → Outcome} (h : Remembering clock granted (.file system))
    (wellFormed : WellFormed r.auth) (up : system.memory = some used)
    (stepped : ReplayStore.step system
      (.call (r.call clock endedBefore endedLocked faults)) = some system') :
    Outcomes clock granted r (.file system')
      (afterReply (consume (r.call clock endedBefore endedLocked faults) used system.fs).1) := by
  obtain ⟨kept, live⟩ := h
  have kept' := kept_call kept up (faithful_call wellFormed clock endedBefore endedLocked faults)
    stepped
  have stays : ∀ g ∈ granted, clock < g.2.nanos → g ∈ system'.live :=
    fun g member early => live_call stepped (live g member early) early
  cases hreply : (consume (r.call clock endedBefore endedLocked faults) used system.fs).1 with
  | none => exact .other ⟨kept', stays⟩ nofun
  | some reply =>
    obtain ⟨used', err⟩ := reply
    cases err with
    | some => exact .other ⟨kept', stays⟩ nofun
    | none =>
      obtain ⟨added, expired⟩ := call_consumed kept up stepped hreply
      refine .grant rfl ⟨kept', ?_⟩ ?_
      · rintro g (rfl | member) early
        · exact added
        · exact stays g member early
      · intro g member same
        by_contra early
        have unexpired : clock < g.2.nanos := Int.not_le.mp early
        exact early (expired g (live g member unexpired) same)

theorem advances_of_advance
    (h : advance ed25519Verify clock store r stage deed = some (store', stage')) :
    Advances ed25519Verify clock r store stage deed store' stage' := by
  unfold advance at h
  split at h
  · rename_i ended
    cases ended with
    | true =>
      cases h
      exact .ended
    | false =>
      rw [if_neg Bool.false_ne_true] at h
      split at h
      · cases h
        exact .rejected
      · rename_i verified
        cases h
        exact .verified verified
  · rename_i ended
    split at h
    · cases ended with
      | true =>
        cases h
        exact .endedReading
      | false =>
        cases h
        exact .read
    · cases h
  · split at h
    · cases h
      exact .locked
    · cases h
  · split at h
    · cases h
    dsimp only at h
    split at h
    · rename_i up stepped
      cases h
      exact .consumed up stepped
    · cases h
  · cases h

theorem advance_outcomes (h : Remembering clock granted store)
    (sound : stage.Sound ed25519Verify clock r)
    (advances : Advances ed25519Verify clock r store stage deed store' stage') :
    Outcomes clock granted r store' stage' := by
  cases advances with
  | locked => exact lock_outcomes h sound.2
  | consumed up stepped =>
    obtain ⟨t, -, verified⟩ := sound
    exact consume_outcomes h verified.wellFormed up stepped
  | _ => exact .other h nofun

theorem sound_returned {err : Option CallError} (checked : r.Checked ed25519Verify clock) :
    (Stage.returned err).Sound ed25519Verify clock r := by
  cases err with
  | none => exact checked
  | some => trivial

theorem advance_sound (sound : stage.Sound ed25519Verify clock r)
    (advances : Advances ed25519Verify clock r store stage deed store' stage') :
    stage'.Sound ed25519Verify clock r := by
  cases advances with
  | ended => trivial
  | rejected => trivial
  | verified ok => exact ⟨clock, Int.le_refl clock, verified_of_ok ok⟩
  | endedReading => trivial
  | read => exact ⟨sound, Int.le_refl clock⟩
  | locked => exact sound_returned sound.1
  | @consumed system _ used endedBefore endedLocked faults =>
    cases (consume (r.call clock endedBefore endedLocked faults) used system.fs).1 with
    | none => trivial
    | some => exact sound_returned sound

/-- Only a step that decides ends in nil. -/
theorem decides_of_nil
    (advances : Advances ed25519Verify clock r store stage deed store' (.returned none)) :
    deed.decides = true := by
  generalize hstage : Stage.returned none = stage' at advances
  cases advances with
  | locked => rfl
  | consumed => rfl
  | _ => cases hstage

end Advance

structure State where
  clock : Int
  store : Store
  calls : List (Request × Stage)

inductive Act where
  | tick (clock : Int)
  | start (r : Request)
  | call (i : Nat) (deed : Deed)
  | crash
  | reopen (fails : Bool)

/-- A call that has not returned ends with its process. -/
def kill : Request × Stage → Request × Stage
  | (r, .returned err) => (r, .returned err)
  | (r, _) => (r, .died)

def State.with (s : State) (store : Store) (calls : List (Request × Stage)) : State :=
  { s with store := store, calls := if store.running then calls else calls.map kill }

def step (ed25519Verify : Ed25519) (s : State) : Act → Option State
  | .tick clock => if s.clock ≤ clock then some { s with clock := clock } else none
  | .start r =>
    if s.store.running then some { s with calls := s.calls ++ [(r, .entered)] } else none
  | .call i deed =>
    match s.calls[i]? with
    | none => none
    | some (r, stage) =>
      match advance ed25519Verify s.clock s.store r stage deed with
      | none => none
      | some (store', stage') => some (s.with store' (s.calls.set i (r, stage')))
  | .crash =>
    match s.store with
    | .memory _ => none
    | .file system =>
      (ReplayStore.step system .crash).map fun system' => s.with (.file system') s.calls
  | .reopen fails =>
    match s.store with
    | .memory _ => none
    | .file system =>
      (ReplayStore.step system (.reopen fails (wall s.clock))).map
        fun system' => s.with (.file system') s.calls

/-- The capabilities for which a call has returned nil. -/
def granted (calls : List (Request × Stage)) : Set (Jti × Time) :=
  {g | ∃ r, (r, Stage.returned none) ∈ calls ∧ g = (r.jti, r.expiresAt)}

/-- A call consumes its JTI before the capability expires, and what was granted under that
JTI before does not expire earlier. -/
def timely (s : State) : Act → Bool
  | .call i deed =>
    match s.calls[i]? with
    | none => true
    | some (r, _) =>
      !deed.decides || decide (s.clock < r.expiresAt.nanos) &&
        s.calls.all fun c => decide (c.2 = .returned none → c.1.jti = r.jti →
          r.expiresAt.nanos ≤ c.1.expiresAt.nanos)
  | _ => true

theorem timely_call {s : State} {i : Nat} {deed : Deed} {r : Request} {stage : Stage}
    (ok : timely s (.call i deed) = true) (at_i : s.calls[i]? = some (r, stage))
    (decides : deed.decides = true) : s.clock < r.expiresAt.nanos ∧
      ∀ g ∈ granted s.calls, g.1 = r.jti → r.expiresAt.nanos ≤ g.2.nanos := by
  simp only [timely, at_i, decides, Bool.not_true, Bool.false_or, and_eq_true,
    decide_eq_true_eq, List.all_eq_true] at ok
  refine ⟨ok.1, ?_⟩
  rintro g ⟨r', member, rfl⟩ same
  exact ok.2 (r', .returned none) member rfl same

/-- No two calls have returned nil for one JTI. -/
def AtMostOnce (calls : List (Request × Stage)) : Prop :=
  ∀ (i j : Nat) (r r' : Request), calls[i]? = some (r, Stage.returned none) →
    calls[j]? = some (r', Stage.returned none) → r.jti = r'.jti → i = j

/-- The invariant of the calls. -/
structure SingleUse (ed25519Verify : Ed25519) (s : State) : Prop where
  remembers : Remembering s.clock (granted s.calls) s.store
  sound : ∀ c ∈ s.calls, c.2.Sound ed25519Verify s.clock c.1
  once : AtMostOnce s.calls

section SingleUse

variable {ed25519Verify : Ed25519} {s : State}

variable {r : Request}

theorem kill_returned {c : Request × Stage} {err : Option CallError}
    (h : kill c = (r, .returned err)) : c = (r, .returned err) := by
  obtain ⟨r', stage⟩ := c
  cases stage with
  | returned => exact h
  | _ => cases h

theorem kill_sound {c : Request × Stage} {clock : Int} (h : c.2.Sound ed25519Verify clock c.1) :
    (kill c).2.Sound ed25519Verify clock (kill c).1 := by
  obtain ⟨r, stage⟩ := c
  cases stage with
  | returned => exact h
  | _ => trivial

theorem granted_kill (calls : List (Request × Stage)) :
    granted (calls.map kill) ⊆ granted calls := by
  rintro g ⟨r, member, rfl⟩
  obtain ⟨c, listed, killed⟩ := List.mem_map.mp member
  exact ⟨r, kill_returned killed ▸ listed, rfl⟩

variable {calls : List (Request × Stage)}

theorem granted_set {i : Nat} {stage : Stage} :
    granted (calls.set i (r, stage)) ⊆ insert (r.jti, r.expiresAt) (granted calls) := by
  rintro g ⟨r', member, rfl⟩
  rcases mem_or_eq_of_mem_set member with listed | new
  · exact .inr ⟨r', listed, rfl⟩
  · cases new
    exact .inl rfl

theorem granted_set_other {i : Nat} {stage : Stage} (other : stage ≠ .returned none) :
    granted (calls.set i (r, stage)) ⊆ granted calls := by
  rintro g ⟨r', member, rfl⟩
  rcases mem_or_eq_of_mem_set member with listed | new
  · exact ⟨r', listed, rfl⟩
  · cases new
    exact absurd rfl other

theorem SingleUse.with {store : Store}
    (h : SingleUse ed25519Verify { s with store := store, calls := calls }) :
    SingleUse ed25519Verify (s.with store calls) := by
  unfold State.with
  split
  · exact h
  refine ⟨h.remembers.subset (granted_kill calls), ?_, ?_⟩
  · intro c member
    obtain ⟨c', listed, rfl⟩ := List.mem_map.mp member
    exact kill_sound (h.sound c' listed)
  · intro i j r r' at_i at_j
    have unkilled : ∀ {k : Nat} {q : Request},
        (calls.map kill)[k]? = some (q, Stage.returned none) →
        calls[k]? = some (q, Stage.returned none) := by
      intro k q at_k
      rw [List.getElem?_map, map_eq_some_iff] at at_k
      obtain ⟨c, listed, killed⟩ := at_k
      exact kill_returned killed ▸ listed
    exact h.once i j r r' (unkilled at_i) (unkilled at_j)

theorem alone_of_once (once : AtMostOnce calls) (jti : Jti) :
    Exclusion.Alone (fun c => c.2 = .returned none ∧ c.1.jti = jti) calls := by
  rintro i j ⟨r, _⟩ ⟨r', _⟩ at_i at_j ⟨rfl, mine⟩ ⟨rfl, also⟩
  exact once i j r r' at_i at_j (mine.trans also.symm)

theorem once_of_alone
    (alone : ∀ jti, Exclusion.Alone (fun c => c.2 = .returned none ∧ c.1.jti = jti) calls) :
    AtMostOnce calls :=
  fun i j _ r' at_i at_j same => alone r'.jti i j _ _ at_i at_j ⟨rfl, same⟩ ⟨rfl, rfl⟩

/-- What a call that returns nil has to find. -/
theorem once_set {i : Nat} {c : Request × Stage} {stage : Stage} (at_i : calls[i]? = some c)
    (once : AtMostOnce calls)
    (new : stage = .returned none → ∀ g ∈ granted calls, g.1 ≠ r.jti) :
    AtMostOnce (calls.set i (r, stage)) := by
  refine once_of_alone fun jti => Exclusion.alone_set (alone_of_once once jti) at_i ?_
  rintro ⟨isNil, mine⟩
  refine .inr ?_
  rintro j ⟨q, _⟩ - at_j ⟨rfl, same⟩
  have listed := mem_of_getElem? at_j
  exact new isNil (q.jti, q.expiresAt) ⟨q, listed, rfl⟩ (same.trans mine.symm)

theorem singleUse_call {i : Nat} {deed : Deed} {stage stage' : Stage} {store' : Store}
    (h : SingleUse ed25519Verify s) (at_i : s.calls[i]? = some (r, stage))
    (advances : Advances ed25519Verify s.clock r s.store stage deed store' stage')
    (ok : timely s (.call i deed) = true) :
    SingleUse ed25519Verify
      { s with store := store', calls := s.calls.set i (r, stage') } := by
  have sound := h.sound (r, stage) (mem_of_getElem? at_i)
  have outcomes := advance_outcomes h.remembers sound advances
  refine ⟨?_, ?_, ?_⟩
  · cases outcomes with
    | other kept notGranted => exact kept.subset (granted_set_other notGranted)
    | grant isNil kept => exact kept.subset granted_set
  · intro c member
    rcases mem_or_eq_of_mem_set member with listed | rfl
    · exact h.sound c listed
    · exact advance_sound sound advances
  · refine once_set at_i h.once ?_
    rintro rfl g member same
    obtain ⟨early, noEarlier⟩ := timely_call ok at_i (decides_of_nil advances)
    cases outcomes with
    | other kept notGranted => exact notGranted rfl
    | grant isNil kept expired =>
      exact absurd early (Int.not_lt.mpr
        (Int.le_trans (noEarlier g member same) (expired g member same)))

theorem remembering_restart {clock : Int} {granted : Set (Jti × Time)} {system system' : System}
    {e : Event} (h : Remembering clock granted (.file system))
    (restart : e = .crash ∨ ∃ fails, e = .reopen fails (wall clock))
    (stepped : ReplayStore.step system e = some system') :
    Remembering clock granted (.file system') := by
  refine ⟨kept_step system e system' h.1 ?_ stepped, ?_⟩
  · rintro c rfl
    rcases restart with other | ⟨_, other⟩ <;> cases other
  · intro g member early
    exact live_restart restart stepped (h.2 g member early) early

/-- A crash or a reopening of the file store. -/
theorem singleUse_restart {system system' : System} {e : Event} (h : SingleUse ed25519Verify s)
    (isFile : s.store = .file system)
    (restart : e = .crash ∨ ∃ fails, e = .reopen fails (wall s.clock))
    (stepped : ReplayStore.step system e = some system') :
    SingleUse ed25519Verify (s.with (.file system') s.calls) := by
  have remembers := h.remembers
  rw [isFile] at remembers
  exact SingleUse.with ⟨remembering_restart remembers restart stepped, h.sound, h.once⟩

theorem singleUse_step (s : State) (a : Act) (s' : State) (h : SingleUse ed25519Verify s)
    (ok : timely s a = true) (stepped : step ed25519Verify s a = some s') :
    SingleUse ed25519Verify s' := by
  cases a with
  | tick =>
    obtain ⟨passed, ⟨⟩⟩ := ite_none_right_eq_some.mp stepped
    exact ⟨h.remembers.later passed, fun c member => (h.sound c member).later passed, h.once⟩
  | start =>
    obtain ⟨-, ⟨⟩⟩ := ite_none_right_eq_some.mp stepped
    refine ⟨h.remembers.subset ?_, ?_, ?_⟩
    · rintro g ⟨q, member, rfl⟩
      rcases mem_append.mp member with listed | new
      · exact ⟨q, listed, rfl⟩
      · cases mem_singleton.mp new
    · intro c member
      rcases mem_append.mp member with listed | new
      · exact h.sound c listed
      · cases mem_singleton.mp new
        trivial
    · refine once_of_alone fun jti => Exclusion.alone_push (alone_of_once h.once jti) ?_
      rintro ⟨⟨⟩, -⟩
  | call i =>
    unfold step at stepped
    dsimp only at stepped
    split at stepped
    · cases stepped
    rename_i at_i
    split at stepped
    · cases stepped
    · rename_i advances
      cases stepped
      exact (singleUse_call h at_i (advances_of_advance advances) ok).with
  | crash =>
    unfold step at stepped
    dsimp only at stepped
    split at stepped
    · cases stepped
    · rename_i system isFile
      obtain ⟨system', restarted, rfl⟩ := map_eq_some_iff.mp stepped
      exact singleUse_restart h isFile (.inl rfl) restarted
  | reopen fails =>
    unfold step at stepped
    dsimp only at stepped
    split at stepped
    · cases stepped
    · rename_i system isFile
      obtain ⟨system', restarted, rfl⟩ := map_eq_some_iff.mp stepped
      exact singleUse_restart h isFile (.inr ⟨fails, rfl⟩) restarted

end SingleUse

/-- The store the run begins with. -/
inductive Setup where
  | memory
  | file (state : Option DiskState)

def Setup.store : Setup → Store
  | .memory => .memory []
  | .file state => .file (.start state)

def State.start (clock : Int) (setup : Setup) : State := ⟨clock, setup.store, []⟩

theorem singleUse_start (ed25519Verify : Ed25519) (clock : Int) (setup : Setup) :
    SingleUse ed25519Verify (.start clock setup) where
  remembers := by
    have none_granted : granted [] ⊆ (∅ : Set (Jti × Time)) := by
      rintro g ⟨r, member, -⟩
      cases member
    cases setup with
    | memory => exact fun g member => absurd (none_granted member) id
    | file state => exact ⟨kept_start state, fun g member => absurd (none_granted member) id⟩
  sound := by
    intro c member
    cases member
  once := by
    intro i j r r' at_i
    cases at_i

/-- Over all interleavings and restarts in which each JTI is consumed before its capability
expires, each JTI makes `VerifyAndConsume` return nil at most once. -/
theorem returns_nil_at_most_once {ed25519Verify : Ed25519} {clock : Int} {setup : Setup}
    {acts : List Act} {s : State}
    (conforming : Runs.Meets (step ed25519Verify) (fun s a => timely s a = true)
      (.start clock setup) acts)
    (run : Runs.exec (step ed25519Verify) (.start clock setup) acts = some s) :
    AtMostOnce s.calls :=
  (Runs.exec_invariant (SingleUse ed25519Verify) singleUse_step
    (singleUse_start ed25519Verify clock setup) conforming run).once

section Samples

/-- A request for the route of the cross-language fixture, with its key and signature. -/
def sampleRequest : Request where
  verifier := {
    keyID := literal "test-route-key-1"
    publicKey := (rawURLDecode (literal "A6EHv_POEL4dcN0Y50vAmWfk1jCbpQ1fHdyGZBJVMbg")).getD []
    hasReplay := true }
  auth := signedSample
  route := sample.claims.route
  router := sample.claims.router

/-- Ed25519 as far as that signature tells. -/
def sampleEd25519 (publicKey message signature : List UInt8) : Bool :=
  publicKey == sampleRequest.verifier.publicKey &&
    some signature == rawURLDecode sampleRequest.auth.signature &&
    some message == (routeAuthorizationMessage sampleRequest.auth).toOption

def issued : Int := 1800000000000000000

/-- Two calls of which one consumes the JTI, and a third one after a restart. -/
def restartedUse : List Act :=
  [.reopen false, .start sampleRequest, .start sampleRequest, .call 0 (.verify false),
    .call 1 (.verify false), .call 1 (.consume false false fun _ => .succeeds),
    .call 0 (.consume false false fun _ => .succeeds), .crash, .tick (issued + 1), .reopen false,
    .start sampleRequest, .call 2 (.verify false),
    .call 2 (.consume false false fun _ => .succeeds)]

theorem returns_nil_at_most_once_restarted : ∃ s,
    Runs.exec (step sampleEd25519) (.start issued (.file none)) restartedUse = some s ∧
    s.calls.map Prod.snd = [.returned (some (.store .replay)), .returned none,
      .returned (some (.store .replay))] ∧ AtMostOnce s.calls := by
  have conforming : Runs.Meets (step sampleEd25519) (fun s a => timely s a = true)
      (.start issued (.file none)) restartedUse := by
    decide +kernel
  have ends : (Runs.exec (step sampleEd25519) (.start issued (.file none)) restartedUse).any
      (fun s => s.calls.map Prod.snd = [.returned (some (.store .replay)), .returned none,
        .returned (some (.store .replay))]) = true := by
    decide +kernel
  obtain ⟨s, run, stages⟩ := (Option.any_eq_true _ _).mp ends
  exact ⟨s, run, of_decide_eq_true stages, returns_nil_at_most_once conforming run⟩

/-- The second call verifies its capability in time, and consumes the JTI when the record of
the first one has expired. -/
def delayedUse : List Act :=
  [.start sampleRequest, .start sampleRequest, .call 0 (.verify false), .call 1 (.verify false),
    .call 0 (.readClock false), .call 0 .lock, .tick (issued + 60000000000),
    .call 1 (.readClock false), .call 1 .lock]

theorem delayed_call_returns_nil_again : ∃ s,
    Runs.exec (step sampleEd25519) (.start issued .memory) delayedUse = some s ∧
    s.calls = [(sampleRequest, .returned none), (sampleRequest, .returned none)] ∧
    ¬ AtMostOnce s.calls := by
  have ends : (Runs.exec (step sampleEd25519) (.start issued .memory) delayedUse).any
      (fun s => s.calls = [(sampleRequest, .returned none), (sampleRequest, .returned none)]) =
        true := by
    decide +kernel
  obtain ⟨s, run, both⟩ := (Option.any_eq_true _ _).mp ends
  have both := of_decide_eq_true both
  refine ⟨s, run, both, ?_⟩
  intro once
  rw [both] at once
  exact absurd (once 0 1 sampleRequest sampleRequest rfl rfl rfl) (by decide)

end Samples

end RouteVerifier
