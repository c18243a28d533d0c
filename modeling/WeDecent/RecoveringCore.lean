import WeDecent.Library.Runs
import WeDecent.TerminalWriteIdempotency

/-!
# Terminal writes of the desktop UI

`cmd/wd-ui/recovering_core.go`. A write goes to Core with an operation ID. When the local
transport fails the UI recovers Core and tries once more; when the outcome stays unknown the
ID is left pending, and the next write of the same bytes takes it over.
-/

namespace RecoveringCore

open Bool List Option CoreRequests TerminalWriteIdempotency

inductive UnavailableStage where
  | unknown
  | dial
  | setDeadline
  | writeRequest
  | readResponse
deriving DecidableEq

/-- The error codes of the local IPC protocol that these services can answer with -/
inductive Code where
  | invalidParams
  | methodNotFound
  | connectionNotFound
  | connectionLimit
  | connectionUnavailable
  | connectionFailed
  | terminalUnavailable
  | terminalFailed
  | fileTransferUnavailable
  | fileTransferLimit
  | fileTransferNotFound
  | fileTransferFailed
  | requestCanceled
  | internal
  | other (text : Bytes)
deriving DecidableEq

/-- What `errors.Is` and `errors.As` find in an error of the client: `ErrUnavailable`, an
`*UnavailableError`, the error of a context and a `*RemoteError`. -/
structure ClientErr where
  unavailable : Bool
  stage : Option UnavailableStage
  context : Bool
  remote : Option Code
deriving DecidableEq

def unavailableError (stage : UnavailableStage) : ClientErr := ⟨true, some stage, false, none⟩

def isRemoteCode (err : ClientErr) (code : Code) : Bool := err.remote == some code

def isConnectionGone (err : ClientErr) : Bool := isRemoteCode err .connectionNotFound

def requestMayHaveReachedCore (err : ClientErr) : Bool :=
  if !err.unavailable then false
  else
    match err.stage with
    | none => true
    | some .dial => false
    | some .setDeadline => false
    | some _ => true

/-- Why the exchange of a request and its response broke off -/
inductive Break where
  | context
  | malformed
  | transport

/-- The ways in which `Client.call` can end -/
inductive Exchange where
  | noContext
  | ended
  | noRequestID
  | notEncoded
  | dialFailed (ctxEnded : Bool)
  | deadlineFailed
  | writeFailed (b : Break)
  | readFailed (b : Break)
  | mismatched
  | refused (code : Code)
  | succeeded

namespace Exchange

def plainErr : ClientErr := ⟨false, none, false, none⟩

def contextErr : ClientErr := ⟨false, none, true, none⟩

/-- The error after transmission has begun; with an ended context both are joined. -/
def broken (stage : UnavailableStage) : Break → ClientErr
  | .context => { unavailableError stage with context := true }
  | .malformed => plainErr
  | .transport => unavailableError stage

/-- The error that `Client.call` returns; `terminal.write` has no result to decode. -/
def error : Exchange → Option ClientErr
  | .noContext => some plainErr
  | .ended => some contextErr
  | .noRequestID => some plainErr
  | .notEncoded => some plainErr
  | .dialFailed true => some contextErr
  | .dialFailed false => some (unavailableError .dial)
  | .deadlineFailed => some (unavailableError .setDeadline)
  | .writeFailed b => some (broken .writeRequest b)
  | .readFailed b => some (broken .readResponse b)
  | .mismatched => some plainErr
  | .refused code => some ⟨false, none, false, some code⟩
  | .succeeded => none

/-- Whether bytes of the request may have left the client -/
def transmits : Exchange → Bool
  | .noContext => false
  | .ended => false
  | .noRequestID => false
  | .notEncoded => false
  | .dialFailed _ => false
  | .deadlineFailed => false
  | .writeFailed _ => true
  | .readFailed _ => true
  | .mismatched => true
  | .refused _ => true
  | .succeeded => true

end Exchange

def notDeliveredCodes : List Code :=
  [.invalidParams, .methodNotFound, .connectionNotFound, .connectionUnavailable,
    .terminalUnavailable]

def terminalWriteDefinitelyNotDelivered (err : ClientErr) : Bool :=
  (!err.unavailable && err.context && err.remote.isNone) || notDeliveredCodes.any (isRemoteCode err)

section Core

variable {Digest : Type} [DecidableEq Digest]

structure PendingTerminalWrite (Digest : Type) where
  dataDigest : Digest
  operationID : Bytes
  expiresAt : Int

/-- The fields of `recoveringCore` that writes use, with the operation counter -/
structure UI (Digest : Type) where
  pid : Nat
  pendingTerminalWrites : List (Bytes × PendingTerminalWrite Digest)
  terminalWriteOperationCounter : Nat

inductive UiErr where
  /-- An error that wraps `ErrTerminalWriteOutcomeUnknown` -/
  | unknown (operation recovery : Option ClientErr)
  | definite (err : ClientErr)

def UiErr.marked : UiErr → Bool
  | .unknown _ _ => true
  | .definite _ => false

def hex (n : Nat) : Bytes := (Nat.toDigits 16 n).map fun c => UInt8.ofNat c.toNat

/-- `fmt.Sprintf("tw_%x_%x_%x", …)` -/
def nextTerminalWriteOperationID (pid stamp counter : Nat) : Bytes :=
  GoText.literal "tw_" ++ hex pid ++ [95] ++ hex stamp ++ [95] ++ hex counter

namespace UI

def pendingWrite (ui : UI Digest) (connectionID : Bytes) : Option (PendingTerminalWrite Digest) :=
  (ui.pendingTerminalWrites.find? fun p => p.1 = connectionID).map Prod.snd

/-- Some connection has a pending write with this ID. -/
def holds (ui : UI Digest) (operationID : Bytes) : Bool :=
  ui.pendingTerminalWrites.any fun p => p.2.operationID = operationID

end UI

/-- `stamp` is the time that the new ID shows. -/
def prepareTerminalWriteRequest (digest : Bytes → Digest) (now : Int) (stamp : Nat)
    (ui : UI Digest) (req : TerminalWriteRequest) :
    Except UiErr (UI Digest × TerminalWriteRequest) :=
  if !req.operationID.isEmpty then .ok (ui, req)
  else if req.connectionID.isEmpty || req.data.length < 1 ||
      maxTerminalChunkBytes < req.data.length then .ok (ui, req)
  else
    match ui.pendingWrite req.connectionID with
    | some pending =>
      if now > pending.expiresAt || pending.dataDigest ≠ digest req.data then
        .error (.unknown none none)
      else .ok (ui, { req with operationID := pending.operationID })
    | none =>
      let counter := ui.terminalWriteOperationCounter + 1
      let operationID := nextTerminalWriteOperationID ui.pid stamp counter
      let pending := ⟨digest req.data, operationID, now + terminalWriteReplayWindow⟩
      .ok ({ ui with
          pendingTerminalWrites := (req.connectionID, pending) :: ui.pendingTerminalWrites
          terminalWriteOperationCounter := counter },
        { req with operationID })

def clearPendingTerminalWriteRequest (ui : UI Digest) (req : TerminalWriteRequest) : UI Digest :=
  if req.operationID.isEmpty then ui
  else { ui with pendingTerminalWrites := ui.pendingTerminalWrites.filter fun p =>
    !(p.1 = req.connectionID && p.2.operationID = req.operationID) }

def clearPendingTerminalWrite (ui : UI Digest) (connectionID : Bytes) : UI Digest :=
  { ui with pendingTerminalWrites := ui.pendingTerminalWrites.filter fun p => p.1 ≠ connectionID }

def shouldRecover (err : ClientErr) : Bool := err.unavailable

/-- Where `WriteTerminal` waits: for its first attempt, for the recovery, for the second -/
inductive Pc where
  | idle
  | first (req : TerminalWriteRequest)
  | recovering (req : TerminalWriteRequest) (err : ClientErr)
  | second (req : TerminalWriteRequest) (firstMayHaveReached : Bool)
deriving DecidableEq

inductive Next where
  | go (pc : Pc)
  | answer (err : Option UiErr)

def afterFirst (ui : UI Digest) (req : TerminalWriteRequest) : Option ClientErr → UI Digest × Next
  | none => (clearPendingTerminalWriteRequest ui req, .answer none)
  | some err =>
    if shouldRecover err then (ui, .go (.recovering req err))
    else if terminalWriteDefinitelyNotDelivered err then
      (clearPendingTerminalWriteRequest ui req, .answer (some (.definite err)))
    else (ui, .answer (some (.unknown (some err) none)))

def afterRecovery (ui : UI Digest) (req : TerminalWriteRequest) (err : ClientErr) :
    Option ClientErr → UI Digest × Next
  | some recoveryErr =>
    if requestMayHaveReachedCore err then
      (ui, .answer (some (.unknown (some err) (some recoveryErr))))
    else (clearPendingTerminalWriteRequest ui req, .answer (some (.definite recoveryErr)))
  | none => (ui, .go (.second req (requestMayHaveReachedCore err)))

def afterSecond (ui : UI Digest) (req : TerminalWriteRequest) (firstMayHaveReached : Bool) :
    Option ClientErr → UI Digest × Next
  | none => (clearPendingTerminalWriteRequest ui req, .answer none)
  | some err =>
    if !shouldRecover err then
      if firstMayHaveReached then
        (if isConnectionGone err then clearPendingTerminalWriteRequest ui req else ui,
          .answer (some (.unknown (some err) none)))
      else if terminalWriteDefinitelyNotDelivered err then
        (clearPendingTerminalWriteRequest ui req, .answer (some (.definite err)))
      else (ui, .answer (some (.unknown (some err) none)))
    else if firstMayHaveReached || requestMayHaveReachedCore err then
      (ui, .answer (some (.unknown (some err) none)))
    else (clearPendingTerminalWriteRequest ui req, .answer (some (.definite err)))

end Core

/-- One call of the client. Whether it delivers its bytes, now or later, is up to the environment,
within what the transport and Core's answer leave open. -/
structure Attempt where
  call : Nat
  operationID : Bytes
  exchange : Exchange
  delivered : Bool

/-- A request that never left the client is not delivered, and the codes that deny delivery
are true of the request they answer. -/
def truthful : Exchange → Bool → Bool
  | _, false => true
  | .refused code, true => !notDeliveredCodes.contains code
  | ex, true => ex.transmits

/-- What a call has returned. `carried` says that its operation ID was pending when it began. -/
structure Report where
  call : Nat
  operationID : Bytes
  carried : Bool
  err : Option UiErr

namespace Report

/-- The call failed and does not say that the outcome is unknown. -/
def definite (r : Report) : Bool := r.err.any fun err => !err.marked

/-- The attempt was made under the operation ID of the call, in it or in an earlier call that
left the ID pending. -/
def covers (r : Report) (a : Attempt) : Bool :=
  a.operationID == r.operationID && (a.call == r.call || (decide (a.call < r.call) && r.carried))

end Report

section Calls

variable {Digest : Type} [DecidableEq Digest]

structure State (Digest : Type) where
  clock : Int
  ui : UI Digest
  pc : Pc
  /-- How many calls have returned; the running one has this number. -/
  calls : Nat
  carried : Bool
  attempts : List Attempt
  reports : List Report

inductive Action where
  | tick (elapsed : Nat)
  | write (req : TerminalWriteRequest) (stamp : Nat)
  | attempt (ex : Exchange) (delivered : Bool)
  | recovered (err : Option ClientErr)
  /-- Another method has found the connection gone. -/
  | forget (connectionID : Bytes)

namespace State

def initial (pid : Nat) (clock : Int) : State Digest :=
  ⟨clock, ⟨pid, [], 0⟩, .idle, 0, false, [], []⟩

/-- The call returns. -/
def report (s : State Digest) (operationID : Bytes) (err : Option UiErr) : State Digest :=
  { s with
    pc := .idle, calls := s.calls + 1
    reports := s.reports ++ [⟨s.calls, operationID, s.carried, err⟩] }

def next (s : State Digest) (req : TerminalWriteRequest) : UI Digest × Next → State Digest
  | (ui, .go pc) => { s with ui, pc }
  | (ui, .answer err) => { s with ui }.report req.operationID err

def tried (s : State Digest) (req : TerminalWriteRequest) (ex : Exchange) (delivered : Bool) :
    State Digest :=
  { s with attempts := s.attempts ++ [⟨s.calls, req.operationID, ex, delivered⟩] }

end State

def step (digest : Bytes → Digest) (s : State Digest) : Action → Option (State Digest)
  | .tick elapsed => some { s with clock := s.clock + elapsed }
  | .write req stamp =>
    if s.pc = .idle then
      match prepareTerminalWriteRequest digest s.clock stamp s.ui req with
      | .error err => some ({ s with carried := false }.report req.operationID (some err))
      | .ok (ui, prepared) => some { s with
          ui, pc := .first prepared, carried := s.ui.holds prepared.operationID }
    else none
  | .attempt ex delivered =>
    if truthful ex delivered then
      match s.pc with
      | .first req =>
        some ((s.tried req ex delivered).next req (afterFirst s.ui req ex.error))
      | .second req may =>
        some ((s.tried req ex delivered).next req (afterSecond s.ui req may ex.error))
      | _ => none
    else none
  | .recovered err =>
    match s.pc with
    | .recovering req failure => some (s.next req (afterRecovery s.ui req failure err))
    | _ => none
  | .forget connectionID => some { s with ui := clearPendingTerminalWrite s.ui connectionID }

/-- No call says that its bytes were not delivered when they were. -/
def NoFalseReport (s : State Digest) : Prop :=
  ∀ r ∈ s.reports, r.definite = true → ∀ a ∈ s.attempts, r.covers a = true → a.delivered = false

instance (s : State Digest) : Decidable (NoFalseReport s) :=
  inferInstanceAs (Decidable (∀ r ∈ s.reports, r.definite = true →
    ∀ a ∈ s.attempts, r.covers a = true → a.delivered = false))

/-- A call that begins does not take over an ID that an earlier call left pending. -/
def fresh (digest : Bytes → Digest) (s : State Digest) : Action → Bool
  | .write req stamp =>
    match prepareTerminalWriteRequest digest s.clock stamp s.ui req with
    | .error _ => true
    | .ok (_, prepared) => !s.ui.holds prepared.operationID
  | _ => true

end Calls

section Proofs

variable {Digest : Type} {s s' : State Digest}

variable {ex : Exchange}

/-- An attempt that ended in a transport failure is delivered only if the request may have
reached Core. -/
theorem reached_of_delivered {err : ClientErr} (told : truthful ex true = true)
    (failed : ex.error = some err) (transport : err.unavailable = true) :
    requestMayHaveReachedCore err = true := by
  cases ex with
  | writeFailed b | readFailed b =>
    cases b <;> cases failed
    · rfl
    · cases transport
    · rfl
  | mismatched =>
    cases failed
    cases transport
  | refused =>
    cases failed
    cases transport
  | succeeded => cases failed
  | _ => cases told

variable {delivered : Bool}

/-- An error that denies delivery is true of its attempt. -/
theorem undelivered_of_definite {err : ClientErr} (told : truthful ex delivered = true)
    (failed : ex.error = some err) (denies : terminalWriteDefinitelyNotDelivered err = true)
    (answered : err.unavailable = false) : delivered = false := by
  cases delivered with
  | false => rfl
  | true =>
    exfalso
    cases ex with
    | refused code =>
      cases failed
      obtain ⟨c, listed, same⟩ := List.any_eq_true.mp denies
      have code_eq : code = c := by
        simpa [isRemoteCode, beq_iff_eq] using same
      subst code_eq
      have contained : notDeliveredCodes.contains code = true := contains_iff_mem.mpr listed
      simp only [truthful, contained] at told
      cases told
    | writeFailed b | readFailed b =>
      cases b <;> cases failed
      · cases answered
      · cases denies
      · cases answered
    | mismatched =>
      cases failed
      cases denies
    | succeeded => cases failed
    | _ => cases told

/-- What is known of the attempts of the running call. -/
def Running (pc : Pc) (a : Attempt) : Prop :=
  match pc with
  | .idle => False
  | .first _ => False
  | .recovering _ err => a.delivered = true → requestMayHaveReachedCore err = true
  | .second _ may => a.delivered = true → may = true

structure Sound (s : State Digest) : Prop where
  truth : NoFalseReport s
  reported : ∀ r ∈ s.reports, r.call < s.calls
  made : ∀ a ∈ s.attempts, a.call ≤ s.calls
  running : ∀ a ∈ s.attempts, a.call = s.calls → Running s.pc a
  own : s.pc ≠ .idle → s.carried = false

/-- A call that returns: an answer without a mark needs its own attempts undelivered. -/
theorem Sound.report {operationID : Bytes} {err : Option UiErr} {attempts : List Attempt}
    (sound : Sound s) (ui : UI Digest) (own : s.carried = false)
    (old : ∀ a ∈ attempts, a ∈ s.attempts ∨ a.call = s.calls)
    (undelivered : ∀ e, err = some e → e.marked = false →
      ∀ a ∈ attempts, a.call = s.calls → a.delivered = false) :
    Sound ({ s with ui, attempts }.report operationID err) := by
  have made : ∀ a ∈ attempts, a.call ≤ s.calls := by
    intro a member
    rcases old a member with before | now
    · exact sound.made a before
    · exact Nat.le_of_eq now
  refine ⟨?_, ?_, ?_, ?_, fun busy => absurd rfl busy⟩
  · intro r member definite a tried covered
    simp only [Report.covers, and_eq_true, or_eq_true, beq_iff_eq, decide_eq_true_eq] at covered
    rcases mem_append.mp member with earlier | this
    · have before := sound.reported r earlier
      rcases old a tried with kept | now
      · refine sound.truth r earlier definite a kept ?_
        simpa [Report.covers, beq_iff_eq] using covered
      · omega
    · cases mem_singleton.mp this
      obtain ⟨-, same | ⟨-, carried⟩⟩ := covered
      · obtain ⟨e, rfl, unmarked⟩ := (Option.any_eq_true _ _).mp definite
        exact undelivered e rfl (by simpa using unmarked) a tried same
      · rw [own] at carried
        cases carried
  · intro r member
    simp only [State.report]
    rcases mem_append.mp member with earlier | this
    · have before := sound.reported r earlier
      omega
    · cases mem_singleton.mp this
      exact Nat.lt_succ_self _
  · intro a tried
    have before := made a tried
    simp only [State.report]
    omega
  · intro a tried now
    have before := made a tried
    simp only [State.report] at now
    omega

/-- A call that goes on. -/
theorem Sound.go {attempts : List Attempt} (sound : Sound s) (ui : UI Digest) (pc : Pc)
    (own : s.carried = false) (old : ∀ a ∈ attempts, a ∈ s.attempts ∨ a.call = s.calls)
    (running : ∀ a ∈ attempts, a.call = s.calls → Running pc a) :
    Sound { s with ui, attempts, pc } := by
  refine ⟨?_, sound.reported, ?_, running, fun _ => own⟩
  · intro r member definite a tried covered
    rcases old a tried with kept | now
    · exact sound.truth r member definite a kept covered
    · have before := sound.reported r member
      simp only [Report.covers, and_eq_true, or_eq_true, beq_iff_eq, decide_eq_true_eq] at covered
      omega
  · intro a tried
    rcases old a tried with kept | now
    · exact sound.made a kept
    · exact Nat.le_of_eq now

variable {req : TerminalWriteRequest}

/-- The attempt that has just ended is one of the running call. -/
theorem tried_cases {a : Attempt} (member : a ∈ (s.tried req ex delivered).attempts) :
    a ∈ s.attempts ∨ a = ⟨s.calls, req.operationID, ex, delivered⟩ :=
  (mem_append.mp member).imp id mem_singleton.mp

theorem tried_old :
    ∀ a ∈ (s.tried req ex delivered).attempts, a ∈ s.attempts ∨ a.call = s.calls := by
  intro a member
  rcases tried_cases member with kept | rfl
  · exact .inl kept
  · exact .inr rfl

theorem Sound.first
    (sound : Sound s) (pc : s.pc = .first req) (told : truthful ex delivered = true) :
    Sound ((s.tried req ex delivered).next req (afterFirst s.ui req ex.error)) := by
  have own := sound.own (by rw [pc]; nofun)
  have only : ∀ a ∈ (s.tried req ex delivered).attempts, a.call = s.calls →
      a.delivered = delivered := by
    intro a member now
    rcases tried_cases member with kept | rfl
    · have none := sound.running a kept now
      rw [pc] at none
      exact none.elim
    · rfl
  cases failed : ex.error with
  | none => exact sound.report _ own tried_old fun _ same => nomatch same
  | some err =>
    simp only [afterFirst]
    by_cases transport : shouldRecover err = true
    · rw [if_pos transport]
      refine sound.go _ _ own tried_old fun a member now reached => ?_
      rw [only a member now] at reached
      subst reached
      exact reached_of_delivered told failed transport
    · rw [if_neg transport]
      by_cases denies : terminalWriteDefinitelyNotDelivered err = true
      · rw [if_pos denies]
        refine sound.report _ own tried_old fun _ _ _ a member now => ?_
        rw [only a member now]
        exact undelivered_of_definite told failed denies (eq_false_iff.mpr transport)
      · rw [if_neg denies]
        refine sound.report _ own tried_old fun e same unmarked => ?_
        cases same
        cases unmarked

theorem Sound.recovery {failure : ClientErr} (sound : Sound s) (pc : s.pc = .recovering req failure)
    (err : Option ClientErr) :
    Sound (s.next req (afterRecovery s.ui req failure err)) := by
  have own := sound.own (by rw [pc]; nofun)
  have known : ∀ a ∈ s.attempts, a.call = s.calls → a.delivered = true →
      requestMayHaveReachedCore failure = true := by
    intro a member now
    have running := sound.running a member now
    rw [pc] at running
    exact running
  cases err with
  | none => exact sound.go _ _ own (fun a member => .inl member) known
  | some =>
    simp only [afterRecovery]
    by_cases may : requestMayHaveReachedCore failure = true
    · rw [if_pos may]
      refine sound.report _ own (fun a member => .inl member) fun e same unmarked => ?_
      cases same
      cases unmarked
    · rw [if_neg may]
      refine sound.report _ own (fun a member => .inl member) fun _ _ _ a member now => ?_
      exact eq_false_iff.mpr fun delivered => may (known a member now delivered)

theorem Sound.second {may : Bool} (sound : Sound s) (pc : s.pc = .second req may)
    (told : truthful ex delivered = true) :
    Sound ((s.tried req ex delivered).next req (afterSecond s.ui req may ex.error)) := by
  have own := sound.own (by rw [pc]; nofun)
  -- the first attempt is delivered only if `may` says so
  have known : may = false → delivered = false →
      ∀ a ∈ (s.tried req ex delivered).attempts, a.call = s.calls → a.delivered = false := by
    intro unreached undelivered a member now
    rcases tried_cases member with kept | rfl
    · have running := sound.running a kept now
      rw [pc] at running
      exact eq_false_iff.mpr fun reached => eq_false_iff.mp unreached (running reached)
    · exact undelivered
  have marked : ∀ ui err, Sound ((s.tried req ex delivered).next req
      (ui, .answer (some (.unknown (some err) none)))) := by
    intro ui err
    refine sound.report _ own tried_old fun e same unmarked => ?_
    cases same
    cases unmarked
  cases failed : ex.error with
  | none => exact sound.report _ own tried_old fun _ same => nomatch same
  | some err =>
    simp only [afterSecond]
    by_cases transport : shouldRecover err = true
    · rw [transport, Bool.not_true, if_neg Bool.false_ne_true]
      by_cases reached : (may || requestMayHaveReachedCore err) = true
      · rw [if_pos reached]
        exact marked _ err
      rw [if_neg reached]
      rw [not_eq_true, or_eq_false_iff] at reached
      refine sound.report _ own tried_old fun _ _ _ => known reached.1 ?_
      refine eq_false_iff.mpr fun hit => eq_false_iff.mp reached.2 ?_
      subst hit
      exact reached_of_delivered told failed transport
    · have answered : shouldRecover err = false := eq_false_iff.mpr transport
      rw [answered, Bool.not_false, if_pos rfl]
      by_cases reached : may = true
      · rw [if_pos reached]
        exact marked _ err
      rw [if_neg reached]
      by_cases denies : terminalWriteDefinitelyNotDelivered err = true
      · rw [if_pos denies]
        refine sound.report _ own tried_old fun _ _ _ =>
          known (eq_false_iff.mpr reached) ?_
        exact undelivered_of_definite told failed denies answered
      · rw [if_neg denies]
        exact marked _ err

theorem sound_initial (pid : Nat) (clock : Int) :
    Sound (State.initial pid clock : State Digest) where
  truth := by
    intro r member
    cases member
  reported := by
    intro r member
    cases member
  made := by
    intro a member
    cases member
  running := by
    intro a member
    cases member
  own := fun _ => rfl

variable [DecidableEq Digest] {digest : Bytes → Digest}

theorem Sound.write {stamp : Nat} (sound : Sound s) (new : fresh digest s (.write req stamp) = true)
    (h : step digest s (.write req stamp) = some s') : Sound s' := by
  obtain ⟨idle, h⟩ := ite_none_right_eq_some.mp h
  have nothing : ∀ a ∈ s.attempts, a.call ≠ s.calls := by
    intro a member now
    have running := sound.running a member now
    rw [idle] at running
    exact running
  have clean : Sound { s with carried := false } :=
    ⟨sound.truth, sound.reported, sound.made, sound.running, fun _ => rfl⟩
  cases prepared : prepareTerminalWriteRequest digest s.clock stamp s.ui req with
  | error =>
    rw [prepared] at h
    cases h
    exact clean.report s.ui rfl (fun a member => .inl member)
      fun _ _ _ a member now => absurd now (nothing a member)
  | ok result =>
    obtain ⟨ui, request⟩ := result
    simp only [fresh, prepared, not_eq_true'] at new
    rw [prepared] at h
    simp only [new] at h
    cases h
    exact clean.go ui (.first request) rfl (fun a member => .inl member)
      fun a member now => absurd now (nothing a member)

theorem Sound.step {a : Action} (sound : Sound s) (new : fresh digest s a = true)
    (h : step digest s a = some s') : Sound s' := by
  cases a with
  | write => exact sound.write new h
  | attempt =>
    obtain ⟨told, h⟩ := ite_none_right_eq_some.mp h
    split at h
    · rename_i pc
      cases h
      exact sound.first pc told
    · rename_i pc
      cases h
      exact sound.second pc told
    · cases h
  | recovered err =>
    simp only [RecoveringCore.step] at h
    split at h
    · rename_i pc
      cases h
      exact sound.recovery pc err
    · cases h
  | _ =>
    cases h
    exact ⟨sound.truth, sound.reported, sound.made, sound.running, sound.own⟩

/-- In every run in which no call takes over a pending operation ID, an error without the
mark of an unknown outcome means that the bytes were not delivered. -/
theorem fresh_reports_true (digest : Bytes → Digest) (pid : Nat) (clock : Int)
    (acts : List Action) (s : State Digest)
    (meets : Runs.Meets (RecoveringCore.step digest) (fun s a => fresh digest s a = true)
      (State.initial pid clock) acts)
    (run : Runs.exec (RecoveringCore.step digest) (State.initial pid clock) acts = some s) :
    NoFalseReport s :=
  (Runs.exec_invariant Sound (fun _ _ _ sound new h => sound.step new h)
    (sound_initial pid clock) meets run).truth

end Proofs

section Sample

def sampleRequest : TerminalWriteRequest where
  connectionID := [99]
  operationID := []
  data := [108, 115, 13]

/-- The first attempt fails while dialing, and the recovered Core no longer knows the connection. -/
def goneRun : List Action :=
  [.write sampleRequest 1, .attempt (.dialFailed false) false, .recovered none,
    .attempt (.refused .connectionNotFound) false]

theorem fresh_reports_true_gone : ∃ s : State Bytes,
    Runs.exec (RecoveringCore.step id) (State.initial 7 0) goneRun = some s ∧
    s.reports.map Report.definite = [true] ∧ NoFalseReport s := by
  have run : (Runs.exec (RecoveringCore.step id) (State.initial 7 0) goneRun).any
      (fun s : State Bytes => decide (s.reports.map Report.definite = [true])) = true := by
    decide +kernel
  obtain ⟨s, reached, seen⟩ := (Option.any_eq_true _ _).mp run
  have meets : Runs.Meets (RecoveringCore.step (id : Bytes → Bytes))
      (fun s a => fresh id s a = true) (State.initial 7 0) goneRun := by
    decide +kernel
  exact ⟨s, reached, of_decide_eq_true seen, fresh_reports_true id 7 0 goneRun s meets reached⟩

/-- The response of a delivered write is lost and recovery fails. The same bytes are written
again after Core was replaced, and the new Core does not know the connection. -/
def carriedRun : List Action :=
  [.write sampleRequest 1, .attempt (.readFailed .transport) true,
    .recovered (some (unavailableError .dial)), .write sampleRequest 2,
    .attempt (.refused .connectionNotFound) false]

theorem carried_report_false : ∃ s : State Bytes,
    Runs.exec (RecoveringCore.step id) (State.initial 7 0) carriedRun = some s ∧
    ¬ NoFalseReport s := by
  have run : (Runs.exec (RecoveringCore.step id) (State.initial 7 0) carriedRun).any
      (fun s : State Bytes => decide (¬ NoFalseReport s)) = true := by
    decide +kernel
  obtain ⟨s, reached, seen⟩ := (Option.any_eq_true _ _).mp run
  exact ⟨s, reached, of_decide_eq_true seen⟩

end Sample

end RecoveringCore
