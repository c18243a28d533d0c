import WeDecent.RecoveringCore

/-!
# Terminal input from the UI to the terminal

The writes of `recoveringCore` composed with `TerminalWriteIdempotencyService`. A request that
the UI has sent may be lost or reach Core at any later time, also when the UI no longer waits
for it, and so may its response. Core is not replaced, and both sides read one clock.
-/

namespace TerminalInput

open Bool List Option CoreRequests RecoveringCore SingleFlight TerminalWriteIdempotency

/-- The code that `Server.finish` gives for an error of the terminal service -/
def finishCode (err : Err) : Code :=
  if err.is .canceled || err.is .deadlineExceeded then .requestCanceled
  else if err.is .invalidConnectionRequest || err.is .invalidTerminalRequest ||
      err.is .invalidFileTransferRequest then .invalidParams
  else if err.is .connectionNotFound then .connectionNotFound
  else if err.is .connectionLimit then .connectionLimit
  else if err.is .connectionServiceClosed then .connectionUnavailable
  else if err.is .connectionOperation then .connectionFailed
  else if err.is .terminalUnavailable then .terminalUnavailable
  else if err.is .terminalOperation then .terminalFailed
  else if err.is .fileTransferUnavailable then .fileTransferUnavailable
  else if err.is .fileTransferLimit then .fileTransferLimit
  else if err.is .fileTransferNotFound then .fileTransferNotFound
  else if err.is .fileTransferOperation then .fileTransferFailed
  else .internal

/-- The call of the service that handles a request: in the table, or beside it. -/
inductive Place where
  | keyed (c : Nat)
  | plain (p : Nat)

/-- A request that has left the UI -/
structure Sent where
  req : TerminalWriteRequest
  place : Option Place

section Model

variable {Digest : Type} [DecidableEq Digest]

structure World (Digest : Type) where
  ui : UI Digest
  pc : RecoveringCore.Pc
  /-- The request of the running attempt, once it has been sent -/
  request : Option Nat
  sent : List Sent
  core : TerminalWriteIdempotency.State Digest
  /-- When an operation ID was first given to a request -/
  issued : List (Bytes × Int)

namespace World

def initial (pid : Nat) (clock : Int) : World Digest :=
  ⟨⟨pid, [], 0⟩, .idle, none, [], Served.initial clock, []⟩

def clock (w : World Digest) : Int := w.core.flights.clock

def issuedAt (w : World Digest) (operationID : Bytes) : Option Int :=
  (w.issued.find? fun i => i.1 = operationID).map Prod.snd

def issue (w : World Digest) (operationID : Bytes) : List (Bytes × Int) :=
  if (w.issuedAt operationID).isSome then w.issued else w.issued ++ [(operationID, w.clock)]

/-- What the service has returned for a request, if it has -/
def reply (w : World Digest) (n : Nat) : Option (Option Err) :=
  match (w.sent[n]?).bind Sent.place with
  | some (.keyed c) =>
    match (w.core.flights.calls[c]?).map Call.pc with
    | some (.ended o) => some (returned o)
    | _ => none
  | some (.plain p) => (w.core.plain[p]?).bind Plain.result
  | none => none

/-- Whether an attempt can end like this now -/
def possible (w : World Digest) : Exchange → Bool
  | .writeFailed _ => true
  | .readFailed _ => w.request.isSome
  | .mismatched => w.request.isSome
  | .refused code =>
    (w.request.bind w.reply).any fun r => r.any fun err => decide (finishCode err = code)
  | .succeeded => w.request.bind w.reply == some none
  | .noContext => w.request.isNone
  | .ended => w.request.isNone
  | .noRequestID => w.request.isNone
  | .notEncoded => w.request.isNone
  | .dialFailed _ => w.request.isNone
  | .deadlineFailed => w.request.isNone

/-- The call goes on or returns. -/
def next (w : World Digest) : UI Digest × Next → World Digest
  | (ui, .go pc) => { w with ui, pc, request := none }
  | (ui, .answer _) => { w with ui, pc := .idle, request := none }

end World

/-- The request that the UI is about to send -/
def outgoing : RecoveringCore.Pc → Option TerminalWriteRequest
  | .first req => some req
  | .second req _ => some req
  | .idle => none
  | .recovering _ _ => none

inductive Action where
  | tick (elapsed : Nat)
  | write (req : TerminalWriteRequest) (stamp : Nat)
  | send
  | conclude (ex : Exchange)
  | recovered (err : Option ClientErr)
  | forget (connectionID : Bytes)
  | arrive (n : Nat) (ctx : Option ContextError)
  | call (c : Nat) (a : CallAct (Option Err) ContextError)
  | answer (p : Nat) (err : Option Err)

/-- Where a request goes that Core takes up now -/
def placeOf (core : TerminalWriteIdempotency.State Digest) (ctx : Option ContextError)
    (req : TerminalWriteRequest) : Place :=
  match admission ctx req with
  | .keyed => .keyed core.flights.calls.length
  | .refused _ => .plain core.plain.length
  | .passed => .plain core.plain.length

/-- A step of Core. -/
def serve (svc : TerminalWriteIdempotency.Service) (digest : Bytes → Digest) (w : World Digest)
    (a : ServiceAct TerminalWriteRequest (Option Err) ContextError) : Option (World Digest) :=
  (TerminalWriteIdempotency.step svc digest w.core a).map fun core => { w with core }

def step (svc : TerminalWriteIdempotency.Service) (digest : Bytes → Digest) (w : World Digest) :
    Action → Option (World Digest)
  | .tick elapsed => serve svc digest w (.tick elapsed)
  | .write req stamp =>
    if w.pc = .idle then
      match prepareTerminalWriteRequest digest w.clock stamp w.ui req with
      | .error _ => some w
      | .ok (ui, prepared) => some { w with
          ui, pc := .first prepared, request := none, issued := w.issue prepared.operationID }
    else none
  | .send =>
    match w.request, outgoing w.pc with
    | none, some req => some { w with
        request := some w.sent.length, sent := w.sent ++ [⟨req, none⟩] }
    | _, _ => none
  | .conclude ex =>
    if w.possible ex then
      match w.pc with
      | .first req => some (w.next (afterFirst w.ui req ex.error))
      | .second req may => some (w.next (afterSecond w.ui req may ex.error))
      | _ => none
    else none
  | .recovered err =>
    match w.pc with
    | .recovering req failure => some (w.next (afterRecovery w.ui req failure err))
    | _ => none
  | .forget connectionID => some { w with ui := clearPendingTerminalWrite w.ui connectionID }
  | .arrive n ctx =>
    match w.sent[n]? with
    | some ⟨req, none⟩ =>
      serve svc digest { w with sent := w.sent.set n ⟨req, some (placeOf w.core ctx req)⟩ }
        (.enter ctx req)
    | _ => none
  | .call c a => serve svc digest w (.call c a)
  | .answer p err => serve svc digest w (.answer p err)

/-- The wrapped service was called at most once for each operation ID. -/
def AtMostOnce (w : World Digest) : Prop :=
  ∀ (k l : Nat) e f, w.core.flights.log[k]? = some e → w.core.flights.log[l]? = some f →
    e.req.operationID = f.req.operationID → k = l

/-- Core begins to handle a request less than the retention period after its operation ID was
issued. -/
def timely (svc : TerminalWriteIdempotency.Service) (w : World Digest) : Action → Bool
  | .call c .begin =>
    (w.core.flights.calls[c]?).all fun call =>
      (w.issuedAt call.req.operationID).any fun t => decide (w.clock < t + svc.retention)
  | _ => true

end Model

section Proofs

variable {Digest : Type} [DecidableEq Digest] {svc : TerminalWriteIdempotency.Service}
  {digest : Bytes → Digest} {w w' : World Digest}

/-- A step is one of Core, or leaves Core alone and at most issues an operation ID. -/
theorem step_cases {a : Action} (h : step svc digest w a = some w') :
    (w'.core = w.core ∧ (w'.issued = w.issued ∨ ∃ id, w'.issued = w.issue id)) ∨
      (w'.issued = w.issued ∧ ∃ b, Served.step (service svc digest) w.core b = some w'.core ∧
        ∀ c, b = .call c .begin → a = .call c .begin) := by
  have served : ∀ v b, serve svc digest v b = some w' → v.core = w.core → v.issued = w.issued →
      w'.issued = w.issued ∧ Served.step (service svc digest) w.core b = some w'.core := by
    intro v b h core issued
    obtain ⟨core', taken, rfl⟩ := map_eq_some_iff.mp h
    exact ⟨issued, core ▸ taken⟩
  have moved : ∀ x, w.next x = w' → w'.core = w.core ∧ w'.issued = w.issued := by
    rintro ⟨ui, next⟩ same
    cases next <;> cases same <;> exact ⟨rfl, rfl⟩
  cases a with
  | call =>
    obtain ⟨issued, taken⟩ := served w _ h rfl rfl
    refine .inr ⟨issued, _, taken, fun d same => ?_⟩
    cases same
    rfl
  | arrive =>
    simp only [step] at h
    split at h
    · obtain ⟨issued, taken⟩ := served _ _ h rfl rfl
      exact .inr ⟨issued, _, taken, nofun⟩
    · cases h
  | write =>
    obtain ⟨-, h⟩ := ite_none_right_eq_some.mp h
    split at h
    · cases h
      exact .inl ⟨rfl, .inl rfl⟩
    · cases h
      exact .inl ⟨rfl, .inr ⟨_, rfl⟩⟩
  | send =>
    simp only [step] at h
    split at h <;> cases h
    exact .inl ⟨rfl, .inl rfl⟩
  | conclude =>
    obtain ⟨-, h⟩ := ite_none_right_eq_some.mp h
    split at h
    · obtain ⟨core, issued⟩ := moved _ (Option.some.inj h)
      exact .inl ⟨core, .inl issued⟩
    · obtain ⟨core, issued⟩ := moved _ (Option.some.inj h)
      exact .inl ⟨core, .inl issued⟩
    · cases h
  | recovered =>
    simp only [step] at h
    split at h
    · obtain ⟨core, issued⟩ := moved _ (Option.some.inj h)
      exact .inl ⟨core, .inl issued⟩
    · cases h
  | forget =>
    cases h
    exact .inl ⟨rfl, .inl rfl⟩
  | _ =>
    obtain ⟨issued, taken⟩ := served w _ h rfl rfl
    exact .inr ⟨issued, _, taken, nofun⟩

/-- Every operation was recorded within the retention period of its ID. -/
structure Kept (svc : TerminalWriteIdempotency.Service) (digest : Bytes → Digest)
    (w : World Digest) : Prop where
  core : Sound (config svc digest) w.core.flights
  past : ∀ i ∈ w.issued, i.2 ≤ w.clock
  recent : ∀ (j : Nat) op, w.core.flights.table.ops[j]? = some op →
    ∃ t, w.issuedAt op.key = some t ∧ t ≤ op.allocatedAt ∧ op.allocatedAt < t + svc.retention

omit [DecidableEq Digest] in
theorem issuedAt_past (past : ∀ i ∈ w.issued, i.2 ≤ w.clock) {operationID : Bytes} {t : Int}
    (h : w.issuedAt operationID = some t) : t ≤ w.clock := by
  obtain ⟨i, found, rfl⟩ := map_eq_some_iff.mp h
  exact past i (List.mem_of_find?_eq_some found)

omit [DecidableEq Digest] in
/-- An issue time stays. -/
theorem issuedAt_issue {operationID id : Bytes} {t : Int} (h : w.issuedAt operationID = some t)
    (issued : w'.issued = w.issue id) : w'.issuedAt operationID = some t := by
  unfold World.issuedAt World.issue at *
  rw [issued]
  split
  · exact h
  · obtain ⟨i, found, rfl⟩ := map_eq_some_iff.mp h
    rw [find?_append, found]
    rfl

theorem Kept.step {a : Action} (kept : Kept svc digest w) (soon : timely svc w a = true)
    (h : step svc digest w a = some w') : Kept svc digest w' := by
  rcases step_cases h with ⟨core, issued⟩ | ⟨issued, b, taken, begins⟩
  · have clock : w'.clock = w.clock := by rw [World.clock, World.clock, core]
    refine ⟨core ▸ kept.core, ?_, ?_⟩
    · rw [clock]
      rcases issued with same | ⟨id, issued⟩
      · exact same ▸ kept.past
      intro i member
      rw [issued, World.issue] at member
      split at member
      · exact kept.past i member
      · rcases mem_append.mp member with old | new
        · exact kept.past i old
        · cases mem_singleton.mp new
          exact Int.le_refl _
    · intro j op found
      obtain ⟨t, at_t, after, before⟩ := kept.recent j op (core ▸ found)
      refine ⟨t, ?_, after, before⟩
      rcases issued with same | ⟨id, issued⟩
      · rw [World.issuedAt, same]
        exact at_t
      · exact issuedAt_issue at_t issued
  · have sound := Served.sound_of_step kept.core taken
    have later : w.clock ≤ w'.clock := by
      rcases Served.flights_of_step taken with same | ⟨b', flown, -⟩
      · exact Int.le_of_eq (congrArg SingleFlight.State.clock same.symm)
      · exact clock_of_step flown
    have at_key : ∀ key, w'.issuedAt key = w.issuedAt key := by
      intro key
      rw [World.issuedAt, World.issuedAt, issued]
    refine ⟨sound, ?_, ?_⟩
    · intro i member
      exact Int.le_trans (kept.past i (issued ▸ member)) later
    intro j op found
    rw [at_key]
    rcases Served.flights_of_step taken with same | ⟨b', flown, action⟩
    · exact kept.recent j op (same ▸ found)
    rcases op_origin flown found with ⟨old, at_j, key, time⟩ | ⟨c, call, rfl, caller, key, time⟩
    · obtain ⟨t, at_t, after, before⟩ := kept.recent j old at_j
      exact ⟨t, key ▸ at_t, time ▸ after, time ▸ before⟩
    -- a new operation: Core begins, and the condition says that it is not late
    cases begins c (action c .begin rfl)
    simp only [timely, caller, all_some] at soon
    obtain ⟨t, at_t, before⟩ := (Option.any_eq_true _ _).mp soon
    refine ⟨t, ?_, ?_, ?_⟩
    · rw [key]
      exact at_t
    · rw [time]
      exact issuedAt_past kept.past at_t
    · rw [time]
      exact of_decide_eq_true before

omit [DecidableEq Digest] in
theorem Kept.atMostOnce (kept : Kept svc digest w) : AtMostOnce w := by
  have apart : ∀ (i j : Nat) a b, i < j →
      w.core.flights.table.ops[i]? = some a → w.core.flights.table.ops[j]? = some b →
      a.key ≠ b.key := by
    intro i j a b before first second same
    obtain ⟨t, at_t, after, -⟩ := kept.recent i a first
    obtain ⟨t', at_t', -, soon⟩ := kept.recent j b second
    rw [same] at at_t
    cases at_t.symm.trans at_t'
    rcases kept.core.objects_apart before first second same with ⟨r, dropped, -⟩ | late
    · cases dropped
    · have late : a.allocatedAt + svc.retention ≤ b.allocatedAt := late
      omega
  intro k l e f first second same
  obtain ⟨a, at_a, key_a, -⟩ := kept.core.log.origin e (mem_of_getElem? first)
  obtain ⟨b, at_b, key_b, -⟩ := kept.core.log.origin f (mem_of_getElem? second)
  have keys : a.key = b.key := key_a.trans (same.trans key_b.symm)
  refine kept.core.log.once k l e f first second ?_
  rcases Nat.lt_trichotomy e.op f.op with before | equal | after
  · exact absurd keys (apart _ _ a b before at_a at_b)
  · exact equal
  · exact absurd keys.symm (apart _ _ b a after at_b at_a)

theorem kept_initial (svc : TerminalWriteIdempotency.Service) (digest : Bytes → Digest)
    (pid : Nat) (clock : Int) : Kept svc digest (World.initial pid clock : World Digest) where
  core := sound_initial clock
  past := by
    intro i member
    cases member
  recent := by
    intro j op found
    cases found

/-- In every run in which Core begins to handle each request less than the retention period
after its operation ID was issued, the wrapped service is called at most once per ID. -/
theorem timely_at_most_once (svc : TerminalWriteIdempotency.Service) (digest : Bytes → Digest)
    (pid : Nat) (clock : Int) (acts : List Action) (w : World Digest)
    (meets : Runs.Meets (step svc digest) (fun w a => timely svc w a = true)
      (World.initial pid clock) acts)
    (run : Runs.exec (step svc digest) (World.initial pid clock) acts = some w) : AtMostOnce w :=
  (Runs.exec_invariant (Kept svc digest) (fun _ _ _ kept soon h => kept.step soon h)
    (kept_initial svc digest pid clock) meets run).atMostOnce

end Proofs

section Sample

def typedLine : TerminalWriteRequest where
  connectionID := [99]
  operationID := []
  data := [108, 115, 13]

/-- The response of the first attempt is lost; the second is answered from the table. -/
def retriedRun : List Action :=
  [.write typedLine 1, .send, .arrive 0 none, .call 0 .begin, .call 0 .invoke,
    .call 0 (.answer none), .call 0 .complete, .conclude (.readFailed .transport),
    .recovered none, .send, .arrive 1 none, .call 1 .begin, .call 1 .wake, .call 1 .look,
    .conclude .succeeded]

theorem timely_at_most_once_retried : ∃ w : World Bytes,
    Runs.exec (step newTerminalWriteIdempotencyService id) (World.initial 7 0) retriedRun = some w ∧
    (w.pc = .idle ∧ w.sent.length = 2 ∧ w.core.flights.log.length = 1) ∧ AtMostOnce w := by
  have run : (Runs.exec (step newTerminalWriteIdempotencyService id) (World.initial 7 0)
      retriedRun).any (fun w : World Bytes => decide (w.pc = .idle ∧ w.sent.length = 2 ∧
        w.core.flights.log.length = 1)) = true := by
    decide +kernel
  obtain ⟨w, reached, seen⟩ := (Option.any_eq_true _ _).mp run
  have meets : Runs.Meets (step newTerminalWriteIdempotencyService (id : Bytes → Bytes))
      (fun w a => timely newTerminalWriteIdempotencyService w a = true) (World.initial 7 0)
      retriedRun := by
    decide +kernel
  exact ⟨w, reached, of_decide_eq_true seen,
    timely_at_most_once newTerminalWriteIdempotencyService id 7 0 retriedRun w meets reached⟩

/-- The first write is delivered, its response is lost and recovery fails. The same bytes are
written again a millisecond before the pending write expires, and the request takes that
millisecond to reach Core, which has forgotten the operation by then. -/
def lateRun : List Action :=
  [.write typedLine 1, .send, .arrive 0 none, .call 0 .begin, .call 0 .invoke,
    .call 0 (.answer none), .call 0 .complete, .conclude (.readFailed .transport),
    .recovered (some (unavailableError .dial)), .tick 299999000000, .write typedLine 2, .send,
    .tick 1000000, .arrive 1 none, .call 1 .begin, .call 1 .invoke, .call 1 (.answer none)]

/-- Two writes under one operation ID, both of which succeeded. -/
def writtenTwice (w : World Bytes) : Bool :=
  match w.core.flights.log with
  | [e, f] => e.req.operationID == f.req.operationID && e.ended.map Prod.fst == some none &&
      f.ended.map Prod.fst == some none
  | _ => false

theorem late_request_written_twice : ∃ w : World Bytes,
    Runs.exec (step newTerminalWriteIdempotencyService id) (World.initial 7 0) lateRun = some w ∧
    writtenTwice w = true ∧ ¬ AtMostOnce w := by
  have run : (Runs.exec (step newTerminalWriteIdempotencyService id) (World.initial 7 0)
      lateRun).any writtenTwice = true := by
    decide +kernel
  obtain ⟨w, reached, twice⟩ := (Option.any_eq_true _ _).mp run
  refine ⟨w, reached, twice, fun once => ?_⟩
  unfold writtenTwice at twice
  split at twice
  · rename_i e f log
    simp only [and_eq_true, beq_iff_eq] at twice
    have same := once 0 1 e f (by rw [log]; rfl) (by rw [log]; rfl) twice.1.1
    cases same
  · cases twice

end Sample

end TerminalInput
