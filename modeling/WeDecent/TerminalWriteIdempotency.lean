import WeDecent.CoreRequests
import WeDecent.Library.SingleFlight

/-!
# Idempotency of `terminal.write`

`coreapi/terminal_write_idempotency.go`. The wrapped terminal service is the environment:
it takes any time and returns any error. What a call does under the lock is one step.
-/

namespace TerminalWriteIdempotency

open CoreRequests SingleFlight

structure TerminalWriteRequest where
  connectionID : Bytes
  operationID : Bytes
  data : Bytes
deriving DecidableEq

def maxTerminalChunkBytes : Nat := 32 * 1024

def maxTerminalWriteOperationIDBytes : Nat := 64

def terminalWriteReplayWindow : Int := 5 * nanosPerMinute

def defaultMaxTerminalWriteOperations : Nat := 16384

structure Service where
  retention : Int
  maxEntries : Nat

def newTerminalWriteIdempotencyService : Service :=
  ⟨terminalWriteReplayWindow, defaultMaxTerminalWriteOperations⟩

def validTerminalWriteOperationID (value : Bytes) : Bool :=
  validOperationID maxTerminalWriteOperationIDBytes value

section Model

variable {Digest : Type} [DecidableEq Digest]

/-- Operations are recorded under their ID with the connection and the digest of the data.
Every outcome is kept, those of cancelled writes as well. -/
def config (svc : Service) (digest : Bytes → Digest) :
    Config Bytes (Bytes × Digest) TerminalWriteRequest (Option Err) where
  key := TerminalWriteRequest.operationID
  tag := fun req => (req.connectionID, digest req.data)
  retention := svc.retention
  maxEntries := svc.maxEntries
  keep := fun _ => true

abbrev Operations (Digest : Type) := Table Bytes (Bytes × Digest) (Option Err)

def pruneTerminalWritesLocked (svc : Service) (now : Int) (operations : Operations Digest) :
    Operations Digest :=
  operations.prune svc.retention now

def beginTerminalWrite (svc : Service) (digest : Bytes → Digest) (now : Int)
    (operations : Operations Digest) (req : TerminalWriteRequest) :
    Table.Begun × Operations Digest :=
  operations.start (config svc digest) now req

def completeTerminalWrite (svc : Service) (digest : Bytes → Digest) (now : Int)
    (operations : Operations Digest) (req : TerminalWriteRequest) (op : Nat) (err : Option Err) :
    Operations Digest :=
  operations.complete (config svc digest) now req op err

/-- What `WriteTerminal` returns for each way a call with an operation ID can end -/
def returned : Outcome (Option Err) ContextError → Option Err
  | .result err => err
  | .mismatch => some (.of .invalidTerminalRequest)
  | .full => some (.of .terminalUnavailable)
  | .cancelled cause => some cause.err

/-- The checks of `WriteTerminal` before its loop; `ctx` is the error of the caller's context. -/
def admission (ctx : Option ContextError) (req : TerminalWriteRequest) : Admission (Option Err) :=
  match ctx with
  | some cause => .refused (some cause.err)
  | none =>
    if req.operationID.isEmpty then .passed
    else if !validConnectionID req.connectionID || req.data.length < 1 ||
        maxTerminalChunkBytes < req.data.length ||
        !validTerminalWriteOperationID req.operationID then
      .refused (some (.of .invalidTerminalRequest))
    else .keyed

/-- `WriteTerminal` -/
def service (svc : Service) (digest : Bytes → Digest) :
    SingleFlight.Service Bytes (Bytes × Digest) TerminalWriteRequest (Option Err) ContextError :=
  ⟨config svc digest, admission⟩

abbrev State (Digest : Type) :=
  Served Bytes (Bytes × Digest) TerminalWriteRequest (Option Err) ContextError

def step (svc : Service) (digest : Bytes → Digest) :
    State Digest → ServiceAct TerminalWriteRequest (Option Err) ContextError →
      Option (State Digest) :=
  Served.step (service svc digest)

end Model

section Runs

variable {Digest : Type} [DecidableEq Digest] {svc : Service} {digest : Bytes → Digest}
  {s s' : State Digest}

/-- The first critical section of a call is `beginTerminalWrite`. -/
theorem table_of_begin {c : Nat} {call : Call TerminalWriteRequest (Option Err) ContextError}
    (caller : s.flights.calls[c]? = some call) (pc : call.pc = .beginning)
    (h : step svc digest s (.call c .begin) = some s') :
    s'.flights.table =
      (beginTerminalWrite svc digest s.flights.clock s.flights.table call.req).2 := by
  have served : Served.step (service svc digest) s (.call c .begin) = some s' := h
  have stored := Served.table_of_begin caller pc served
  exact stored

/-- A call that does not lead only prunes. -/
theorem begin_prunes {now : Int} {operations : Operations Digest} {req : TerminalWriteRequest}
    (joins : ∀ op, (beginTerminalWrite svc digest now operations req).1 ≠ .lead op) :
    (beginTerminalWrite svc digest now operations req).2 =
      pruneTerminalWritesLocked svc now operations :=
  Table.start_prunes joins

/-- The last critical section of a leader is `completeTerminalWrite`. -/
theorem table_of_complete {c op : Nat} {err : Option Err}
    {call : Call TerminalWriteRequest (Option Err) ContextError}
    (caller : s.flights.calls[c]? = some call) (pc : call.pc = .returned op err)
    (h : step svc digest s (.call c .complete) = some s') :
    s'.flights.table =
      completeTerminalWrite svc digest s.flights.clock s.flights.table call.req op err := by
  have served : Served.step (service svc digest) s (.call c .complete) = some s' := h
  have stored := Served.table_of_complete caller pc served
  exact stored

/-- The idempotency of the service, as a property of a state with its history. -/
structure Idempotent (svc : Service) (digest : Bytes → Digest) (s : State Digest) : Prop where
  /-- The wrapped service is called again for an ID only after the retention period. -/
  apart : ∀ (k l : Nat) (e f : Execution TerminalWriteRequest (Option Err)), k < l →
    s.flights.log[k]? = some e → s.flights.log[l]? = some f →
    e.req.operationID = f.req.operationID →
    ∃ err completed, e.ended = some (err, completed) ∧ completed + svc.retention ≤ f.began
  /-- What runs agrees with every live record of its ID. -/
  agrees : ∀ e ∈ s.flights.log, e.ended = none →
    ∀ (i : Nat) (op : Op Bytes (Bytes × Digest) (Option Err)),
      (e.req.operationID, i) ∈ s.flights.table.records → s.flights.table.ops[i]? = some op →
      op.tag = (e.req.connectionID, digest e.req.data)
  /-- A caller that waited on an execution returns its result or the error of its own
  context, unless the record had expired when it looked. -/
  shared : ∀ (c : Nat) (call : Call TerminalWriteRequest (Option Err) ContextError)
    (o : Outcome (Option Err) ContextError), s.flights.calls[c]? = some call →
    call.pc = .ended o → ∀ e ∈ s.flights.log, e.op ∈ call.waited →
    (∃ err completed, e.ended = some (err, completed) ∧ o = .result err) ∨
      (∃ cause, o = .cancelled cause) ∨
      ∃ looked, (e.op, looked) ∈ call.missed ∧
        ∃ (op : Op Bytes (Bytes × Digest) (Option Err)) (err : Option Err) (completedAt : Int),
          s.flights.table.ops[e.op]? = some op ∧ op.status = .kept err completedAt ∧
          svc.retention ≤ looked - completedAt
  bounded : s.flights.table.records.length ≤ svc.maxEntries
  /-- Every operation that is unfinished or has not expired is in the map. -/
  held : ∀ (i : Nat) (op : Op Bytes (Bytes × Digest) (Option Err)),
    s.flights.table.ops[i]? = some op →
    (op.status = .pending ∨ ∃ err completedAt, op.status = .kept err completedAt ∧
      s.flights.clock - completedAt < svc.retention) →
    (op.key, i) ∈ s.flights.table.records

omit [DecidableEq Digest] in
/-- Every outcome is kept, so no record is dropped. -/
theorem expired_of_retired {now : Int} {i : Nat} {op : Op Bytes (Bytes × Digest) (Option Err)}
    (sound : Sound (config svc digest) s.flights) (found : s.flights.table.ops[i]? = some op)
    (retired : op.status.Retired svc.retention now) :
    ∃ err completedAt, op.status = .kept err completedAt ∧ svc.retention ≤ now - completedAt := by
  rcases retired with ⟨err, dropped⟩ | expired
  · cases sound.table.dropped i op err found dropped
  cases status : op.status with
  | kept err completedAt =>
    rw [status] at expired
    exact ⟨err, completedAt, rfl, expired⟩
  | _ =>
    rw [status] at expired
    exact expired.elim

theorem terminal_write_idempotent (svc : Service) (digest : Bytes → Digest) (clock : Int)
    (s : State Digest) (reach : Runs.Reachable (step svc digest) (Served.initial clock) s) :
    Idempotent svc digest s := by
  have sound : Sound (config svc digest) s.flights := Served.sound_of_reachable reach
  refine ⟨?_, ?_, ?_, sound.table.bounded, ?_⟩
  · intro k l e f before first second same
    obtain ⟨err, completed, ended, apart⟩ := sound.executions_apart before first second same
    exact ⟨err, completed, ended, apart rfl⟩
  · intro e member running i op listed found
    obtain ⟨own, current, at_own, tag⟩ := sound.running_recorded member running
    cases current.symm.trans (Table.current_of_mem sound.table.keys listed)
    cases at_own.symm.trans found
    exact tag
  · intro c call o caller past e member waited
    rcases sound.waiter_outcome caller past waited with
      ⟨f, listed, same, err, completed, ended, rfl⟩ | gaveUp | ⟨looked, missed, op, found, retired⟩
    · cases sound.entry_of_op member listed same.symm
      exact .inl ⟨err, completed, ended, rfl⟩
    · exact .inr (.inl gaveUp)
    · obtain ⟨err, completedAt, kept, expired⟩ := expired_of_retired sound found retired
      exact .inr (.inr ⟨looked, missed, op, err, completedAt, found, kept, expired⟩)
  · intro i op found live
    refine (sound.table.held i op found).resolve_right fun retired => ?_
    obtain ⟨err, completedAt, kept, expired⟩ := expired_of_retired sound found retired
    rcases live with pending | ⟨err', completedAt', kept', unexpired⟩
    · cases pending.symm.trans kept
    · cases kept.symm.trans kept'
      omega

end Runs

section Sample

def sampleRequest : TerminalWriteRequest where
  connectionID := [99]
  operationID := [119]
  data := [108, 115, 13]

/-- The second caller waits for the first and the third comes after the record expired. -/
def sampleRun : List (ServiceAct TerminalWriteRequest (Option Err) ContextError) :=
  [.enter none sampleRequest, .enter none sampleRequest, .call 0 .begin,
    .call 1 .begin, .call 0 .invoke, .call 0 (.answer none), .call 0 .complete, .call 1 .wake,
    .call 1 .look, .tick 300000000000, .enter none sampleRequest, .call 2 .begin,
    .call 2 .invoke]

theorem terminal_write_idempotent_sample : ∃ s : State Bytes,
    Runs.Reachable (step newTerminalWriteIdempotencyService id) (Served.initial 0) s ∧
    (s.flights.log.length = 2 ∧ (s.flights.calls.map (·.waited)) = [[], [0], []]) ∧
    Idempotent newTerminalWriteIdempotencyService id s := by
  have run : (Runs.exec (step newTerminalWriteIdempotencyService id) (Served.initial 0)
      sampleRun).any (fun s : State Bytes => decide (s.flights.log.length = 2 ∧
        (s.flights.calls.map (·.waited)) = [[], [0], []])) = true := by
    decide +kernel
  obtain ⟨s, reached, seen⟩ := (Option.any_eq_true _ _).mp run
  have reach : Runs.Reachable (step newTerminalWriteIdempotencyService id) (Served.initial 0) s :=
    ⟨sampleRun, reached⟩
  exact ⟨s, reach, of_decide_eq_true seen,
    terminal_write_idempotent newTerminalWriteIdempotencyService id 0 s reach⟩

end Sample

end TerminalWriteIdempotency
