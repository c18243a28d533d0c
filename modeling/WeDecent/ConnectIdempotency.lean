import WeDecent.CoreRequests
import WeDecent.Library.SingleFlight

/-!
# Idempotency of `connection.connect`

`coreapi/connect_idempotency.go`. The outcome of a leader whose context has ended is not
kept, so a waiting caller may lead after it, and another after that one.
-/

namespace ConnectIdempotency

open CoreRequests SingleFlight

structure ConnectRequest where
  deviceID : Bytes
  operationID : Bytes

def maxConnectOperationIDBytes : Nat := 64

def connectOperationReplayWindow : Int := 5 * nanosPerMinute

def defaultMaxConnectOperations : Nat := 4096

structure Service where
  retention : Int
  maxEntries : Nat

def newConnectIdempotencyService : Service :=
  ⟨connectOperationReplayWindow, defaultMaxConnectOperations⟩

def validConnectOperationID (value : Bytes) : Bool :=
  validOperationID maxConnectOperationIDBytes value

section Model

-- the wrapper hands connections on and never looks into them; `default` is `v1.Connection{}`
variable {Connection : Type}

/-- What `Connect` returns -/
abbrev Reply (Connection : Type) := Connection × Option Err

/-- Operations are recorded under their ID with the device. -/
def config (svc : Service) : Config Bytes Bytes ConnectRequest (Reply Connection) where
  key := ConnectRequest.operationID
  tag := ConnectRequest.deviceID
  retention := svc.retention
  maxEntries := svc.maxEntries
  keep := fun reply => !reply.2.any Err.isContext

abbrev Operations (Connection : Type) := Table Bytes Bytes (Reply Connection)

def pruneLocked (svc : Service) (now : Int) (operations : Operations Connection) :
    Operations Connection :=
  operations.prune svc.retention now

/-- The method `begin` of the service -/
def beginConnect (svc : Service) (now : Int) (operations : Operations Connection)
    (req : ConnectRequest) : Table.Begun × Operations Connection :=
  operations.start (config svc) now req

def complete (svc : Service) (now : Int) (operations : Operations Connection)
    (req : ConnectRequest) (op : Nat) (reply : Reply Connection) : Operations Connection :=
  operations.complete (config svc) now req op reply

variable [Inhabited Connection]

/-- The replies of the wrapper itself -/
def failed (err : Err) : Reply Connection := (default, some err)

/-- What `Connect` returns for each way a call with an operation ID can end -/
def returned : Outcome (Reply Connection) ContextError → Reply Connection
  | .result reply => reply
  | .mismatch => failed (.of .invalidConnectionRequest)
  | .full => failed (.of .connectionLimit)
  | .cancelled cause => failed cause.err

/-- The checks of `Connect` before its loop -/
def admission (ctx : Option ContextError) (req : ConnectRequest) : Admission (Reply Connection) :=
  match ctx with
  | some cause => .refused (failed cause.err)
  | none =>
    if req.operationID.isEmpty then .passed
    else if !validConnectOperationID req.operationID then
      .refused (failed (.of .invalidConnectionRequest))
    else .keyed

/-- `Connect` -/
def service (svc : Service) :
    SingleFlight.Service Bytes Bytes ConnectRequest (Reply Connection) ContextError :=
  ⟨config svc, admission⟩

abbrev State (Connection : Type) :=
  Served Bytes Bytes ConnectRequest (Reply Connection) ContextError

abbrev Action (Connection : Type) := ServiceAct ConnectRequest (Reply Connection) ContextError

def step (svc : Service) : State Connection → Action Connection → Option (State Connection) :=
  Served.step (service svc)

end Model

section Runs

variable {Connection : Type} [Inhabited Connection] {svc : Service} {s s' : State Connection}

/-- The first critical section of a call is `begin`. -/
theorem table_of_begin {c : Nat} {call : Call ConnectRequest (Reply Connection) ContextError}
    (caller : s.flights.calls[c]? = some call) (pc : call.pc = .beginning)
    (h : step svc s (.call c .begin) = some s') :
    s'.flights.table = (beginConnect svc s.flights.clock s.flights.table call.req).2 := by
  have served : Served.step (service svc) s (.call c .begin) = some s' := h
  have stored := Served.table_of_begin caller pc served
  exact stored

omit [Inhabited Connection] in
/-- A call that does not lead only prunes. -/
theorem begin_prunes {now : Int} {operations : Operations Connection} {req : ConnectRequest}
    (joins : ∀ op, (beginConnect svc now operations req).1 ≠ .lead op) :
    (beginConnect svc now operations req).2 = pruneLocked svc now operations :=
  Table.start_prunes joins

/-- The last critical section of a leader is `complete`. -/
theorem table_of_complete {c op : Nat} {reply : Reply Connection}
    {call : Call ConnectRequest (Reply Connection) ContextError}
    (caller : s.flights.calls[c]? = some call) (pc : call.pc = .returned op reply)
    (h : step svc s (.call c .complete) = some s') :
    s'.flights.table = complete svc s.flights.clock s.flights.table call.req op reply := by
  have served : Served.step (service svc) s (.call c .complete) = some s' := h
  have stored := Served.table_of_complete caller pc served
  exact stored

/-- The idempotency of the service, as a property of a state with its history. -/
structure Idempotent (svc : Service) (s : State Connection) : Prop where
  /-- One wrapped `Connect` per operation ID runs at a time. -/
  single : ∀ (k l : Nat) (e f : Execution ConnectRequest (Reply Connection)), k ≠ l →
    s.flights.log[k]? = some e → s.flights.log[l]? = some f →
    e.req.operationID = f.req.operationID → ¬ (e.ended = none ∧ f.ended = none)
  /-- Two of them succeed only if the retention period lies between them. -/
  apart : ∀ (k l : Nat) (e f : Execution ConnectRequest (Reply Connection))
    (first second : Connection) (completed completed' : Int), k < l →
    s.flights.log[k]? = some e → s.flights.log[l]? = some f →
    e.req.operationID = f.req.operationID → e.ended = some ((first, none), completed) →
    f.ended = some ((second, none), completed') → completed + svc.retention ≤ f.began
  /-- What runs is for the device that the operation ID is recorded for. -/
  agrees : ∀ e ∈ s.flights.log, e.ended = none →
    ∀ (i : Nat) (op : Op Bytes Bytes (Reply Connection)),
      (e.req.operationID, i) ∈ s.flights.table.records → s.flights.table.ops[i]? = some op →
      op.tag = e.req.deviceID
  /-- A caller gets the reply of a wrapped `Connect` for its own operation ID, or an error of
  the wrapper without a connection. -/
  sourced : ∀ (c : Nat) (call : Call ConnectRequest (Reply Connection) ContextError)
    (o : Outcome (Reply Connection) ContextError), s.flights.calls[c]? = some call →
    call.pc = .ended o →
    (∃ e ∈ s.flights.log, e.req.operationID = call.req.operationID ∧
      ∃ completed, e.ended = some (returned o, completed)) ∨
    returned o = failed (.of .invalidConnectionRequest) ∨
    returned o = failed (.of .connectionLimit) ∨
    ∃ cause : ContextError, returned o = failed cause.err

theorem connect_idempotent (svc : Service) (clock : Int) (s : State Connection)
    (reach : Runs.Reachable (step svc) (Served.initial clock) s) : Idempotent svc s := by
  have sound : Sound (config svc) s.flights := Served.sound_of_reachable reach
  have ended : ∀ (k l : Nat) (e f : Execution ConnectRequest (Reply Connection)), k < l →
      s.flights.log[k]? = some e → s.flights.log[l]? = some f →
      e.req.operationID = f.req.operationID → e.ended ≠ none := by
    intro k l e f before first second same running
    obtain ⟨reply, completed, past, -⟩ := sound.executions_apart before first second same
    cases running.symm.trans past
  refine ⟨?_, ?_, ?_, ?_⟩
  · rintro k l e f different first second same ⟨running, running'⟩
    rcases Nat.lt_or_gt_of_ne different with before | after
    · exact ended k l e f before first second same running
    · exact ended l k f e after second first same.symm running'
  · intro k l e f conn conn' completed completed' before first second same success _
    obtain ⟨reply, completed', past, apart⟩ := sound.executions_apart before first second same
    cases success.symm.trans past
    exact apart rfl
  · intro e member running i op listed found
    obtain ⟨own, current, at_own, device⟩ := sound.running_recorded member running
    cases current.symm.trans (Table.current_of_mem sound.table.keys listed)
    cases at_own.symm.trans found
    exact device
  · intro c call o caller past
    cases o with
    | result =>
      obtain ⟨e, member, same, -, completed, replied⟩ := sound.result_source caller past
      exact .inl ⟨e, member, same, completed, replied⟩
    | mismatch => exact .inr (.inl rfl)
    | full => exact .inr (.inr (.inl rfl))
    | cancelled cause => exact .inr (.inr (.inr ⟨cause, rfl⟩))

end Runs

section Sample

def sampleRequest : ConnectRequest where
  deviceID := [100]
  operationID := [111]

/-- The first leader is cancelled and the waiter leads after it; a third caller connects
again once the record has expired. -/
def sampleRun : List (Action Nat) :=
  [.enter none sampleRequest, .enter none sampleRequest, .call 0 .begin, .call 1 .begin,
    .call 0 .invoke, .call 0 (.answer (0, some (.of .canceled))), .call 0 .complete, .call 1 .wake,
    .call 1 .look, .call 1 .begin, .call 1 .invoke, .call 1 (.answer (1, none)),
    .call 1 .complete, .tick 300000000000, .enter none sampleRequest, .call 2 .begin,
    .call 2 .invoke, .call 2 (.answer (2, none)), .call 2 .complete]

theorem connect_idempotent_sample : ∃ s : State Nat,
    Runs.Reachable (step newConnectIdempotencyService) (Served.initial 0) s ∧
    s.flights.calls.map (·.pc) = [.ended (.result (0, some (.of .canceled))),
      .ended (.result (1, none)), .ended (.result (2, none))] ∧
    Idempotent newConnectIdempotencyService s := by
  have run : (Runs.exec (step newConnectIdempotencyService) (Served.initial 0) sampleRun).any
      (fun s : State Nat => decide (s.flights.calls.map (·.pc) =
        [.ended (.result (0, some (.of .canceled))), .ended (.result (1, none)),
          .ended (.result (2, none))])) = true := by
    decide +kernel
  obtain ⟨s, reached, seen⟩ := (Option.any_eq_true _ _).mp run
  have reach : Runs.Reachable (step newConnectIdempotencyService) (Served.initial 0) s :=
    ⟨sampleRun, reached⟩
  exact ⟨s, reach, of_decide_eq_true seen,
    connect_idempotent newConnectIdempotencyService 0 s reach⟩

end Sample

end ConnectIdempotency
