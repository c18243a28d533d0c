import WeDecent.CoreDownload

/-!
# Delivery of a download through the local Core

Once `Done` of the handle is closed without an error, `ReadFileDownload` hands out the queued
bytes in order and then the end, provided that the schedule is timely. Without that condition
`watchOperation` may remove the operation while bytes are queued, and the next call is told that
there is no such operation.
-/

namespace DownloadDelivery

open CoreRequests hiding Bytes
open FileTransferService hiding State Action step initial
open FileClient hiding step
open Bool List Option StreamProtocol MuxChild DownloadHandle CoreDownload

/-- A call has not failed, and what it has got is a part of the download or its end. -/
def Fruitful : RequestPc → Prop
  | .failed _ => False
  | .returned transfer _ => transfer = none
  | .dropping _ chunk => chunk.data ≠ [] ∨ chunk.done = true
  | .reporting _ chunk => chunk.data ≠ [] ∨ chunk.done = true
  | .delivered _ chunk => chunk.data ≠ [] ∨ chunk.done = true
  | _ => True

/-- What holds since `s₀`, in which `Done` was closed without an error -/
structure Since (op : Operation) (s₀ s : State) : Prop where
  settled : Settled s.client
  grown : s₀.threads.length ≤ s.threads.length
  order : ∃ later, s.served = s₀.served ++ later ∧
    pending s₀.client = later.flatMap (fun e => e.2.data) ++ pending s.client
  /-- Only a call from before still waits for more to come. -/
  parked : ∀ m, s.client.reader = .park m → ∃ i < s₀.threads.length, s.reader = some i
  fruitful : ∀ (i m : Nat) pc, s₀.threads.length ≤ i →
    s.threads[i]? = some (reading op m pc) → Fruitful pc

section Since

variable {cfg : Config} {op : Operation} {s₀ s s' : State}

theorem since_refl (sound : Sound op s) (settled : Settled s.client) : Since op s s := by
  refine ⟨settled, Nat.le_refl _, ⟨[], (append_nil _).symm, rfl⟩, ?_, ?_⟩
  · intro m parked
    cases held : s.reader with
    | none => exact nomatch parked.symm.trans (sound.link.free held)
    | some i =>
      obtain ⟨-, m', at_i, -⟩ := sound.link.holder i held
      obtain ⟨bound, -⟩ := List.getElem?_eq_some_iff.mp at_i
      exact ⟨i, bound, rfl⟩
  · intro i m pc fresh at_i
    obtain ⟨bound, -⟩ := List.getElem?_eq_some_iff.mp at_i
    omega

/-- A call outside the handle goes on with what it has got. -/
theorem fruitful_of_request {core : ConnectionService.Shared} {t : Table} {m : Nat}
    {connectionID operationID : ConnectionService.ID} {pc : RequestPc}
    {a : FileTransferService.Act} {o : Table × RequestPc} (fruitful : Fruitful pc)
    (outside : ∀ e, pc ≠ .waiting e)
    (moved : requestStep core t (.read m) connectionID operationID pc a = some o) :
    Fruitful o.2 := by
  unfold requestStep at moved
  split at moved
  · split at moved
    · cases moved
      exact rfl
    · cases moved
      exact trivial
  · split at moved
    · cases moved
      exact trivial
    · cases moved
      exact rfl
  · cases moved
    exact trivial
  · cases moved
    exact trivial
  · exact absurd rfl (outside _)
  · exact absurd rfl (outside _)
  · exact fruitful.elim
  · exact fruitful.elim
  · cases moved
    exact fruitful
  · cases moved
    exact fruitful
  · cases moved

/-- The calls go on, and the handle is left alone. -/
theorem since_of_threads {threads : List Thread} {table : Table} (since : Since op s₀ s)
    (grown : s.threads.length ≤ threads.length)
    (fruitful : ∀ (i m : Nat) pc, s₀.threads.length ≤ i →
      threads[i]? = some (reading op m pc) → Fruitful pc) :
    Since op s₀ { s with table := table, threads := threads } :=
  ⟨since.settled, Nat.le_trans since.grown grown, since.order, since.parked, fruitful⟩

theorem since_of_run {i : Nat} {a : FileTransferService.Act} (sound : Sound op s)
    (since : Since op s₀ s) (h : step cfg op s (.run i a) = some s') : Since op s₀ s' := by
  obtain ⟨x, at_i, h⟩ := bind_eq_some_iff.mp h
  obtain ⟨outside, h⟩ := ite_none_left_eq_some.mp h
  obtain ⟨o, moved, rfl⟩ := map_eq_some_iff.mp h
  -- the thread of `i` is the only one that has changed
  have others : ∀ {x' : Thread}, (∀ m pc, x' = reading op m pc → s₀.threads.length ≤ i →
      Fruitful pc) → Since op s₀ { s with
        table := o.table
        threads := s.threads.set i x' ++ [] } := by
    intro x' own
    rw [append_nil]
    refine since_of_threads since (Nat.le_of_eq length_set.symm) ?_
    intro k m pc fresh at_k
    rcases Cells.at_set at_k with ⟨rfl, same⟩ | ⟨-, old⟩
    · exact own m pc same.symm fresh
    · exact since.fruitful k m pc fresh old
  cases sound.desk.shape x (mem_of_getElem? at_i) with
  | watched => cases moved
  | watch =>
    cases a <;> try cases moved
    obtain ⟨-, moved⟩ := ite_none_right_eq_some.mp moved
    cases moved
    exact others nofun
  | reading m pc =>
    rw [reading, advance] at moved
    obtain ⟨r, taken, rfl⟩ := map_eq_some_iff.mp moved
    refine others fun m' pc' same fresh => ?_
    cases same
    refine fruitful_of_request (since.fruitful i m pc fresh at_i) ?_ taken
    rintro e rfl
    exact outside rfl

theorem since_of_call {i : Nat} (sound : Sound op s) (since : Since op s₀ s)
    (h : step cfg op s (.call i) = some s') : Since op s₀ s' := by
  obtain ⟨m, -, at_i, -, rfl⟩ := call_inv sound.desk h
  refine ⟨since.settled, Nat.le_trans since.grown (Nat.le_of_eq length_set.symm),
    since.order, since.parked, ?_⟩
  intro k m' pc fresh at_k
  rcases Cells.at_set at_k with ⟨-, same⟩ | ⟨-, old⟩
  · cases same
    exact trivial
  · exact since.fruitful k m' pc fresh old

theorem since_of_lock {j : Nat} (since : Since op s₀ s)
    (h : step cfg op s (.lock j) = some s') : Since op s₀ s' := by
  obtain ⟨i, m, -, -, free, -, rfl⟩ := lock_inv h
  obtain ⟨later, served, order⟩ := since.order
  refine ⟨since.settled, since.grown, ⟨later, served, ?_⟩, nofun, since.fruitful⟩
  rw [order, pending, free]
  rfl

theorem since_of_read {e : Event} (sound : Sound op s) (since : Since op s₀ s)
    (h : step cfg op s (.read e) = some s') : Since op s₀ s' := by
  obtain ⟨later, served, order⟩ := since.order
  cases read_inv sound h with
  | goes i m c out held at_i reads sized silent =>
    obtain ⟨moved, unparked, -⟩ := handed_of_read sound.steady since.settled reads
    have nothing : handed out = [] := by
      cases out with
      | read r => exact absurd rfl (silent r)
      | _ => rfl
    rw [nothing, nil_append] at moved
    exact ⟨settled_of_read since.settled reads, since.grown, ⟨later, served, moved ▸ order⟩,
      fun m' parked => absurd parked (unparked m'), since.fruitful⟩
  | returns i m c r pc held at_i reads free fits full goes =>
    obtain ⟨moved, unparked, well⟩ := handed_of_read sound.steady since.settled reads
    have given : (((carries pc).map (Prod.mk i)).toList).flatMap (fun e => e.2.data) =
        handed (.read r) := by
      rcases goes with ⟨failed, rfl⟩ | ⟨fine, rfl | rfl⟩
      · obtain ⟨out, last, err⟩ := r
        cases err with
        | none => cases failed
        | some => rfl
      · obtain ⟨out, last, err⟩ := r
        cases fine
        exact append_nil out
      · obtain ⟨out, last, err⟩ := r
        cases fine
        exact append_nil out
    refine ⟨settled_of_read since.settled reads,
      Nat.le_trans since.grown (Nat.le_of_eq length_set.symm),
      ⟨later ++ ((carries pc).map (Prod.mk i)).toList, ?_, ?_⟩,
      fun m' parked => absurd parked (unparked m'), ?_⟩
    · rw [← append_assoc, ← served]
    · rw [flatMap_append, given, append_assoc]
      exact moved ▸ order
    intro k m' pc' fresh at_k
    rcases Cells.at_set at_k with ⟨rfl, same⟩ | ⟨-, old⟩
    · cases same
      have new : ∀ m, s.client.reader ≠ .park m := by
        intro m parked
        obtain ⟨i, bound, held'⟩ := since.parked m parked
        cases held.symm.trans held'
        omega
      have fine := well new r rfl
      rcases goes with ⟨failed, -⟩ | ⟨-, rfl | rfl⟩
      · rw [fine] at failed
        cases failed
      · exact full fine
      · exact full fine
    · exact since.fruitful k m' pc' fresh old

theorem since_of_step {a : Action} (sound : Sound op s) (since : Since op s₀ s)
    (h : step cfg op s a = some s') : Since op s₀ s' := by
  have outside : (∃ m, a = .deliver m) ∨ (∃ e, a = .monitor e) → Since op s₀ s' := by
    intro outside
    obtain ⟨c, b, out, -, -, aside, rfl⟩ := aside_inv sound.plain outside h
    obtain ⟨later, served, order⟩ := since.order
    refine ⟨aside.settled since.settled, since.grown, ⟨later, served, ?_⟩, ?_, since.fruitful⟩
    · rw [order, State.observe, aside.pending since.settled.1]
    · simp only [State.observe, aside.reader]
      exact since.parked
  cases a with
  | start ctx maxBytes =>
    cases h
    obtain ⟨m, pc, same, -, entered⟩ := read_enters op ctx maxBytes
    rw [same]
    refine since_of_threads since (by rw [length_append]; exact Nat.le_add_right _ _) ?_
    intro k m' pc' fresh at_k
    rcases Cells.at_push at_k with old | ⟨-, new⟩
    · exact since.fruitful k m' pc' fresh old
    · cases new
      rcases entered with ⟨err, rfl⟩ | rfl
      · exact trivial
      · exact trivial
  | run => exact since_of_run sound since h
  | call => exact since_of_call sound since h
  | lock => exact since_of_lock since h
  | read => exact since_of_read sound since h
  | deliver m => exact outside (.inl ⟨m, rfl⟩)
  | monitor e => exact outside (.inr ⟨e, rfl⟩)

end Since

def running : Thread → Bool
  | .request _ _ _ (.refused _) => false
  | .request _ _ _ (.returned _ _) => false
  | .request _ _ _ (.delivered _ _) => false
  | .request _ _ _ _ => true
  | _ => false

/-- The step is one of a call. -/
def ofCall (s : State) : Action → Bool
  | .run i _ =>
    match s.threads[i]? with
    | some (.request _ _ _ _) => true
    | _ => false
  | .call _ => true
  | .lock _ => true
  | .read _ => true
  | _ => false

/-- How many steps a call still takes, those inside `Read` apart -/
def callSteps : Thread → Nat
  | .request _ _ _ .looking => 11
  | .request _ _ _ (.checking _) => 10
  | .request _ _ _ (.calling _) => 9
  | .request _ _ _ (.waiting _) => 3
  | .request _ _ _ (.dropping _ _) => 2
  | .request _ _ _ (.failed _) => 1
  | .request _ _ _ (.reporting _ _) => 1
  | _ => 0

/-- A bound on the steps that the calls still take after the end -/
def work (s : State) : Nat :=
  Weights.weight callSteps s.threads + 5 * s.waiting.length + stepsLeft s.client.reader

section Work

variable {cfg : Config} {op : Operation} {s s' : State}

theorem callSteps_of_request {m : Nat} {pc : RequestPc} {a : FileTransferService.Act}
    {t : Table} {o : Table × RequestPc} (fits : Fits op m pc)
    (outside : inHandle (reading op m pc) = false)
    (moved : requestStep op.core t (.read m) op.connectionID op.operationID pc a = some o) :
    callSteps (reading op m o.2) < callSteps (reading op m pc) := by
  unfold requestStep at moved
  split at moved
  · split at moved <;> cases moved <;> simp [reading, callSteps]
  · split at moved <;> cases moved <;> simp [reading, callSteps, Request.takes]
  · exact fits.elim
  · cases outside
  · cases outside
  · cases outside
  all_goals cases moved
  all_goals simp [reading, callSteps]

theorem work_decreases {a : Action} (sound : Sound op s) (settled : Settled s.client)
    (own : ofCall s a = true) (h : step cfg op s a = some s') : work s' < work s := by
  cases a with
  | run =>
    obtain ⟨x, at_i, h⟩ := bind_eq_some_iff.mp h
    obtain ⟨outside, h⟩ := ite_none_left_eq_some.mp h
    rw [not_eq_true] at outside
    obtain ⟨o, moved, rfl⟩ := map_eq_some_iff.mp h
    simp only [ofCall, at_i] at own
    cases sound.desk.shape x (mem_of_getElem? at_i) with
    | reading m pc fits =>
      rw [reading, advance] at moved
      obtain ⟨r, taken, rfl⟩ := map_eq_some_iff.mp moved
      have less := callSteps_of_request fits outside taken
      have total := Weights.weight_set callSteps (reading op m r.2) at_i
      simp only [work, append_nil]
      rw [reading] at total less
      omega
    | _ => cases own
  | call =>
    obtain ⟨m, -, at_i, -, rfl⟩ := call_inv sound.desk h
    have total := Weights.weight_set callSteps (reading op m (.waiting op.entry)) at_i
    simp only [reading, callSteps] at total
    simp only [work, State.observe, length_append, length_singleton]
    rw [reading]
    omega
  | lock =>
    obtain ⟨i, m, at_j, -, free, -, rfl⟩ := lock_inv h
    obtain ⟨bound, -⟩ := List.getElem?_eq_some_iff.mp at_j
    simp only [work, State.observe, length_eraseIdx_of_lt bound, free, stepsLeft]
    omega
  | read =>
    cases read_inv sound h with
    | goes i m c out held at_i reads =>
      have less := stepsLeft_of_read settled reads
      simp only [work, State.observe]
      omega
    | returns i m c r pc held at_i reads free fits full goes =>
      have less := stepsLeft_of_read settled reads
      have total := Weights.weight_set callSteps (reading op m pc) at_i
      have few : callSteps (reading op m pc) ≤ 2 := by
        rcases goes with ⟨-, rfl⟩ | ⟨-, rfl | rfl⟩ <;> simp [reading, callSteps]
      simp only [reading, callSteps] at total few
      simp only [work, State.observe]
      rw [reading]
      omega
  | _ => cases own

/-- A call outside the handle takes its next step. -/
theorem run_enabled {i m : Nat} {pc : RequestPc} {a : FileTransferService.Act}
    (at_i : s.threads[i]? = some (reading op m pc))
    (outside : inHandle (reading op m pc) = false) (ok : timely s (.run i a) = true)
    (moves : (requestStep op.core s.table (.read m) op.connectionID op.operationID pc a).isSome) :
    ∃ b, ofCall s b = true ∧ timely s b = true ∧ (step cfg op s b).isSome = true := by
  refine ⟨.run i a, ?_, ok, ?_⟩
  · simp [ofCall, at_i, reading]
  · simp only [step, at_i, bind_some, outside]
    rw [reading, advance]
    simpa using moves

/-- A call whose operation is still active enters `Read`. -/
theorem call_enabled {i m : Nat} (sound : Sound op s) (settled : Settled s.client)
    (size : 1 ≤ m ∧ m ≤ maxFileTransferChunkBytes)
    (at_i : s.threads[i]? = some (reading op m (.calling op.entry))) :
    (step cfg op s (.call i)).isSome = true := by
  have opened : s.client.opened .download .download = true :=
    sound.steady.opened settled.2 (.inr (.inr settled.1))
  simp only [step, at_i, reading, FileClient.step, opened, beginRead_within _ size, if_true]
  rfl

/-- The call that holds `readMu` goes on. -/
theorem read_moves {i : Nat} (sound : Sound op s) (settled : Settled s.client)
    (held : s.reader = some i) : ∃ e, (step cfg op s (.read e)).isSome = true := by
  obtain ⟨-, m, at_i, sized⟩ := sound.link.holder i held
  obtain ⟨e, c, out, moved⟩ := read_enabled sound.plain sound.steady settled sized
  have taken : FileClient.step .download s.client (.read e) = some (c, out) := moved
  refine ⟨e, ?_⟩
  simp only [step, held, taken, bind_some]
  obtain ⟨-, size⟩ := (sound.desk.shape _ (mem_of_getElem? at_i)).fits
  rcases sized_of_read sound.steady size.1 (readStep_reads moved) sized with
    ⟨-, silent⟩ | ⟨-, r, rfl, within, -⟩
  · cases out with
    | read r => exact absurd rfl (silent r)
    | _ => rfl
  · obtain ⟨pc, answer, -⟩ := answered op (s.observe op c).table size.2 within
    have there : (s.observe op c).threads[i]? =
        some (.request (.read m) op.connectionID op.operationID (.waiting op.entry)) := at_i
    simp [State.respond, there, answer]

/-- While a call is running, some call can go on. -/
theorem call_moves (sound : Sound op s) (settled : Settled s.client)
    (unfinished : ∃ x ∈ s.threads, running x = true) :
    ∃ a, ofCall s a = true ∧ timely s a = true ∧ (step cfg op s a).isSome = true := by
  obtain ⟨x, member, unfinished⟩ := unfinished
  obtain ⟨i, at_i⟩ := mem_iff_getElem?.mp member
  cases sound.desk.shape x member with
  | reading m pc fits =>
    cases pc with
    | refused => cases unfinished
    | returned => cases unfinished
    | delivered => cases unfinished
    | removing => exact fits.elim
    | looking =>
      by_cases busy : s.threads.any reporting = true
      · -- the call that is about to report goes first
        obtain ⟨y, member', about⟩ := List.any_eq_true.mp busy
        obtain ⟨k, at_k⟩ := mem_iff_getElem?.mp member'
        cases sound.desk.shape y member' with
        | reading m' pc' =>
          cases pc' with
          | reporting =>
            exact run_enabled (a := .go) at_k rfl (by simp only [timely, at_k, reading]) rfl
          | _ => cases about
        | _ => cases about
      · refine run_enabled (a := .go) at_i rfl ?_ ?_
        · rw [not_eq_true] at busy
          simp [timely, at_i, reading, busy]
        · simp only [requestStep]
          split <;> rfl
    | checking =>
      refine run_enabled (a := .go) at_i rfl (by simp only [timely, at_i, reading]) ?_
      simp only [requestStep]
      split <;> rfl
    | calling =>
      obtain ⟨rfl, size⟩ := fits
      exact ⟨.call i, rfl, rfl, call_enabled sound settled size at_i⟩
    | waiting e =>
      obtain ⟨rfl, -⟩ := fits
      cases held : s.reader with
      | some =>
        obtain ⟨e, moves⟩ := read_moves sound settled held
        exact ⟨.read e, rfl, rfl, moves⟩
      | none =>
        rcases sound.link.placed i m at_i with waits | holds
        · obtain ⟨j, at_j⟩ := mem_iff_getElem?.mp waits
          obtain ⟨m', -, size⟩ := sound.link.waits j i at_j
          refine ⟨.lock j, rfl, rfl, ?_⟩
          simp only [step, at_j, bind_some, FileClient.step, lockRead, size, sound.link.free held]
          rfl
        · cases held.symm.trans holds
    | failed =>
      exact run_enabled (a := .ctx none) at_i rfl (by simp only [timely, at_i, reading]) rfl
    | _ =>
      exact run_enabled (a := .go) at_i rfl (by simp only [timely, at_i, reading]) rfl
  | _ => cases unfinished

end Work

/-- What the calls have got in `s`, and what they still will, when `Done` was closed without an
error in `s₀` -/
structure Delivers (cfg : Config) (op : Operation) (s₀ s : State) : Prop where
  /-- The bytes that were left in `s₀` go to the calls in order and without a gap. -/
  order : ∃ later, s.served = s₀.served ++ later ∧
    pending s₀.client = later.flatMap (fun e => e.2.data) ++ pending s.client
  /-- Each call carries to its caller what it has got. -/
  carried : ∀ (i : Nat) chunk, (i, chunk) ∈ s.served ↔ ∃ m pc,
    s.threads[i]? = some (reading op m pc) ∧ carries pc = some chunk
  last : ∀ x ∈ s.threads, reported x = true → pending s.client = []
  found : ∀ x ∈ s.threads, missed x = true → ∃ y ∈ s.threads, reported y = true
  /-- Each call since `s₀` gets bytes or the end, or comes after the end. -/
  fruitful : ∀ (i m : Nat) pc, s₀.threads.length ≤ i →
    s.threads[i]? = some (reading op m pc) → Fruitful pc
  moves : (∃ x ∈ s.threads, running x = true) →
    ∃ a, ofCall s a = true ∧ timely s a = true ∧ (step cfg op s a).isSome = true
  bounded : ∀ a s', ofCall s a = true → step cfg op s a = some s' → work s' < work s

theorem download_delivered {cfg : Config} {op : Operation} {table : Table} {parent : Nat}
    {before after : List Action} {s₀ s : State} (active : op.Active)
    (present : table.ops.get op.operationID = some op.entry)
    (conforms : Runs.Meets (step cfg op) (timely · · = true) (initial op table parent)
      (before ++ after))
    (reached : Runs.exec (step cfg op) (initial op table parent) before = some s₀)
    (settled : Settled s₀.client) (followed : Runs.exec (step cfg op) s₀ after = some s) :
    Delivers cfg op s₀ s := by
  obtain ⟨timely_before, timely_after⟩ := Runs.meets_append reached conforms
  have sound₀ := sound_of_timely active present timely_before reached
  have both : Sound op s ∧ Since op s₀ s :=
    Runs.exec_invariant (fun s => Sound op s ∧ Since op s₀ s) (fun _ _ _ inv ok stepped =>
        ⟨sound_of_step active inv.1 ok stepped, since_of_step inv.1 inv.2 stepped⟩)
      ⟨sound₀, since_refl sound₀ settled⟩ timely_after followed
  obtain ⟨sound, since⟩ := both
  refine ⟨since.order, ?_, ?_, sound.desk.missed, since.fruitful,
    call_moves sound since.settled, fun _ _ => work_decreases sound since.settled⟩
  · intro i chunk
    constructor
    · exact sound.link.given i chunk
    · rintro ⟨m, pc, at_i, carried⟩
      exact sound.link.carried i m pc chunk at_i carried
  · intro x member told
    obtain ⟨i, at_i⟩ := mem_iff_getElem?.mp member
    cases sound.desk.shape x member with
    | reading m pc =>
      cases pc with
      | delivered transfer chunk =>
        obtain ⟨drained, empty⟩ :=
          sound.link.final _ (sound.link.carried i m _ chunk at_i rfl) told
        rw [pending, empty, drained.2]
        rfl
      | _ => cases told
    | _ => cases told

section Sample

def openedState : FileTransferService.State :=
  (Runs.exec (FileTransferService.step ConnectionService.oneConnection oneTransfer)
    FileTransferService.initial (openRun .download)).getD FileTransferService.initial

def openedDownload : Operation := ⟨openedState.core.shared, [98], sampleOperation, 0, 0⟩

def openedInitial : State := initial openedDownload openedState.table 0

/-- One byte and the completion arrive, and the acknowledgement is written. -/
def arrivedRun : List Action :=
  [.deliver (.streamAccepted (some 1)), .deliver (.streamData [7]),
    .deliver (.streamClose (some .downloadComplete)), .monitor .run, .monitor .wrote]

/-- A call reads the byte and the end, the watcher follows, and a later call finds nothing. -/
def readRun : List Action :=
  [.start none 0, .run 1 .go, .run 1 .go, .call 1, .lock 0, .read .run, .read .run, .read .run,
    .read .run, .run 1 .go, .run 1 .go, .run 0 .go, .start none 0, .run 2 .go]

theorem download_delivered_byte : ∃ s₀ s : State,
    Runs.exec (step oneTransfer openedDownload) openedInitial arrivedRun = some s₀ ∧
      pending s₀.client = [7] ∧
      Runs.exec (step oneTransfer openedDownload) s₀ readRun = some s ∧
      s.served = [(1, ⟨[7], true⟩)] ∧ s.threads.map missed = [false, false, true] ∧
      Delivers oneTransfer openedDownload s₀ s := by
  have arrived : (Runs.exec (step oneTransfer openedDownload) openedInitial arrivedRun).any
      (fun s₀ => s₀.client.child.done && decide (s₀.client.terminalErr = none) &&
        decide (pending s₀.client = [7])) = true := by decide +kernel
  have meets : Runs.Meets (step oneTransfer openedDownload) (timely · · = true) openedInitial
      (arrivedRun ++ readRun) := by decide +kernel
  have run : (Runs.exec (step oneTransfer openedDownload) openedInitial
      (arrivedRun ++ readRun)).any (fun s => decide (s.served = [(1, ⟨[7], true⟩)]) &&
        decide (s.threads.map missed = [false, false, true])) = true := by decide +kernel
  obtain ⟨s, whole, met⟩ := (Option.any_eq_true _ _).mp run
  obtain ⟨s₀, reached, followed⟩ := Runs.exec_append.mp whole
  rw [reached, any_some, and_eq_true, and_eq_true, decide_eq_true_eq, decide_eq_true_eq] at arrived
  rw [and_eq_true, decide_eq_true_eq, decide_eq_true_eq] at met
  have active : connectionTokenCurrent openedDownload.core openedDownload.connectionID
      openedDownload.entry.token = true := by decide +kernel
  exact ⟨s₀, s, reached, arrived.2, followed, met.1, met.2,
    download_delivered active (by decide +kernel) meets reached arrived.1 followed⟩

/-- The watcher is first, and the call finds nothing. -/
def watchedRun : List Action :=
  [.run 0 .go, .start none 0, .run 1 .go]

theorem queued_byte_lost : ∃ s₀ s : State,
    Runs.exec (step oneTransfer openedDownload) openedInitial arrivedRun = some s₀ ∧
      Settled s₀.client ∧ pending s₀.client = [7] ∧
      Runs.exec (step oneTransfer openedDownload) s₀ watchedRun = some s ∧
      s.served = [] ∧ s.threads.map missed = [false, true] ∧ s.threads.any reported = false := by
  have arrived : (Runs.exec (step oneTransfer openedDownload) openedInitial arrivedRun).any
      (fun s₀ => s₀.client.child.done && decide (s₀.client.terminalErr = none) &&
        decide (pending s₀.client = [7])) = true := by decide +kernel
  have run : (Runs.exec (step oneTransfer openedDownload) openedInitial
      (arrivedRun ++ watchedRun)).any (fun s => decide (s.served = []) &&
        decide (s.threads.map missed = [false, true]) &&
        decide (s.threads.any reported = false)) = true := by decide +kernel
  obtain ⟨s, whole, met⟩ := (Option.any_eq_true _ _).mp run
  obtain ⟨s₀, reached, followed⟩ := Runs.exec_append.mp whole
  rw [reached, any_some, and_eq_true, and_eq_true, decide_eq_true_eq, decide_eq_true_eq] at arrived
  simp only [and_eq_true, decide_eq_true_eq] at met
  exact ⟨s₀, s, reached, arrived.1, arrived.2, followed, met.1.1, met.1.2, met.2⟩

end Sample

end DownloadDelivery
