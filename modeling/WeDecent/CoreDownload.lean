import WeDecent.DownloadHandle
import WeDecent.FileTransferService
import WeDecent.Library.Cells

/-!
# A download read through the local Core

The table of `FileTransferService` and the download handle behind one of its operations, read
by any number of `ReadFileDownload` calls on a connection that stays active. `watchOperation`
removes the operation when `Done` of the handle is closed. A schedule is timely when it waits
with that until a call has reported the end, and when no call looks for the operation between
its removal by another call and the report of that call.
-/

namespace CoreDownload

open Bool List Option

open CoreRequests hiding Bytes
open FileTransferService StreamProtocol MuxChild FileClient DownloadResult DownloadHandle
open ConnectionService (ID)

/-- The operation of the download, and the connection service as the calls find it -/
structure Operation where
  core : ConnectionService.Shared
  connectionID : ID
  operationID : ID
  token : Nat
  transfer : Nat

def Operation.entry (op : Operation) : Entry :=
  ⟨op.connectionID, op.token, .download, op.transfer⟩

/-- The connection of the operation is active. -/
def Operation.Active (op : Operation) : Prop :=
  connectionTokenCurrent op.core op.connectionID op.entry.token = true

/-- `waiting` are the calls that wait for `readMu`, `reader` the one that holds it, and `served`
the calls with what `Read` gave them, oldest first. -/
structure State where
  table : Table
  threads : List Thread
  waiting : List Nat
  reader : Option Nat
  client : Client
  served : List (Nat × Chunk)

inductive Action where
  | start (ctx : Option ContextError) (maxBytes : Int)
  /-- A step outside the handle -/
  | run (i : Nat) (a : FileTransferService.Act)
  | call (i : Nat)
  | lock (j : Nat)
  | read (e : Event)
  | deliver (m : Message)
  | monitor (e : Event)

/-- The calls that are inside the handle, or about to be -/
def inHandle : Thread → Bool
  | .request (.read _) _ _ (.calling _) => true
  | .request (.read _) _ _ (.waiting _) => true
  | _ => false

/-- The handle has taken a step; its `Done` is the channel that the watcher waits for. -/
def State.observe (op : Operation) (s : State) (c : Client) : State :=
  { s with
    client := c
    table := if c.child.done then s.table.finish op.transfer else s.table }

/-- `Read` returns to the call. -/
def State.respond (op : Operation) (s : State) (i : Nat) (r : ReadResult) : Option State :=
  match s.threads[i]? with
  | some (.request q connectionID operationID pc) =>
    let answer := if r.err.isSome then none else some (r.out, r.done)
    (requestStep op.core s.table q connectionID operationID pc (.chunk answer)).map fun o =>
      { s with
        table := o.1
        threads := s.threads.set i (.request q connectionID operationID o.2)
        reader := none
        served := s.served ++ (answer.map fun a => (i, ⟨a.1, a.2⟩)).toList }
  | _ => none

def step (cfg : Config) (op : Operation) (s : State) : Action → Option State
  | .start ctx maxBytes =>
    some { s with threads := s.threads ++
      [readFileDownload ctx op.connectionID op.operationID maxBytes] }
  | .run i a =>
    (s.threads[i]?).bind fun x =>
      if inHandle x then none
      else (advance cfg op.core s.table x a).map fun o =>
        { s with table := o.table, threads := s.threads.set i o.thread ++ o.spawned }
  | .call i =>
    match s.threads[i]? with
    | some (.request (.read m) connectionID operationID (.calling e)) =>
      let t := Thread.request (.read m) connectionID operationID (.waiting e)
      (FileClient.step .download s.client (.beginRead m)).bind fun r =>
        match r.2 with
        | .read result =>
          ({ s with threads := s.threads.set i t }.observe op r.1).respond op i result
        | _ => some ({ s with
            threads := s.threads.set i t
            waiting := s.waiting ++ [i] }.observe op r.1)
    | _ => none
  | .lock j =>
    (s.waiting[j]?).bind fun i =>
      (FileClient.step .download s.client (.lockRead j)).map fun r =>
        { s with waiting := s.waiting.eraseIdx j, reader := some i }.observe op r.1
  | .read e =>
    (s.reader).bind fun i => (FileClient.step .download s.client (.read e)).bind fun r =>
      match r.2 with
      | .read result => (s.observe op r.1).respond op i result
      | _ => some (s.observe op r.1)
  | .deliver m =>
    (FileClient.step .download s.client (.deliver m)).map fun r => s.observe op r.1
  | .monitor e =>
    (FileClient.step .download s.client (.monitor e)).map fun r => s.observe op r.1

/-- `OpenFileDownload` has returned the operation, and nothing has come for it yet. -/
def initial (op : Operation) (table : Table) (parent : Nat) : State where
  table := table
  threads := [.watch op.operationID op.token op.transfer parent]
  waiting := []
  reader := none
  client := .new
  served := []

/-- A call has told its caller that the download is at its end. -/
def reported : Thread → Bool
  | .request _ _ _ (.delivered _ chunk) => chunk.done
  | _ => false

/-- A call has removed the operation and is about to report the end. -/
def reporting : Thread → Bool
  | .request _ _ _ (.reporting _ _) => true
  | _ => false

/-- The watcher removes the operation only after a call has reported the end, and no call looks
for the operation while another that has removed it is about to report. -/
def timely (s : State) : Action → Bool
  | .run i _ =>
    match s.threads[i]? with
    | some (.watch _ _ _ _) => s.threads.any reported
    | some (.request _ _ _ .looking) => !s.threads.any reporting
    | _ => true
  | _ => true

/-- A call of `ReadFileDownload` for the operation -/
def reading (op : Operation) (m : Nat) (pc : RequestPc) : Thread :=
  .request (.read m) op.connectionID op.operationID pc

/-- The program points of such a call, with what it has found -/
def Fits (op : Operation) (m : Nat) : RequestPc → Prop
  | .refused _ => True
  | .looking => 1 ≤ m ∧ m ≤ maxFileTransferChunkBytes
  | .checking e => e = op.entry ∧ 1 ≤ m ∧ m ≤ maxFileTransferChunkBytes
  | .removing _ => False
  | .calling e => e = op.entry ∧ 1 ≤ m ∧ m ≤ maxFileTransferChunkBytes
  | .waiting e => e = op.entry ∧ 1 ≤ m ∧ m ≤ maxFileTransferChunkBytes
  | .failed e => e = op.entry
  | .dropping e chunk => e = op.entry ∧ chunk.done = true
  | .reporting _ chunk => chunk.done = true
  | .returned _ _ => True
  | .delivered _ _ => True

inductive Shape (op : Operation) : Thread → Prop
  | watch (transfer parent : Nat) : Shape op (.watch op.operationID op.token transfer parent)
  | watched : Shape op .watched
  | reading (m : Nat) (pc) (fits : Fits op m pc) : Shape op (reading op m pc)

/-- The call was told that there is no such operation. -/
def missed : Thread → Bool
  | .request _ _ _ (.returned none _) => true
  | _ => false

/-- What the table and the calls say about the operation -/
structure Desk (op : Operation) (s : State) : Prop where
  shape : ∀ x ∈ s.threads, Shape op x
  entries : ∀ e, s.table.ops.get op.operationID = some e → e = op.entry
  /-- Only a call that has reached the end takes the operation away. -/
  present : (∀ x ∈ s.threads, reported x = false ∧ reporting x = false) →
    s.table.ops.get op.operationID = some op.entry
  missed : ∀ x ∈ s.threads, missed x = true → ∃ y ∈ s.threads, reported y = true

/-- The chunk that a call has got from `Read` -/
def carries : RequestPc → Option Chunk
  | .dropping _ chunk => some chunk
  | .reporting _ chunk => some chunk
  | .delivered _ chunk => some chunk
  | _ => none

/-- The calls inside the handle, and what they have got from it -/
structure Link (op : Operation) (s : State) : Prop where
  sizes : s.waiting.length = s.client.queued.length
  waits : ∀ (j i : Nat), s.waiting[j]? = some i → ∃ m,
    s.threads[i]? = some (reading op m (.waiting op.entry)) ∧ s.client.queued[j]? = some m
  nodup : s.waiting.Nodup
  free : s.reader = none → s.client.reader = .free
  holder : ∀ i, s.reader = some i → i ∉ s.waiting ∧ ∃ m,
    s.threads[i]? = some (reading op m (.waiting op.entry)) ∧ Sized m s.client.reader
  placed : ∀ (i m : Nat), s.threads[i]? = some (reading op m (.waiting op.entry)) →
    i ∈ s.waiting ∨ s.reader = some i
  given : ∀ (i : Nat) chunk, (i, chunk) ∈ s.served → ∃ m pc,
    s.threads[i]? = some (reading op m pc) ∧ carries pc = some chunk
  carried : ∀ (i m : Nat) pc chunk,
    s.threads[i]? = some (reading op m pc) → carries pc = some chunk → (i, chunk) ∈ s.served
  final : ∀ e ∈ s.served, e.2.done = true → Drained s.client ∧ held s.client.reader = []

structure Sound (op : Operation) (s : State) : Prop where
  plain : Plain s.client
  steady : Steady s.client
  desk : Desk op s
  link : Link op s

section Desk

variable {cfg : Config} {op : Operation} {s s' : State}

theorem Shape.fits {m : Nat} {pc : RequestPc} (shape : Shape op (CoreDownload.reading op m pc)) :
    Fits op m pc := by
  generalize hx : CoreDownload.reading op m pc = x at shape
  cases shape with
  | reading _ _ fits =>
    cases hx
    exact fits
  | _ => cases hx

/-- One thread moves on: what the table and the others say stays true. -/
theorem desk_of_move {i : Nat} {x x' : Thread} (desk : Desk op s)
    (at_i : s.threads[i]? = some x) (threads : s'.threads = s.threads.set i x' ++ [])
    (shape : Shape op x')
    (entries : ∀ e, s'.table.ops.get op.operationID = some e →
      s.table.ops.get op.operationID = some e)
    (present : (reported x' = true ∨ reporting x' = true ∨ ∃ y ∈ s.threads, reported y = true) ∨
      (reporting x = false ∧ s'.table.ops.get op.operationID = s.table.ops.get op.operationID))
    (reports : reported x = true → reported x' = true)
    (misses : missed x' = true → ∃ y ∈ s.threads, reported y = true) : Desk op s' := by
  have still : (∃ y ∈ s.threads, reported y = true) →
      ∃ y ∈ s.threads.set i x' ++ [], reported y = true := Cells.owed_still at_i reports
  have moved : x' ∈ s.threads.set i x' ++ [] := Cells.moved_mem at_i
  refine ⟨?_, fun e found => desk.entries e (entries e found), ?_, ?_⟩
  all_goals rw [threads]
  · intro y member
    rcases Cells.mem_move member with old | rfl | fresh
    · exact desk.shape y old
    · exact shape
    · cases fresh
  · intro quiet
    rcases present with (now | now | seen) | ⟨unreporting, same⟩
    · cases now.symm.trans (quiet x' moved).1
    · cases now.symm.trans (quiet x' moved).2
    · obtain ⟨y, member, seen⟩ := still seen
      cases seen.symm.trans (quiet y member).1
    refine same.trans (desk.present fun y old => ?_)
    rcases Cells.kept_mem x' [] at_i old with rfl | kept
    · refine ⟨eq_false_iff.mpr fun was => ?_, unreporting⟩
      cases (reports was).symm.trans (quiet x' moved).1
    · exact quiet y kept
  · intro y member miss
    rcases Cells.mem_move member with old | rfl | fresh
    · exact still (desk.missed y old miss)
    · exact still (misses miss)
    · cases fresh

theorem not_removed {id : ID} {token : Nat} {t : Table} :
    ∀ e, (t.removeOperation id token).ops.get id = some e → t.ops.get id = some e := by
  intro e found
  unfold Table.removeOperation at found
  split at found
  · exact (GoMap.get_of_erase found).2
  · exact found

/-- A call moves and leaves the table alone. -/
theorem desk_of_keep {i m : Nat} {pc pc' : RequestPc} (desk : Desk op s)
    (at_i : s.threads[i]? = some (reading op m pc))
    (threads : s'.threads = s.threads.set i (reading op m pc') ++ [])
    (ops : s'.table.ops = s.table.ops) (fits : Fits op m pc')
    (silent : reporting (reading op m pc) = false ∧ reported (reading op m pc) = false)
    (found : missed (reading op m pc') = false) : Desk op s' := by
  refine desk_of_move desk at_i threads (.reading m pc' fits) ?_ (.inr ⟨silent.1, ?_⟩) ?_ ?_
  · rw [ops]
    exact fun _ => id
  · rw [ops]
  · intro was
    cases was.symm.trans silent.2
  · intro was
    cases was.symm.trans found

/-- A call moves outside the handle. -/
theorem desk_of_request {i m : Nat} {pc : RequestPc} {a : FileTransferService.Act}
    {o : Table × RequestPc} (active : op.Active) (desk : Desk op s)
    (at_i : s.threads[i]? = some (reading op m pc))
    (ok : timely s (.run i a) = true) (outside : inHandle (reading op m pc) = false)
    (moved : requestStep op.core s.table (.read m) op.connectionID op.operationID pc a = some o) :
    Desk op { s with table := o.1, threads := s.threads.set i (reading op m o.2) ++ [] } ∧
      carries o.2 = carries pc ∧ ∀ e, o.2 ≠ .waiting e := by
  have fits := (desk.shape _ (mem_of_getElem? at_i)).fits
  cases pc with
  | removing => exact fits.elim
  | calling => cases outside
  | waiting => cases outside
  | looking =>
    cases a <;> try cases moved
    simp only [requestStep] at moved
    split at moved
    · rename_i absent
      cases moved
      refine ⟨desk_of_move desk at_i rfl (.reading m _ trivial) (fun _ => id) (.inr ⟨rfl, rfl⟩)
        nofun fun _ => ?_, rfl, nofun⟩
      by_contra unseen
      have quiet : ∀ x ∈ s.threads, reported x = false ∧ reporting x = false := by
        intro x member
        refine ⟨eq_false_iff.mpr fun seen => unseen ⟨x, member, seen⟩,
          eq_false_iff.mpr fun now => ?_⟩
        simp only [timely, at_i, reading, not_eq_true'] at ok
        cases ok.symm.trans (List.any_eq_true.mpr ⟨x, member, now⟩)
      rw [Table.operation, desk.present quiet] at absent
      simp [Operation.entry, Request.direction] at absent
    · rename_i e found
      cases moved
      have same := desk.entries e (filter_eq_some_iff.mp found).1
      exact ⟨desk_of_keep desk at_i rfl rfl ⟨same, fits⟩ ⟨rfl, rfl⟩ rfl, rfl, by simp⟩
  | checking =>
    cases a <;> try cases moved
    obtain ⟨rfl, size⟩ := fits
    simp only [requestStep] at moved
    rw [if_pos (show connectionTokenCurrent _ _ _ = true from active)] at moved
    cases moved
    exact ⟨desk_of_keep desk at_i rfl rfl ⟨rfl, size⟩ ⟨rfl, rfl⟩ rfl, rfl, nofun⟩
  | failed =>
    cases a with
    | ctx err =>
      cases err <;> cases moved
      · exact ⟨desk_of_keep desk at_i rfl rfl trivial ⟨rfl, rfl⟩ rfl, rfl, by simp⟩
      · exact ⟨desk_of_keep desk at_i rfl rfl trivial ⟨rfl, rfl⟩ rfl, rfl, by simp⟩
    | _ => cases moved
  | dropping =>
    cases a <;> try cases moved
    exact ⟨desk_of_move desk at_i rfl (.reading m _ fits.2) not_removed (.inl (.inr (.inl rfl)))
      nofun nofun, rfl, nofun⟩
  | reporting =>
    cases a <;> try cases moved
    exact ⟨desk_of_move desk at_i rfl (.reading m _ trivial) (fun _ => id) (.inl (.inl fits))
      nofun nofun, rfl, nofun⟩
  | _ => cases a <;> cases moved

end Desk

section Link

variable {cfg : Config} {op : Operation} {s : State}

/-- A thread that is not inside the handle moves, and keeps what it has got from it. -/
theorem link_of_move {i : Nat} {x x' : Thread} {table : Table} (link : Link op s)
    (at_i : s.threads[i]? = some x) (outside : ∀ m e, x ≠ reading op m (.waiting e))
    (outside' : ∀ m e, x' ≠ reading op m (.waiting e))
    (keeps : ∀ m pc chunk, x = reading op m pc → carries pc = some chunk →
      ∃ m' pc', x' = reading op m' pc' ∧ carries pc' = some chunk)
    (kept : ∀ m' pc' chunk, x' = reading op m' pc' → carries pc' = some chunk →
      ∃ m pc, x = reading op m pc ∧ carries pc = some chunk) :
    Link op { s with table := table, threads := s.threads.set i x' ++ [] } := by
  rw [append_nil]
  have still : ∀ {k m : Nat}, s.threads[k]? = some (reading op m (.waiting op.entry)) →
      (s.threads.set i x')[k]? = some (reading op m (.waiting op.entry)) := by
    intro k m at_k
    refine Cells.at_set_other ?_ at_k
    rintro rfl
    exact outside m _ (Option.some.inj (at_i.symm.trans at_k))
  refine ⟨link.sizes, ?_, link.nodup, link.free, ?_, ?_, ?_, ?_, link.final⟩
  · intro j k at_j
    obtain ⟨m, at_k, size⟩ := link.waits j k at_j
    exact ⟨m, still at_k, size⟩
  · intro k held
    obtain ⟨other, m, at_k, sized⟩ := link.holder k held
    exact ⟨other, m, still at_k, sized⟩
  · intro k m at_k
    rcases Cells.at_set at_k with ⟨-, same⟩ | ⟨-, old⟩
    · exact absurd same.symm (outside' m _)
    · exact link.placed k m old
  · intro k chunk member
    obtain ⟨m, pc, at_k, carried⟩ := link.given k chunk member
    by_cases here : k = i
    · subst here
      have same := Option.some.inj (at_i.symm.trans at_k)
      obtain ⟨m', pc', rfl, carried'⟩ := keeps m pc chunk same carried
      exact ⟨m', pc', Cells.at_set_self at_i, carried'⟩
    · exact ⟨m, pc, Cells.at_set_other here at_k, carried⟩
  · intro k m pc chunk at_k carried
    rcases Cells.at_set at_k with ⟨rfl, same⟩ | ⟨-, old⟩
    · obtain ⟨m', pc', rfl, carried'⟩ := kept m pc chunk same.symm carried
      exact link.carried k m' pc' chunk at_i carried'
    · exact link.carried k m pc chunk old carried

/-- The handle takes a step that is none of a call. -/
theorem link_of_aside {c : Client} (link : Link op s) (aside : Aside s.client c) :
    Link op (s.observe op c) := by
  refine ⟨?_, ?_, link.nodup, ?_, ?_, link.placed, link.given, link.carried, ?_⟩
  · exact link.sizes.trans (congrArg length aside.queued.symm)
  · simp only [State.observe, aside.queued]
    exact link.waits
  · simp only [State.observe, aside.reader]
    exact link.free
  · simp only [State.observe, aside.reader]
    exact link.holder
  intro e member ended
  obtain ⟨drained, empty⟩ := link.final e member ended
  refine ⟨aside.drained drained, ?_⟩
  simp only [State.observe, aside.reader]
  exact empty

/-- A call joins those that wait for `readMu`. -/
theorem link_of_call {i m : Nat} (link : Link op s)
    (at_i : s.threads[i]? = some (reading op m (.calling op.entry))) :
    Link op ({ s with
      threads := s.threads.set i (reading op m (.waiting op.entry))
      waiting := s.waiting ++ [i] }.observe op
        { s.client with queued := s.client.queued ++ [m] }) := by
  have other : ∀ {k m' : Nat}, s.threads[k]? = some (reading op m' (.waiting op.entry)) →
      k ≠ i := by
    rintro k m' at_k rfl
    cases Option.some.inj (at_i.symm.trans at_k)
  refine ⟨?_, ?_, ?_, link.free, ?_, ?_, ?_, ?_, link.final⟩
  · simp [State.observe, link.sizes]
  · intro j k at_j
    rcases Cells.at_push at_j with old | ⟨rfl, rfl⟩
    · obtain ⟨m', at_k, size⟩ := link.waits j k old
      exact ⟨m', Cells.at_set_other (other at_k) at_k, Cells.at_push_old size⟩
    · refine ⟨m, Cells.at_set_self at_i, ?_⟩
      simp only [State.observe]
      rw [link.sizes, List.getElem?_append_right (Nat.le_refl _), Nat.sub_self]
      rfl
  · refine concat_eq_append ▸ List.Nodup.concat (fun member => ?_) link.nodup
    obtain ⟨j, at_j⟩ := mem_iff_getElem?.mp member
    obtain ⟨m', at_k, -⟩ := link.waits j i at_j
    exact other at_k rfl
  · intro k held
    obtain ⟨unlisted, m', at_k, sized⟩ := link.holder k held
    refine ⟨?_, m', Cells.at_set_other (other at_k) at_k, sized⟩
    simp only [State.observe]
    rw [mem_append, mem_singleton]
    exact fun member => member.elim unlisted (other at_k)
  · intro k m' at_k
    rcases Cells.at_set at_k with ⟨rfl, -⟩ | ⟨-, old⟩
    · exact .inl (mem_append_right _ (mem_singleton_self k))
    · exact (link.placed k m' old).imp (mem_append_left _) id
  · intro k chunk member
    obtain ⟨m', pc, at_k, carried⟩ := link.given k chunk member
    refine ⟨m', pc, Cells.at_set_other ?_ at_k, carried⟩
    rintro rfl
    cases Option.some.inj (at_i.symm.trans at_k)
    cases carried
  · intro k m' pc chunk at_k carried
    rcases Cells.at_set at_k with ⟨rfl, same⟩ | ⟨-, old⟩
    · cases same
      cases carried
    · exact link.carried k m' pc chunk old carried

/-- A waiting call gets `readMu`. -/
theorem link_of_lock {i j m : Nat} (link : Link op s) (free : s.client.reader = .free)
    (at_j : s.waiting[j]? = some i) (size : s.client.queued[j]? = some m) :
    Link op ({ s with waiting := s.waiting.eraseIdx j, reader := some i }.observe op
      { s.client with reader := .take m, queued := s.client.queued.eraseIdx j }) := by
  have apart : ∀ {k : Nat}, k ∈ s.waiting → k ≠ i → k ∈ s.waiting.eraseIdx j := by
    intro k member other
    obtain ⟨j', at_j'⟩ := mem_iff_getElem?.mp member
    refine mem_eraseIdx_iff_getElem?.mpr ⟨j', ?_, at_j'⟩
    rintro rfl
    exact other (Option.some.inj (at_j'.symm.trans at_j))
  refine ⟨?_, ?_, ?_, by rintro ⟨⟩, ?_, ?_, link.given, link.carried, ?_⟩
  · simp only [State.observe, length_eraseIdx, link.sizes]
  · intro k i' at_k
    simp only [State.observe, List.getElem?_eraseIdx] at at_k ⊢
    by_cases before : k < j
    · rw [if_pos before] at at_k ⊢
      exact link.waits k i' at_k
    · rw [if_neg before] at at_k ⊢
      exact link.waits (k + 1) i' at_k
  · exact link.nodup.sublist (eraseIdx_sublist _ _)
  · intro k held
    cases held
    obtain ⟨m', at_i, size'⟩ := link.waits j i at_j
    cases size.symm.trans size'
    refine ⟨fun member => ?_, m, at_i, rfl⟩
    obtain ⟨j', other, at_j'⟩ := mem_eraseIdx_iff_getElem?.mp member
    obtain ⟨bound, -⟩ := List.getElem?_eq_some_iff.mp at_j'
    exact other ((List.getElem?_inj bound link.nodup).mp (at_j'.trans at_j.symm))
  · intro k m' at_k
    by_cases here : k = i
    · exact .inr (congrArg some here.symm)
    rcases link.placed k m' at_k with waits | holds
    · exact .inl (apart waits here)
    · obtain ⟨-, _, -, sized⟩ := link.holder k holds
      rw [free] at sized
      exact sized.elim
  · intro e member ended
    exact ⟨(link.final e member ended).1, rfl⟩

/-- The call that holds `readMu` moves on inside `Read`. -/
theorem link_of_read {i m : Nat} {e : Event} {c : Client} {out : Output} (link : Link op s)
    (held : s.reader = some i) (at_i : s.threads[i]? = some (reading op m (.waiting op.entry)))
    (reads : Reads s.client e c out) (sized : Sized m c.reader) : Link op (s.observe op c) := by
  have queued := queued_of_read reads
  refine ⟨?_, ?_, link.nodup, ?_, ?_, link.placed, link.given, link.carried, ?_⟩
  · exact link.sizes.trans (congrArg length queued.symm)
  · simp only [State.observe, queued]
    exact link.waits
  · intro free
    cases held.symm.trans free
  · intro k held'
    cases held.symm.trans held'
    exact ⟨(link.holder i held).1, m, at_i, sized⟩
  · intro entry member ended
    obtain ⟨drained, empty⟩ := link.final entry member ended
    exact drained_of_read reads drained empty

/-- `Read` returns to the call that holds `readMu`. -/
theorem link_of_respond {i m : Nat} {e : Event} {c : Client} {r : ReadResult} {pc : RequestPc}
    {table : Table} (link : Link op s) (plain : Plain s.client) (held : s.reader = some i)
    (at_i : s.threads[i]? = some (reading op m (.waiting op.entry)))
    (reads : Reads s.client e c (.read r)) (free : c.reader = .free)
    (past : ∀ e, pc ≠ .waiting e)
    (answer : carries pc = if r.err.isSome then none else some ⟨r.out, r.done⟩) :
    Link op { s with
      table := table
      threads := s.threads.set i (reading op m pc)
      reader := none
      client := c
      served := s.served ++ ((carries pc).map (Prod.mk i)).toList } := by
  have queued := queued_of_read reads
  refine ⟨?_, ?_, link.nodup, fun _ => free, by simp, ?_, ?_, ?_, ?_⟩
  · exact link.sizes.trans (congrArg length queued.symm)
  · intro j k at_j
    obtain ⟨m', at_k, size⟩ := link.waits j k at_j
    rw [queued]
    refine ⟨m', Cells.at_set_other ?_ at_k, size⟩
    rintro rfl
    exact (link.holder k held).1 (mem_of_getElem? at_j)
  · intro k m' at_k
    rcases Cells.at_set at_k with ⟨-, same⟩ | ⟨other, old⟩
    · cases same
      exact absurd rfl (past _)
    · rcases link.placed k m' old with waits | holds
      · exact .inl waits
      · exact absurd (Option.some.inj (holds.symm.trans held)) other
  · intro k chunk member
    rcases mem_append.mp member with old | new
    · obtain ⟨m', pc', at_k, carried⟩ := link.given k chunk old
      refine ⟨m', pc', Cells.at_set_other ?_ at_k, carried⟩
      rintro rfl
      cases Option.some.inj (at_i.symm.trans at_k)
      cases carried
    · rw [mem_toList] at new
      obtain ⟨chunk', carried, same⟩ := map_eq_some_iff.mp new
      cases same
      exact ⟨m, pc, Cells.at_set_self at_i, carried⟩
  · intro k m' pc' chunk at_k carried
    rcases Cells.at_set at_k with ⟨rfl, same⟩ | ⟨-, old⟩
    · cases same
      refine mem_append_right _ ?_
      rw [carried]
      exact mem_singleton_self _
    · exact mem_append_left _ (link.carried k m' pc' chunk old carried)
  · intro entry member last
    rcases mem_append.mp member with old | new
    · obtain ⟨drained, empty⟩ := link.final entry old last
      exact drained_of_read reads drained empty
    rw [mem_toList, answer] at new
    rw [free]
    split at new
    · cases new
    · rename_i fine
      cases new
      rw [not_eq_true, isSome_eq_false_iff, isNone_iff_eq_none] at fine
      exact ⟨drained_of_result plain reads fine last, rfl⟩

end Link

section Sound

variable {cfg : Config} {op : Operation} {s s' : State}

theorem observe_ops (s : State) (c : Client) : (s.observe op c).table.ops = s.table.ops := by
  unfold State.observe
  split <;> rfl

/-- Neither the calls nor the operations change. -/
theorem desk_of_same (desk : Desk op s) (threads : s'.threads = s.threads)
    (ops : s'.table.ops = s.table.ops) : Desk op s' := by
  refine ⟨?_, ?_, ?_, ?_⟩
  · rw [threads]
    exact desk.shape
  · rw [ops]
    exact desk.entries
  · rw [threads, ops]
    exact desk.present
  · rw [threads]
    exact desk.missed

theorem sound_of_aside {c : Client} {a : FileClient.Act} {out : Output} (sound : Sound op s)
    (plainly : usual a = true) (taken : FileClient.step .download s.client a = some (c, out))
    (aside : Aside s.client c) : Sound op (s.observe op c) :=
  ⟨plain_of_usual sound.plain plainly taken, steady_of_usual sound.plain sound.steady plainly taken,
    desk_of_same sound.desk rfl (observe_ops s c), link_of_aside sound.link aside⟩

/-- `ReadFileDownload` is refused at the door, or looks for the operation. -/
theorem read_enters (op : Operation) (ctx : Option ContextError) (maxBytes : Int) : ∃ m pc,
    readFileDownload ctx op.connectionID op.operationID maxBytes = reading op m pc ∧
      Fits op m pc ∧ ((∃ err, pc = .refused err) ∨ pc = .looking) := by
  unfold readFileDownload
  generalize (if maxBytes = 0 then (maxFileTransferChunkBytes : Int) else maxBytes) = size
  refine ⟨_, _, rfl, ?_⟩
  cases ctx with
  | some => exact ⟨trivial, .inl ⟨_, rfl⟩⟩
  | none =>
    dsimp only
    split
    · rename_i valid
      rw [and_eq_true, and_eq_true, and_eq_true, decide_eq_true_eq, decide_eq_true_eq] at valid
      refine ⟨?_, .inr rfl⟩
      constructor <;> omega
    · exact ⟨trivial, .inl ⟨_, rfl⟩⟩

theorem sound_of_start (sound : Sound op s) (ctx : Option ContextError) (maxBytes : Int) :
    Sound op { s with threads := s.threads ++
      [readFileDownload ctx op.connectionID op.operationID maxBytes] } := by
  obtain ⟨m, pc, same, fits, entered⟩ := read_enters op ctx maxBytes
  have idle : carries pc = none ∧ missed (reading op m pc) = false ∧ ∀ e, pc ≠ .waiting e := by
    rcases entered with ⟨-, rfl⟩ | rfl
    · exact ⟨rfl, rfl, by simp⟩
    · exact ⟨rfl, rfl, by simp⟩
  rw [same]
  have desk := sound.desk
  have link := sound.link
  refine ⟨sound.plain, sound.steady, ⟨?_, desk.entries, ?_, ?_⟩,
    ⟨link.sizes, ?_, link.nodup, link.free, ?_, ?_, ?_, ?_, link.final⟩⟩
  · intro x member
    rcases mem_append.mp member with old | new
    · exact desk.shape x old
    · cases mem_singleton.mp new
      exact .reading m pc fits
  · intro all_quiet
    exact desk.present fun x old => all_quiet x (mem_append_left _ old)
  · intro x member miss
    rcases mem_append.mp member with old | new
    · obtain ⟨y, seen, told⟩ := desk.missed x old miss
      exact ⟨y, mem_append_left _ seen, told⟩
    · cases mem_singleton.mp new
      cases idle.2.1.symm.trans miss
  · intro j i at_j
    obtain ⟨k, at_i, size⟩ := link.waits j i at_j
    exact ⟨k, Cells.at_push_old at_i, size⟩
  · intro i held
    obtain ⟨other, k, at_i, sized⟩ := link.holder i held
    exact ⟨other, k, Cells.at_push_old at_i, sized⟩
  · intro i k at_i
    rcases Cells.at_push at_i with old | ⟨-, new⟩
    · exact link.placed i k old
    · cases new
      exact absurd rfl (idle.2.2 _)
  · intro i chunk member
    obtain ⟨k, pc', at_i, carried⟩ := link.given i chunk member
    exact ⟨k, pc', Cells.at_push_old at_i, carried⟩
  · intro i k pc' chunk at_i carried
    rcases Cells.at_push at_i with old | ⟨-, new⟩
    · exact link.carried i k pc' chunk old carried
    · cases new
      cases idle.1.symm.trans carried

theorem sound_of_run {i : Nat} {a : FileTransferService.Act} (active : op.Active)
    (sound : Sound op s) (ok : timely s (.run i a) = true)
    (h : step cfg op s (.run i a) = some s') : Sound op s' := by
  obtain ⟨x, at_i, h⟩ := bind_eq_some_iff.mp h
  split at h
  · cases h
  rename_i outside
  rw [not_eq_true] at outside
  obtain ⟨o, moved, rfl⟩ := map_eq_some_iff.mp h
  cases sound.desk.shape x (mem_of_getElem? at_i) with
  | watched => cases moved
  | watch =>
    cases a <;> try cases moved
    obtain ⟨-, moved⟩ := ite_none_right_eq_some.mp moved
    cases moved
    simp only [timely, at_i] at ok
    have seen := List.any_eq_true.mp ok
    refine ⟨sound.plain, sound.steady, ?_, ?_⟩
    · exact desk_of_move sound.desk at_i rfl .watched not_removed (.inl (.inr (.inr seen)))
        (by rintro ⟨⟩) (by rintro ⟨⟩)
    · exact link_of_move sound.link at_i nofun nofun nofun nofun
  | reading m pc =>
    obtain ⟨r, taken, rfl⟩ := map_eq_some_iff.mp moved
    obtain ⟨desk, same, past⟩ := desk_of_request active sound.desk at_i ok outside taken
    refine ⟨sound.plain, sound.steady, desk, link_of_move sound.link at_i ?_ ?_ ?_ ?_⟩
    · intro m' e waits
      cases waits
      cases outside
    · intro m' e waits
      injection waits with _ _ _ waits
      exact past e waits
    · intro m' pc' chunk equal carried
      cases equal
      exact ⟨m, r.2, rfl, same.trans carried⟩
    · intro m' pc' chunk equal carried
      cases equal
      exact ⟨m, pc, rfl, same.symm.trans carried⟩

/-- A `Read` of this size is never refused. -/
theorem beginRead_within (c : Client) {m : Nat} (size : 1 ≤ m ∧ m ≤ maxFileTransferChunkBytes) :
    beginRead c m = ({ c with queued := c.queued ++ [m] }, .nothing) := by
  have small : maxFileTransferChunkBytes ≤ maxTypedStreamChunk := by decide
  unfold beginRead
  rw [if_neg (show ¬m = 0 by omega)]
  exact if_neg (by omega)

/-- A call enters `Read`. -/
theorem call_inv {i : Nat} (desk : Desk op s) (h : step cfg op s (.call i) = some s') : ∃ m,
    (1 ≤ m ∧ m ≤ maxFileTransferChunkBytes) ∧
    s.threads[i]? = some (reading op m (.calling op.entry)) ∧
    FileClient.step .download s.client (.beginRead m) =
      some ({ s.client with queued := s.client.queued ++ [m] }, .nothing) ∧
    s' = { s with
      threads := s.threads.set i (reading op m (.waiting op.entry))
      waiting := s.waiting ++ [i] }.observe op
        { s.client with queued := s.client.queued ++ [m] } := by
  simp only [step] at h
  split at h
  · rename_i m connectionID operationID e at_i
    obtain ⟨⟨c, out⟩, taken, h⟩ := bind_eq_some_iff.mp h
    have shape := desk.shape _ (mem_of_getElem? at_i)
    generalize hx : Thread.request (.read m) connectionID operationID (.calling e) = x at at_i shape
    cases shape with
    | reading _ _ fits =>
      cases hx
      obtain ⟨rfl, size⟩ := fits
      have moved := taken
      simp only [FileClient.step, beginRead_within _ size] at moved
      obtain ⟨-, same⟩ := ite_none_right_eq_some.mp moved
      cases same
      cases h
      exact ⟨m, size, at_i, taken, rfl⟩
    | _ => cases hx
  · cases h

theorem sound_of_call {i : Nat} (sound : Sound op s) (h : step cfg op s (.call i) = some s') :
    Sound op s' := by
  obtain ⟨m, size, at_i, taken, rfl⟩ := call_inv sound.desk h
  refine ⟨plain_of_usual sound.plain rfl taken,
    steady_of_usual sound.plain sound.steady rfl taken, ?_, link_of_call sound.link at_i⟩
  exact desk_of_keep sound.desk at_i (append_nil _).symm (observe_ops _ _) ⟨rfl, size⟩
    ⟨rfl, rfl⟩ rfl

/-- A waiting call takes `readMu`. -/
theorem lock_inv {j : Nat} (h : step cfg op s (.lock j) = some s') : ∃ i m,
    s.waiting[j]? = some i ∧ s.client.queued[j]? = some m ∧ s.client.reader = .free ∧
    FileClient.step .download s.client (.lockRead j) = some
      ({ s.client with reader := .take m, queued := s.client.queued.eraseIdx j }, .nothing) ∧
    s' = { s with waiting := s.waiting.eraseIdx j, reader := some i }.observe op
      { s.client with reader := .take m, queued := s.client.queued.eraseIdx j } := by
  obtain ⟨i, at_j, h⟩ := bind_eq_some_iff.mp h
  obtain ⟨⟨c, out⟩, taken, rfl⟩ := map_eq_some_iff.mp h
  cases step_stepped taken with
  | locks free size => exact ⟨i, _, at_j, size, free, taken, rfl⟩
  | begins begins => cases begins

theorem sound_of_lock {j : Nat} (sound : Sound op s) (h : step cfg op s (.lock j) = some s') :
    Sound op s' := by
  obtain ⟨i, m, at_j, size, free, taken, rfl⟩ := lock_inv h
  exact ⟨plain_of_usual sound.plain rfl taken, steady_of_usual sound.plain sound.steady rfl taken,
    desk_of_same sound.desk rfl (observe_ops _ _), link_of_lock sound.link free at_j size⟩

/-- What a call does with the result of `Read`, which is within its size -/
theorem answered {m : Nat} {r : ReadResult} (op : Operation) (t : Table)
    (size : m ≤ maxFileTransferChunkBytes) (within : r.out.length ≤ m) : ∃ pc,
    requestStep op.core t (.read m) op.connectionID op.operationID (.waiting op.entry)
      (.chunk (if r.err.isSome then none else some (r.out, r.done))) = some (t, pc) ∧
    Fits op m pc ∧
    ((r.err.isSome = true ∧ pc = .failed op.entry) ∨
      (r.err = none ∧ (pc = .dropping op.entry ⟨r.out, r.done⟩ ∨
        pc = .delivered op.transfer ⟨r.out, r.done⟩))) := by
  cases r.err with
  | some => exact ⟨_, rfl, rfl, .inl ⟨rfl, rfl⟩⟩
  | none =>
    have short : ¬(m < r.out.length ∨ maxFileTransferChunkBytes < r.out.length) := by omega
    refine ⟨_, rfl, ?_⟩
    simp only [readChunk, or_eq_true, decide_eq_true_eq, if_neg short]
    cases r.done with
    | true => exact ⟨⟨rfl, rfl⟩, .inr ⟨trivial, .inl rfl⟩⟩
    | false => exact ⟨trivial, .inr ⟨trivial, .inr rfl⟩⟩

/-- The call that holds `readMu` goes on inside `Read`, or `Read` returns to it. -/
inductive Reading (op : Operation) (s : State) (e : Event) : State → Prop
  | goes (i m : Nat) (c : Client) (out : Output) (held : s.reader = some i)
      (at_i : s.threads[i]? = some (reading op m (.waiting op.entry)))
      (reads : Reads s.client e c out) (sized : Sized m c.reader) (silent : ∀ r, out ≠ .read r) :
      Reading op s e (s.observe op c)
  | returns (i m : Nat) (c : Client) (r) (pc) (held : s.reader = some i)
      (at_i : s.threads[i]? = some (reading op m (.waiting op.entry)))
      (reads : Reads s.client e c (.read r)) (free : c.reader = .free) (fits : Fits op m pc)
      (full : r.err = none → r.out ≠ [] ∨ r.done = true)
      (goes : (r.err.isSome = true ∧ pc = .failed op.entry) ∨
        (r.err = none ∧ (pc = .dropping op.entry ⟨r.out, r.done⟩ ∨
          pc = .delivered op.transfer ⟨r.out, r.done⟩))) :
      Reading op s e { s.observe op c with
        threads := s.threads.set i (reading op m pc)
        reader := none
        served := s.served ++ ((carries pc).map (Prod.mk i)).toList }

theorem read_inv {e : Event} (sound : Sound op s) (h : step cfg op s (.read e) = some s') :
    Reading op s e s' := by
  obtain ⟨i, held, h⟩ := bind_eq_some_iff.mp h
  obtain ⟨⟨c, out⟩, taken, h⟩ := bind_eq_some_iff.mp h
  have reads := readStep_reads taken
  obtain ⟨-, m, at_i, sized⟩ := sound.link.holder i held
  obtain ⟨-, size⟩ := (sound.desk.shape _ (mem_of_getElem? at_i)).fits
  rcases sized_of_read sound.steady size.1 reads sized with
    ⟨sized', silent⟩ | ⟨free, r, rfl, within, full⟩
  · have same : s.observe op c = s' := by
      cases out with
      | read r => exact absurd rfl (silent r)
      | _ => exact Option.some.inj h
    subst same
    exact .goes i m c out held at_i reads sized' silent
  · have there : (s.observe op c).threads[i]? =
        some (.request (.read m) op.connectionID op.operationID (.waiting op.entry)) := at_i
    obtain ⟨pc, moved, fits, goes⟩ := answered op (s.observe op c).table size.2 within
    have given : ((carries pc).map (Prod.mk i)).toList =
        ((if r.err.isSome then none else some (r.out, r.done)).map
          fun a => ((i, ⟨a.1, a.2⟩) : Nat × Chunk)).toList := by
      rcases goes with ⟨failed, rfl⟩ | ⟨well, rfl | rfl⟩
      · rw [failed]
        rfl
      · rw [well]
        rfl
      · rw [well]
        rfl
    simp only [State.respond, there, moved, map_some, ← given] at h
    cases h
    exact .returns i m c r pc held at_i reads free fits full goes

theorem sound_of_read {e : Event} (sound : Sound op s) (h : step cfg op s (.read e) = some s') :
    Sound op s' := by
  cases read_inv sound h with
  | goes i m c _ held at_i reads sized =>
    exact ⟨plain_of_read sound.plain reads, steady_of_read sound.steady reads,
      desk_of_same sound.desk rfl (observe_ops s c), link_of_read sound.link held at_i reads sized⟩
  | returns i m c r pc held at_i reads free fits _ goes =>
    have facts : missed (reading op m pc) = false ∧ (∀ e, pc ≠ .waiting e) ∧
        carries pc = if r.err.isSome then none else some ⟨r.out, r.done⟩ := by
      rcases goes with ⟨failed, rfl⟩ | ⟨well, rfl | rfl⟩
      · exact ⟨rfl, by simp, by rw [failed]; rfl⟩
      · exact ⟨rfl, by simp, by rw [well]; rfl⟩
      · exact ⟨rfl, by simp, by rw [well]; rfl⟩
    obtain ⟨found, past, answer⟩ := facts
    exact ⟨plain_of_read sound.plain reads, steady_of_read sound.steady reads,
      desk_of_keep sound.desk at_i (append_nil _).symm (observe_ops s c) fits ⟨rfl, rfl⟩ found,
      link_of_respond (s := s) sound.link sound.plain held at_i reads free past answer⟩

/-- A frame for the download, or a step of the monitor -/
theorem aside_inv {a : Action} (plain : Plain s.client)
    (outside : (∃ m, a = .deliver m) ∨ ∃ e, a = .monitor e)
    (h : step cfg op s a = some s') : ∃ c b out, usual b = true ∧
      FileClient.step .download s.client b = some (c, out) ∧ Aside s.client c ∧
      s' = s.observe op c := by
  rcases outside with ⟨m, rfl⟩ | ⟨e, rfl⟩
  · obtain ⟨⟨c, out⟩, taken, rfl⟩ := map_eq_some_iff.mp h
    refine ⟨c, .deliver m, out, rfl, taken, ?_, rfl⟩
    cases step_stepped taken with
    | handles _ found => exact aside_handled plain (handleFrame_handled found)
    | refuses =>
      rw [finish_eq]
      exact ⟨rfl, rfl, id, fun _ => rfl, fun _ => rfl⟩
    | begins begins => cases begins
  · obtain ⟨⟨c, out⟩, taken, rfl⟩ := map_eq_some_iff.mp h
    exact ⟨c, .monitor e, out, rfl, taken, aside_monitor plain (monitorStep_monitored taken), rfl⟩

/-- Every timely step keeps the invariant. -/
theorem sound_of_step {a : Action} (active : op.Active) (sound : Sound op s)
    (ok : timely s a = true) (h : step cfg op s a = some s') : Sound op s' := by
  have outside : (∃ m, a = .deliver m) ∨ (∃ e, a = .monitor e) → Sound op s' := by
    intro outside
    obtain ⟨c, b, out, plainly, taken, aside, rfl⟩ := aside_inv sound.plain outside h
    exact sound_of_aside sound plainly taken aside
  cases a with
  | start ctx maxBytes =>
    cases h
    exact sound_of_start sound ctx maxBytes
  | run => exact sound_of_run active sound ok h
  | call => exact sound_of_call sound h
  | lock => exact sound_of_lock sound h
  | read => exact sound_of_read sound h
  | deliver m => exact outside (.inl ⟨m, rfl⟩)
  | monitor e => exact outside (.inr ⟨e, rfl⟩)

theorem sound_initial {table : Table} (parent : Nat)
    (present : table.ops.get op.operationID = some op.entry) :
    Sound op (initial op table parent) := by
  have lone : ∀ {i : Nat} {m pc}, (initial op table parent).threads[i]? ≠
      some (reading op m pc) := by
    intro i m pc at_i
    cases mem_singleton.mp (mem_of_getElem? at_i)
  refine ⟨plain_new, steady_new, ⟨?_, ?_, fun _ => present, ?_⟩,
    ⟨rfl, nofun, nodup_nil, fun _ => rfl, nofun, fun _ _ at_i => absurd at_i lone, nofun,
      fun _ _ _ _ at_i => absurd at_i lone, forall_mem_nil _⟩⟩
  · intro x member
    cases mem_singleton.mp member
    exact .watch op.transfer parent
  · intro e found
    exact (Option.some.inj (present.symm.trans found)).symm
  · intro x member miss
    cases mem_singleton.mp member
    cases miss

/-- What holds in every state of a timely run -/
theorem sound_of_timely {table : Table} {parent : Nat} {acts : List Action}
    (active : op.Active) (present : table.ops.get op.operationID = some op.entry)
    (conforms : Runs.Meets (step cfg op) (timely · · = true) (initial op table parent) acts)
    (h : Runs.exec (step cfg op) (initial op table parent) acts = some s) : Sound op s :=
  Runs.exec_invariant (Sound op)
    (fun _ _ _ sound ok stepped => sound_of_step active sound ok stepped)
    (sound_initial parent present) conforms h

end Sound

end CoreDownload
