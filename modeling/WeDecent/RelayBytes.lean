import WeDecent.RelaySlots

/-!
# What an agent is sent

An agent that registers reads the challenge, the message that it waits, and once a client is there
the message that it is ready; all that follows is the client's. A slot can be taken as soon as it is
parked, and only then the waiting message is written. So two goroutines may write to the connection
at once, and the agent may read that it is ready first.
-/

namespace RelayBytes

open Bool List Option Cells Exclusion Relay RelaySlots Runs

/-- A client takes only a slot whose agent has been sent the waiting message. -/
def announcedFirst (cfg : Config) (s : System) : Action → Bool
  | .client i .go => s.clients[i]?.all fun c =>
    decide (c.pc ≠ .taking) || (s.take cfg c.device).2.all fun k =>
      s.agents[k]?.all fun a => a.announced
  | _ => true

/-- The challenge and the waiting message -/
def opening (a : Agent) : List UInt8 :=
  (Message.challenge a.challenge).encode ++ Message.waiting.encode

/-- What is sent instead of the waiting message -/
def Rejection (m : Message) : Prop := m = slotLimit ∨ ∃ why : Refusal, m = why.message

def Rejected (a : Agent) : Prop :=
  ∃ m, Rejection m ∧ a.written <+: (Message.challenge a.challenge).encode ++ m.encode

/-- The goroutine of the connection writes nothing more. -/
def mute : AgentPc → Bool
  | .selecting _ | .removing | .closing | .returned => true
  | _ => false

/-- A connection that no client has taken -/
inductive Said (a : Agent) : Prop
  | challenging {rest : List UInt8} (at_ : a.pc = .challenging rest) (new : a.announced = false)
      (sent : a.written ++ rest = (Message.challenge a.challenge).encode)
  | asked (at_ : a.pc = .reading ∨ a.pc = .parking) (new : a.announced = false)
      (sent : a.written = (Message.challenge a.challenge).encode)
  | rejecting {rest : List UInt8} {m : Message} (at_ : a.pc = .rejecting rest)
      (new : a.announced = false) (rejection : Rejection m)
      (sent : a.written ++ rest = (Message.challenge a.challenge).encode ++ m.encode)
  | announcing {rest : List UInt8} (at_ : a.pc = .announcing rest) (new : a.announced = false)
      (sent : a.written ++ rest = opening a)
  | silent (at_ : mute a.pc = true) (whole : a.announced = true → a.written = opening a)
      (sent : a.written <+: opening a ∨ Rejected a)

/-- What the client's goroutine has still to write of what it knows -/
def pending : ClientPc → Option (List UInt8)
  | .readying _ rest => some rest
  | .greeting _ => some []
  | .bridging _ .reading _ => some []
  | .bridging _ (.writing data) _ => some data
  | _ => none

def bridging : ClientPc → Bool
  | .bridging _ _ _ => true
  | _ => false

/-- A connection and the client that has taken it -/
structure Told (a : Agent) (c : Client) : Prop where
  silent : mute a.pc = true
  begun : opening a <+: a.written
  within : a.written <+: opening a ++ Message.ready.encode ++ c.received
  owed : ∀ rest, pending c.pc = some rest →
    a.written ++ rest = opening a ++ Message.ready.encode ++ c.received
  ready : bridging c.pc = true → opening a ++ Message.ready.encode <+: a.written

structure Bytes (s : System) : Prop where
  said : ∀ (k : Nat) a, s.agents[k]? = some a → (∀ c ∈ s.clients, c.took ≠ some k) → Said a
  told : ∀ c ∈ s.clients, ∀ k a, c.took = some k → s.agents[k]? = some a → Told a c
  fresh : ∀ c ∈ s.clients, c.pc = .taking → c.took = none ∧ c.received = []

section Parts

variable {cfg : Config} {s s' : System} {device : Text} {k i n : Nat} {a a' : Agent} {c c' : Client}
  {input : Input} {closed fails : Bool} {rest more : List UInt8} {p : Progress}

theorem progress_more (h : progress closed rest n fails = some (.more more)) :
    rest.take n ++ more = rest := by
  unfold progress at h
  split_ifs at h with impossible failed all
  · cases h
  · cases h
  · cases h
    exact take_append_drop n rest

theorem progress_all (h : progress closed rest n fails = some .all) : rest.take n = rest := by
  unfold progress at h
  split_ifs at h with impossible failed all
  · cases h
  · rw [all]
    exact take_length
  · cases h

theorem Said.sent (h : Said a) : a.written <+: opening a ∨ Rejected a := by
  cases h with
  | challenging at_ new sent =>
    left
    rw [opening, ← sent, append_assoc]
    exact prefix_append _ _
  | asked at_ new sent =>
    left
    rw [sent]
    exact prefix_append _ _
  | rejecting at_ new rejection sent => exact .inr ⟨_, rejection, _, sent⟩
  | announcing at_ new sent => exact .inl ⟨_, sent⟩
  | silent at_ _ sent => exact sent

/-- Once the waiting message is written, the goroutine writes nothing more. -/
theorem Said.announced (h : Said a) (done : a.announced = true) :
    mute a.pc = true ∧ a.written = opening a := by
  cases h with
  | rejecting at_ new => cases new.symm.trans done
  | silent at_ whole => exact ⟨at_, whole done⟩
  | _ =>
    rename_i new _
    cases new.symm.trans done

/-- The goroutine ends, whatever it has written. -/
theorem Said.past (h : Said a) (pc : mute a'.pc = true) (challenge : a'.challenge = a.challenge)
    (written : a'.written = a.written) (announced : a'.announced = a.announced) : Said a' := by
  have same : opening a' = opening a := by rw [opening, challenge, opening]
  refine .silent pc (fun done => ?_) ?_
  · rw [written, same]
    exact (h.announced (announced ▸ done)).2
  · rw [Rejected, written, same, challenge]
    exact h.sent

/-- A connection is closed, or done with. -/
theorem Said.still (h : Said a) (pc : a'.pc = a.pc) (challenge : a'.challenge = a.challenge)
    (written : a'.written = a.written) (announced : a'.announced = a.announced) : Said a' := by
  have same : opening a' = opening a := by rw [opening, challenge, opening]
  cases h with
  | challenging at_ new sent =>
    exact .challenging (pc.trans at_) (announced.trans new) (by rw [written, challenge]; exact sent)
  | asked at_ new sent =>
    refine .asked ?_ (announced.trans new) (by rw [written, challenge]; exact sent)
    rw [pc]
    exact at_
  | rejecting at_ new rejection sent =>
    exact .rejecting (pc.trans at_) (announced.trans new) rejection
      (by rw [written, challenge]; exact sent)
  | announcing at_ new sent =>
    exact .announcing (pc.trans at_) (announced.trans new) (by rw [written, same]; exact sent)
  | silent at_ whole sent =>
    exact (Said.silent at_ whole sent).past (by rw [pc]; exact at_) challenge written announced

theorem Told.still (h : Told a c) (pc : mute a'.pc = true) (challenge : a'.challenge = a.challenge)
    (written : a'.written = a.written) : Told a' c := by
  have same : opening a' = opening a := by rw [opening, challenge, opening]
  refine ⟨pc, ?_, ?_, fun rest left => ?_, fun greeted => ?_⟩
  · rw [same, written]
    exact h.begun
  · rw [same, written]
    exact h.within
  · rw [same, written]
    exact h.owed rest left
  · rw [same, written]
    exact h.ready greeted

/-- The client's goroutine goes on without writing. -/
theorem Told.goes (h : Told a c) (received : c'.received = c.received)
    (owed : pending c'.pc = none ∨ pending c'.pc = pending c.pc)
    (ready : bridging c'.pc = true → bridging c.pc = true ∨ pending c.pc = some []) :
    Told a c' := by
  refine ⟨h.silent, h.begun, received ▸ h.within, fun rest left => ?_, fun greeted => ?_⟩
  · rw [received]
    rcases owed with none | same
    · cases none.symm.trans left
    · exact h.owed rest (same.symm.trans left)
  · rcases ready greeted with before | all
    · exact h.ready before
    · have whole := h.owed [] all
      rw [append_nil] at whole
      rw [whole]
      exact prefix_append _ _

/-- The client's goroutine writes. -/
theorem Told.wrote (h : Told a c) (left : pending c.pc = some rest)
    (received : c'.received = c.received)
    (owed : ∀ later, pending c'.pc = some later → rest.take n ++ later = rest)
    (ready : bridging c'.pc = true → bridging c.pc = true) :
    Told { a with written := a.written ++ rest.take n } c' := by
  have whole := h.owed rest left
  refine ⟨h.silent, h.begun.trans (prefix_append _ _), ?_, fun later left' => ?_,
    fun greeted => (h.ready (ready greeted)).trans (prefix_append _ _)⟩
  · rw [received]
    change a.written ++ rest.take n <+: opening a ++ Message.ready.encode ++ c.received
    rw [← whole]
    exact (prefix_append_right_inj _).mpr ( take_prefix n rest)
  · change a.written ++ rest.take n ++ later = opening a ++ Message.ready.encode ++ c'.received
    rw [append_assoc, owed later left', received]
    exact whole

theorem bytes_setAgent (bytes : Bytes s) (found : s.agents[k]? = some a)
    (said : (∀ c ∈ s.clients, c.took ≠ some k) → Said a → Said a')
    (told : ∀ c ∈ s.clients, c.took = some k → Told a c → Told a' c) : Bytes (s.setAgent k a') where
  said j b at_j free := by
    rcases at_set at_j with ⟨rfl, rfl⟩ | ⟨-, at_j⟩
    · exact said free (bytes.said j a found free)
    · exact bytes.said j b at_j free
  told c member j b took at_j := by
    rcases at_set at_j with ⟨rfl, rfl⟩ | ⟨-, at_j⟩
    · exact told c member took (bytes.told c member j a took found)
    · exact bytes.told c member j b took at_j
  fresh := bytes.fresh

/-- What does not move the goroutine and writes nothing -/
theorem bytes_still (bytes : Bytes s) (found : s.agents[k]? = some a) (pc : a'.pc = a.pc)
    (challenge : a'.challenge = a.challenge) (written : a'.written = a.written)
    (announced : a'.announced = a.announced) : Bytes (s.setAgent k a') :=
  bytes_setAgent bytes found (fun _ said => said.still pc challenge written announced)
    fun _ _ _ told => told.still (by rw [pc]; exact told.silent) challenge written

theorem bytes_setClient (bytes : Bytes s) (found : s.clients[i]? = some c)
    (took : c'.took = c.took) (pc : c'.pc ≠ .taking) (told : ∀ a, Told a c → Told a c') :
    Bytes (s.setClient i c') where
  said k a at_k free := by
    refine bytes.said k a at_k fun x member => ?_
    obtain ⟨j, at_j⟩ := mem_iff_getElem?.mp member
    by_cases same : j = i
    · subst same
      cases found.symm.trans at_j
      rw [← took]
      exact free c' (mem_of_getElem? (at_set_self found))
    · exact free x (mem_of_getElem? (at_set_other same at_j))
  told x member k a has at_k := by
    rcases mem_or_eq_of_mem_set member with old | rfl
    · exact bytes.told x old k a has at_k
    · rw [took] at has
      exact told a (bytes.told c (mem_of_getElem? found) k a has at_k)
  fresh x member taking := by
    rcases mem_or_eq_of_mem_set member with old | rfl
    · exact bytes.fresh x old taking
    · exact absurd taking pc

theorem bytes_goes (bytes : Bytes s) (found : s.clients[i]? = some c) (took : c'.took = c.took)
    (pc : c'.pc ≠ .taking) (received : c'.received = c.received)
    (owed : pending c'.pc = none ∨ pending c'.pc = pending c.pc)
    (ready : bridging c'.pc = true → bridging c.pc = true ∨ pending c.pc = some []) :
    Bytes (s.setClient i c') :=
  bytes_setClient bytes found took pc fun _ told => told.goes received owed ready

/-- The client's goroutine writes to the connection. -/
theorem bytes_write (placed : Placed cfg s) (bytes : Bytes s) (at_k : s.agents[k]? = some a)
    (found : s.clients[i]? = some c) (holds : c.pc.slot = some k) (took : c'.took = c.took)
    (pc : c'.pc ≠ .taking) (told : Told a c → Told a' c') :
    Bytes ((s.setAgent k a').setClient i c') := by
  have has : c.took = some k := placed.holding c (mem_of_getElem? found) k holds
  have mine : c' ∈ s.clients.set i c' := mem_of_getElem? (at_set_self found)
  refine ⟨fun j b at_j free => ?_, fun x member j b had at_j => ?_, fun x member taking => ?_⟩
  · rcases at_set at_j with ⟨rfl, rfl⟩ | ⟨-, at_j⟩
    · exact absurd (took.trans has) (free c' mine)
    refine bytes.said j b at_j fun x member => ?_
    obtain ⟨m, at_m⟩ := mem_iff_getElem?.mp member
    by_cases same : m = i
    · subst same
      cases found.symm.trans at_m
      rw [← took]
      exact free c' mine
    · exact free x (mem_of_getElem? (at_set_other same at_m))
  · obtain ⟨m, at_m⟩ := mem_iff_getElem?.mp member
    rcases at_set at_m with ⟨rfl, rfl⟩ | ⟨other, at_m⟩
    · cases (took.trans has).symm.trans had
      rcases at_set at_j with ⟨-, rfl⟩ | ⟨apart, -⟩
      · exact told (bytes.told c (mem_of_getElem? found) k a has at_k)
      · exact absurd rfl apart
    · rcases at_set at_j with ⟨rfl, rfl⟩ | ⟨-, at_j⟩
      · exact absurd (placed.once j m i x c at_m found had has) other
      · exact bytes.told x (mem_of_getElem? at_m) j b had at_j
  · rcases mem_or_eq_of_mem_set member with old | rfl
    · exact bytes.fresh x old taking
    · exact absurd taking pc

theorem bytes_prune (bytes : Bytes s) (device : Text) : Bytes (s.prune cfg device) where
  said k b at_k free := by
    rw [agents_prune] at at_k
    obtain ⟨a, found, rfl⟩ := map_eq_some_iff.mp at_k
    have said := bytes.said k a found free
    split
    · exact said.still rfl rfl rfl rfl
    · exact said
  told c member k b took at_k := by
    rw [agents_prune] at at_k
    obtain ⟨a, found, rfl⟩ := map_eq_some_iff.mp at_k
    have told := bytes.told c member k a took found
    split
    · exact told.still told.silent rfl rfl
    · exact told
  fresh := bytes.fresh

theorem bytes_park (placed : Placed cfg s) (bytes : Bytes s) (found : s.agents[k]? = some a)
    (at_ : a.pc = .parking) : Bytes (s.park cfg k a) := by
  have out : outside a.pc = true := by rw [at_]; rfl
  have pruned : Bytes (s.prune cfg a.device) := bytes_prune bytes a.device
  have found' : (s.prune cfg a.device).agents[k]? = some a :=
    prune_unparked found (outside_queue placed found out a.device)
  have free := outside_untaken placed found out
  have parking : a.announced = false ∧ a.written = (Message.challenge a.challenge).encode := by
    cases bytes.said k a found free with
    | challenging at' => cases at_.symm.trans at'
    | asked at' new sent => exact ⟨new, sent⟩
    | rejecting at' => cases at_.symm.trans at'
    | announcing at' => cases at_.symm.trans at'
    | silent at' =>
      rw [at_] at at'
      cases at'
  unfold System.park
  dsimp only
  split
  · refine bytes_setAgent pruned found' (fun _ _ => ?_) fun c member took => ?_
    · refine .rejecting rfl parking.1 (.inl rfl) ?_
      exact congrArg (· ++ _) parking.2
    · exact absurd took (free c member)
  · refine bytes_setAgent ⟨pruned.said, pruned.told, pruned.fresh⟩ found' (fun _ _ => ?_)
      fun c member took => ?_
    · refine .announcing rfl parking.1 ?_
      exact congrArg (· ++ _) parking.2
    · exact absurd took (free c member)

/-- A client takes a connection that has been sent the waiting message. -/
theorem bytes_give (placed : Placed cfg s) (bytes : Bytes s) (found : s.clients[i]? = some c)
    (at_ : c.pc = .taking) (member : k ∈ s.queue device)
    (announced : ∀ a, s.agents[k]? = some a → a.announced = true) :
    Bytes (s.setClient i { c with pc := .readying k Message.ready.encode, took := some k }) where
  said j a at_j free := by
    refine bytes.said j a at_j fun x hx => ?_
    obtain ⟨m, at_m⟩ := mem_iff_getElem?.mp hx
    by_cases same : m = i
    · subst same
      cases found.symm.trans at_m
      rw [(bytes.fresh c hx at_).1]
      rintro ⟨⟩
    · exact free x (mem_of_getElem? (at_set_other same at_m))
  told x hx j a has at_j := by
    rcases mem_or_eq_of_mem_set hx with old | rfl
    · exact bytes.told x old j a has at_j
    cases has
    obtain ⟨silent, whole⟩ :=
      (bytes.said k a at_j (placed.untaken device k member)).announced (announced a at_j)
    have none := (bytes.fresh c (mem_of_getElem? found) at_).2
    refine ⟨silent, ?_, ?_, ?_, by rintro ⟨⟩⟩
    · exact whole ▸ prefix_rfl
    · rw [whole, append_assoc]
      exact prefix_append _ _
    · rintro - ⟨⟩
      rw [whole, none, append_nil]
  fresh x hx taking := by
    rcases mem_or_eq_of_mem_set hx with old | rfl
    · exact bytes.fresh x old taking
    · cases taking

/-- The goroutine that has parked the connection writes only as long as nobody has taken it. -/
theorem bytes_speak (bytes : Bytes s) (found : s.agents[k]? = some a) (speaks : mute a.pc = false)
    (said : Said a → Said a') : Bytes (s.setAgent k a') := by
  refine bytes_setAgent bytes found (fun _ => said) fun c member took told => ?_
  cases speaks.symm.trans told.silent

theorem bytes_over (bytes : Bytes s) (found : s.agents[k]? = some a) (pc : mute a'.pc = true)
    (challenge : a'.challenge = a.challenge) (written : a'.written = a.written)
    (announced : a'.announced = a.announced) : Bytes (s.setAgent k a') :=
  bytes_setAgent bytes found (fun _ said => said.past pc challenge written announced)
    fun _ _ _ told => told.still pc challenge written

theorem said_challenge (said : Said a) (at_ : a.pc = .challenging rest)
    (round : progress a.closed rest n fails = some p) :
    Said { a with
      written := a.written ++ rest.take n, pc := p.then .challenging .reading .closing } := by
  cases said with
  | challenging at' new sent =>
    cases at_.symm.trans at'
    cases p with
    | failed =>
      refine .silent rfl (fun done => nomatch new.symm.trans done) (.inl ?_)
      change a.written ++ rest.take n <+: _ ++ _
      rw [← sent, append_assoc a.written]
      refine (prefix_append_right_inj _).mpr ?_
      exact ( take_prefix n rest).trans (prefix_append _ _)
    | more =>
      refine .challenging rfl new ?_
      rw [append_assoc, progress_more round]
      exact sent
    | all =>
      refine .asked (.inl rfl) new ?_
      rw [progress_all round]
      exact sent
  | asked at' => rcases at' with at' | at' <;> cases at_.symm.trans at'
  | rejecting at' => cases at_.symm.trans at'
  | announcing at' => cases at_.symm.trans at'
  | silent at' =>
    rw [at_] at at'
    cases at'

theorem said_reject (said : Said a) (at_ : a.pc = .rejecting rest)
    (round : progress a.closed rest n fails = some p) :
    Said { a with
      written := a.written ++ rest.take n, pc := p.then .rejecting .closing .closing } := by
  cases said with
  | challenging at' => cases at_.symm.trans at'
  | asked at' => rcases at' with at' | at' <;> cases at_.symm.trans at'
  | rejecting at' new rejection sent =>
    cases at_.symm.trans at'
    have part : a.written ++ rest.take n <+: a.written ++ rest :=
      (prefix_append_right_inj _).mpr ( take_prefix n rest)
    cases p with
    | more =>
      refine .rejecting rfl new rejection ?_
      rw [append_assoc, progress_more round]
      exact sent
    | _ =>
      exact .silent rfl (fun done => nomatch new.symm.trans done) (.inr ⟨_, rejection, sent ▸ part⟩)
  | announcing at' => cases at_.symm.trans at'
  | silent at' =>
    rw [at_] at at'
    cases at'

theorem said_announce {now : Int} (said : Said a) (at_ : a.pc = .announcing rest)
    (round : progress a.closed rest n fails = some p) :
    Said { a with
      written := a.written ++ rest.take n, pc := p.then .announcing (.selecting now) .removing,
      announced := decide (p = .all) } := by
  cases said with
  | challenging at' => cases at_.symm.trans at'
  | asked at' => rcases at' with at' | at' <;> cases at_.symm.trans at'
  | rejecting at' => cases at_.symm.trans at'
  | announcing at' _ sent =>
    cases at_.symm.trans at'
    have part : a.written ++ rest.take n <+: a.written ++ rest :=
      (prefix_append_right_inj _).mpr ( take_prefix n rest)
    cases p with
    | failed => exact .silent rfl (by rintro ⟨⟩) (.inl (sent ▸ part))
    | more =>
      refine .announcing rfl rfl ?_
      rw [append_assoc, progress_more round]
      exact sent
    | all =>
      refine .silent rfl (fun _ => ?_) (.inl (sent ▸ part))
      rw [progress_all round]
      exact sent
  | silent at' =>
    rw [at_] at at'
    cases at'

/-- The registration has been read. -/
theorem said_asked (said : Said a) (at_ : a.pc = .reading) :
    a.announced = false ∧ a.written = (Message.challenge a.challenge).encode := by
  cases said with
  | challenging at' => cases at_.symm.trans at'
  | asked at' new sent => exact ⟨new, sent⟩
  | rejecting at' => cases at_.symm.trans at'
  | announcing at' => cases at_.symm.trans at'
  | silent at' =>
    rw [at_] at at'
    cases at'

theorem bytes_agent (placed : Placed cfg s) (bytes : Bytes s) (found : s.agents[k]? = some a)
    (moves : AgentMoves cfg s k a input s') : Bytes s' := by
  cases moves with
  | challenge at_ round =>
    exact bytes_speak bytes found (by rw [at_]; rfl) fun said => said_challenge said at_ round
  | admitted at_ =>
    refine bytes_speak bytes found (by rw [at_]; rfl) fun said => ?_
    obtain ⟨new, sent⟩ := said_asked said at_
    exact .asked (.inr rfl) new sent
  | drop | wake | expire | close => exact bytes_over bytes found rfl rfl rfl rfl
  | @refuse why at_ =>
    refine bytes_speak bytes found (by rw [at_]; rfl) fun said => ?_
    obtain ⟨new, sent⟩ := said_asked said at_
    exact .rejecting rfl new (.inr ⟨why, rfl⟩) (congrArg (· ++ _) sent)
  | reject at_ round =>
    exact bytes_speak bytes found (by rw [at_]; rfl) fun said => said_reject said at_ round
  | park at_ => exact bytes_park placed bytes found at_
  | announce at_ round =>
    exact bytes_speak bytes found (by rw [at_]; rfl) fun said => said_announce said at_ round
  | remove =>
    exact bytes_over ⟨bytes.said, bytes.told, bytes.fresh⟩ found rfl rfl rfl rfl

theorem bytes_client (placed : Placed cfg s) (bytes : Bytes s) (found : s.clients[i]? = some c)
    (first : announcedFirst cfg s (.client i input) = true)
    (moves : ClientMoves cfg s i c input s') : Bytes s' := by
  cases moves with
  | invalid | reject | lost | past =>
    exact bytes_goes bytes found rfl (by rintro ⟨⟩) rfl (.inl rfl) (by rintro ⟨⟩)
  | unavailable at_ take =>
    rcases take_inv take with ⟨-, rfl⟩ | ⟨_, _, impossible, -⟩
    · exact bytes_goes (bytes_prune bytes _) found rfl (by rintro ⟨⟩) rfl (.inl rfl) (by rintro ⟨⟩)
    · cases impossible
  | @take s' k at_ take =>
    simp only [announcedFirst, found, all_some, at_, ne_eq, not_true_eq_false, decide_false,
      Bool.false_or, take] at first
    rcases take_inv take with ⟨impossible, -⟩ | ⟨_, rest, same, queue, rfl⟩
    · cases impossible
    cases same
    have pruned : Bytes (s.prune cfg c.device) := bytes_prune bytes c.device
    have member : k ∈ (s.prune cfg c.device).queue c.device := by
      rw [queue]
      exact mem_cons_self
    have given := bytes_give (placed_prune placed c.device) pruned found at_ member
      fun b at_k => by
        rw [agents_prune] at at_k
        obtain ⟨a, found, rfl⟩ := map_eq_some_iff.mp at_k
        rw [found, all_some] at first
        split <;> exact first
    exact ⟨given.said, given.told, given.fresh⟩
  | @ready k n rest fails a p at_ at_k round =>
    refine bytes_write placed bytes at_k found (by rw [at_]; rfl) rfl (by cases p <;> rintro ⟨⟩)
      fun told => told.wrote (by rw [at_]; rfl) rfl (fun later left => ?_) ?_
    · cases p with
      | failed => cases left
      | more =>
        cases left
        exact progress_more round
      | all =>
        cases left
        rw [append_nil]
        exact progress_all round
    · cases p <;> rintro ⟨⟩
  | greet at_ =>
    refine bytes_goes bytes found rfl (by rintro ⟨⟩) rfl (.inr ?_) fun _ => .inr ?_
    · rw [at_]
      rfl
    · rw [at_]
      rfl
  | close at_ at_k | finish at_ at_k =>
    exact bytes_goes (bytes_still bytes at_k rfl rfl rfl rfl) found rfl nofun rfl (.inl rfl) nofun
  | @read k other data at_ =>
    refine bytes_setClient bytes found rfl (by rintro ⟨⟩) fun a told => ?_
    have whole := told.owed [] (by rw [at_]; rfl)
    rw [append_nil] at whole
    refine ⟨told.silent, told.begun, ?_, ?_, fun _ => told.ready (by rw [at_]; rfl)⟩
    · rw [← append_assoc, ← whole]
      exact prefix_append _ _
    · rintro rest ⟨⟩
      rw [← append_assoc, ← whole]
  | silent at_ =>
    refine bytes_goes bytes found rfl (by rintro ⟨⟩) rfl (.inl rfl) fun _ => .inl ?_
    rw [at_]
    rfl
  | @copy k n other fails data a p at_ at_k round =>
    refine bytes_write placed bytes at_k found (by rw [at_]; rfl) rfl (by rintro ⟨⟩)
      fun told => told.wrote (by rw [at_]; rfl) rfl (fun later left => ?_) fun _ => by rw [at_]; rfl
    cases p with
    | all =>
      cases left
      rw [append_nil]
      exact progress_all round
    | _ => cases left
  | @otherEnd k copy at_ =>
    refine bytes_goes bytes found rfl (by rintro ⟨⟩) rfl (.inr ?_) fun _ => .inl ?_
    · rw [at_]
      cases copy <;> rfl
    · rw [at_]
      rfl

theorem bytes_accept (placed : Placed cfg s) (bytes : Bytes s) {b : Agent} (said : Said b) :
    Bytes { s with agents := s.agents ++ [b] } where
  said j a at_j free := by
    rcases at_push at_j with old | ⟨-, rfl⟩
    · exact bytes.said j a old free
    · exact said
  told c member j a took at_j := by
    -- A client has taken one of the connections that were there.
    obtain ⟨a', found, -⟩ := placed.inside c member j took
    cases (at_push_old found).symm.trans at_j
    exact bytes.told c member j a took found
  fresh := bytes.fresh

theorem bytes_connect (bytes : Bytes s) {d : Client} (took : d.took = none)
    (received : d.received = []) : Bytes { s with clients := s.clients ++ [d] } where
  said k a found free :=
    bytes.said k a found fun c member => free c (mem_append_left _ member)
  told c member k a has found := by
    rcases mem_append.mp member with old | new
    · exact bytes.told c old k a has found
    · cases mem_singleton.mp new
      cases took.symm.trans has
  fresh c member taking := by
    rcases mem_append.mp member with old | new
    · exact bytes.fresh c old taking
    · cases mem_singleton.mp new
      exact ⟨took, received⟩

theorem bytes_step {act : Action} (placed : Placed cfg s) (bytes : Bytes s)
    (first : announcedFirst cfg s act = true) (h : step cfg s act = some s') : Bytes s' := by
  cases act with
  | tick =>
    cases h
    exact ⟨bytes.said, bytes.told, bytes.fresh⟩
  | accept _ challenge =>
    cases h
    refine bytes_accept placed bytes ?_
    by_cases large : maxMessage < (Message.challenge challenge).data.length
    · rw [if_pos large]
      exact .silent rfl (by rintro ⟨⟩) (.inl nil_prefix)
    · rw [if_neg large]
      exact .challenging rfl rfl (nil_append _)
  | agent =>
    obtain ⟨a, found, moved⟩ := bind_eq_some_iff.mp h
    exact bytes_agent placed bytes found (agentMoves_of_step moved)
  | connect =>
    cases h
    exact bytes_connect bytes rfl rfl
  | client =>
    obtain ⟨c, found, moved⟩ := bind_eq_some_iff.mp h
    exact bytes_client placed bytes found first (clientMoves_of_step moved)

end Parts

/-- The agent is sent the challenge and the waiting message or an error; once a client has the
connection, it is sent the ready message after these, and then what the client has sent. -/
theorem agent_bytes (cfg : Config) (now : Int) (acts : List Action) (s : System)
    (first : Meets (step cfg) (announcedFirst cfg · · = true) (start now) acts)
    (run : exec (step cfg) (start now) acts = some s) (k : Nat) (a : Agent)
    (found : s.agents[k]? = some a) :
    ((∀ c ∈ s.clients, c.took ≠ some k) → (a.written <+: opening a ∨ Rejected a) ∧
      (a.announced = true → a.written = opening a)) ∧
    ∀ c ∈ s.clients, c.took = some k →
      opening a <+: a.written ∧ a.written <+: opening a ++ Message.ready.encode ++ c.received ∧
      (∀ copy other, c.pc = .bridging k copy other →
        opening a ++ Message.ready.encode <+: a.written) ∧
      ∀ other, c.pc = .bridging k .reading other →
        a.written = opening a ++ Message.ready.encode ++ c.received := by
  have begun : Placed cfg (start now) ∧ Bytes (start now) :=
    ⟨placed_start cfg now, ⟨nofun, nofun, nofun⟩⟩
  obtain ⟨-, bytes⟩ := exec_invariant (fun s => Placed cfg s ∧ Bytes s)
    (fun s act s' inv ok h => ⟨placed_step inv.1 h, bytes_step inv.1 inv.2 ok h⟩) begun first run
  refine ⟨fun free => ?_, fun c member took => ?_⟩
  · have said := bytes.said k a found free
    exact ⟨said.sent, fun done => (said.announced done).2⟩
  have told := bytes.told c member k a took found
  refine ⟨told.begun, told.within, fun copy other at_ => told.ready (by rw [at_]; rfl),
    fun other at_ => ?_⟩
  have whole := told.owed [] (by rw [at_]; rfl)
  rw [append_nil] at whole
  exact whole

/-- The agent's connection is parked. -/
def parked : List Action :=
  [.accept sampleDevice sampleChallenge,
    .agent 0 (.wrote (Message.challenge sampleChallenge).encode.length false),
    .agent 0 .go, .agent 0 .go]

/-- The waiting message is written in two parts; then a client comes. -/
def session : List Action :=
  parked ++ ([.agent 0 (.wrote 4 false), .agent 0 (.wrote 18 false), .connect sampleDevice,
    .client 0 .go, .client 0 (.wrote 20 false), .client 0 .go, .client 0 (.bytes [1, 2, 3]),
    .client 0 (.wrote 3 false)] : List Action)

theorem agent_bytes_session :
    ∃ s a, exec (step (newBroker 8 0)) (start 0) session = some s ∧ s.agents[0]? = some a ∧
      s.clients.map (·.took) = [some 0] ∧
      ∀ c ∈ s.clients, c.took = some 0 → opening a <+: a.written ∧
          a.written <+: opening a ++ Message.ready.encode ++ c.received := by
  have reached : (exec (step (newBroker 8 0)) (start 0) session).any (fun s =>
      s.agents[0]?.isSome && decide (s.clients.map (·.took) = [some 0])) = true := by
    decide +kernel
  obtain ⟨s, run, state⟩ := (Option.any_eq_true _ _).mp reached
  obtain ⟨present, took⟩ := (and_eq_true _ _).mp state
  obtain ⟨a, found⟩ := isSome_iff_exists.mp present
  have first : Meets (step (newBroker 8 0)) (announcedFirst (newBroker 8 0) · · = true) (start 0)
      session := by
    decide +kernel
  refine ⟨s, a, run, found, of_decide_eq_true took, fun c member has => ?_⟩
  obtain ⟨begun, within, -⟩ :=
    (agent_bytes (newBroker 8 0) 0 session s first run 0 a found).2 c member has
  exact ⟨begun, within⟩

/-- A client comes before the waiting message is written. -/
def hurried : List Action :=
  parked ++ ([.connect sampleDevice, .client 0 .go, .client 0 (.wrote 20 false), .client 0 .go,
    .client 0 (.bytes [1, 2, 3]), .client 0 (.wrote 3 false), .agent 0 (.wrote 22 false)] :
      List Action)

/-- The agent reads that it is ready, then the client's bytes, and then that it waits. -/
theorem waiting_after_ready : ∃ s, exec (step (newBroker 8 0)) (start 0) hurried = some s ∧
      s.agents.map (·.written) = [(Message.challenge sampleChallenge).encode ++
        Message.ready.encode ++ [1, 2, 3] ++ Message.waiting.encode] := by
  have reached : (exec (step (newBroker 8 0)) (start 0) hurried).any (fun s =>
      decide (s.agents.map (·.written) = [(Message.challenge sampleChallenge).encode ++
        Message.ready.encode ++ [1, 2, 3] ++ Message.waiting.encode])) = true := by
    decide +kernel
  obtain ⟨s, run, state⟩ := (Option.any_eq_true _ _).mp reached
  exact ⟨s, run, of_decide_eq_true state⟩

end RelayBytes
