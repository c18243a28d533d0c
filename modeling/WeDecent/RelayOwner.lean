import WeDecent.RelaySlots

/-!
# Who closes a parked connection

Once a client has taken a connection it is the client's to close. But the goroutine that has parked
it closes it too when its six minutes are over or the waiting message fails, and whether a client
has taken the slot by then it does not ask.
-/

namespace RelayOwner

open List Option Exclusion Relay RelaySlots Runs

/-- The goroutine waits, or writes the waiting message. -/
def present : AgentPc → Bool
  | .announcing _ | .selecting _ => true
  | _ => false

/-- The goroutine is about to close the connection. -/
def leaving : AgentPc → Bool
  | .removing | .closing => true
  | _ => false

/-- Neither the timer nor the waiting message ends the wait for a slot that a client has, and no
client takes a slot that its goroutine is about to close. -/
def orderly (cfg : Config) (s : System) : Action → Bool
  | .agent k input => s.agents[k]?.all fun a =>
    match a.pc, input with
    | .announcing _, .wrote n fails => (!fails && decide (n ≠ 0)) || (s.owner k).isNone
    | .selecting _, .fail => (s.owner k).isNone
    | _, _ => true
  | .client i .go => s.clients[i]?.all fun c =>
    decide (c.pc ≠ .taking) || (s.take cfg c.device).2.all fun k =>
      s.agents[k]?.all fun a => present a.pc
  | _ => true

/-- Closed by the client that has it -/
def Rightful (a : Agent) : Prop := ∀ x ∈ a.closes, ∀ i, x.owner = some i → x.closer = .client i

structure Owned (s : System) : Prop where
  clear : ∀ (k : Nat) a, s.agents[k]? = some a → leaving a.pc = true → ∀ c ∈ s.clients,
    c.pc.slot ≠ some k
  rightful : ∀ a ∈ s.agents, Rightful a

section Parts

variable {cfg : Config} {s s' : System} {device : Text} {k i : Nat} {a a' : Agent} {c c' : Client}
  {input : Input}

theorem owner_none : s.owner k = none ↔ ∀ c ∈ s.clients, c.pc.slot ≠ some k := by
  simp [System.owner, findIdx?_eq_none_iff, decide_eq_false_iff_not]

theorem owner_some (h : s.owner k = some i) : ∃ c, s.clients[i]? = some c ∧ c.pc.slot = some k := by
  obtain ⟨bound, holds, -⟩ := findIdx?_eq_some_iff_getElem.mp h
  exact ⟨_, List.getElem?_eq_getElem bound, of_decide_eq_true holds⟩

/-- The client that holds a slot is its owner. -/
theorem owner_unique (placed : Placed cfg s) (found : s.clients[i]? = some c)
    (holds : c.pc.slot = some k) (j : Nat) (owner : s.owner k = some j) : j = i := by
  obtain ⟨d, found', holds'⟩ := owner_some owner
  exact placed.once k j i d c found' found (placed.holding d (mem_of_getElem? found') k holds')
    (placed.holding c (mem_of_getElem? found) k holds)

/-- An agent's slot is not taken before it is parked. -/
theorem unowned_outside (placed : Placed cfg s) (found : s.agents[k]? = some a)
    (out : outside a.pc = true) (c : Client) (member : c ∈ s.clients) : c.pc.slot ≠ some k := by
  intro holds
  exact outside_untaken placed found out c member (placed.holding c member k holds)

/-- Nobody has a slot that is in a queue. -/
theorem unowned_queued (placed : Placed cfg s) (member : k ∈ s.queue device) :
    s.owner k = none := by
  rw [owner_none]
  intro c hc holds
  exact placed.untaken device k member c hc (placed.holding c hc k holds)

theorem rightful_close (h : Rightful a) {x : Close}
    (own : ∀ i, x.owner = some i → x.closer = .client i) : Rightful (a.close x) := by
  intro y member i owner
  rcases mem_append.mp member with old | new
  · exact h y old i owner
  · cases mem_singleton.mp new
    exact own i owner

theorem owned_setAgent (owned : Owned s)
    (leaves : leaving a'.pc = true → ∀ c ∈ s.clients, c.pc.slot ≠ some k)
    (rightful : Rightful a') : Owned (s.setAgent k a') where
  clear j b at_j goes := by
    rcases Cells.at_set at_j with ⟨rfl, rfl⟩ | ⟨-, at_j⟩
    · exact leaves goes
    · exact owned.clear j b at_j goes
  rightful b member := by
    rcases mem_or_eq_of_mem_set member with old | rfl
    · exact owned.rightful b old
    · exact rightful

/-- What does not move the goroutine -/
theorem owned_still (owned : Owned s) (found : s.agents[k]? = some a) (pc : a'.pc = a.pc)
    (rightful : Rightful a') : Owned (s.setAgent k a') :=
  owned_setAgent owned (fun goes => owned.clear k a found (pc ▸ goes)) rightful

theorem owned_setClient (owned : Owned s)
    (slot : ∀ k, c'.pc.slot = some k → (∃ c ∈ s.clients, c.pc.slot = some k) ∨
      ∀ a, s.agents[k]? = some a → leaving a.pc = false) :
    Owned (s.setClient i c') where
  clear k b at_k goes x hx holds := by
    rcases mem_or_eq_of_mem_set hx with old | rfl
    · exact owned.clear k b at_k goes x old holds
    · rcases slot k holds with ⟨c, member, had⟩ | stays
      · exact owned.clear k b at_k goes c member had
      · cases (stays b at_k).symm.trans goes
  rightful := owned.rightful

/-- The client goes on with the slot that it has. -/
theorem owned_keep (owned : Owned s) (found : s.clients[i]? = some c)
    (slot : ∀ k, c'.pc.slot = some k → c.pc.slot = some k) : Owned (s.setClient i c') :=
  owned_setClient owned fun k holds => .inl ⟨c, mem_of_getElem? found, slot k holds⟩

theorem owned_prune (placed : Placed cfg s) (owned : Owned s) (device : Text) :
    Owned (s.prune cfg device) where
  clear k b at_k goes := by
    obtain ⟨a, found, pc⟩ := agent_of_prune at_k
    exact owned.clear k a found (pc ▸ goes)
  rightful b member := by
    obtain ⟨k, at_k⟩ := mem_iff_getElem?.mp member
    rw [agents_prune] at at_k
    obtain ⟨a, found, rfl⟩ := map_eq_some_iff.mp at_k
    have rightful := owned.rightful a (mem_of_getElem? found)
    split
    · rename_i pruned
      have free := unowned_queued placed (mem_filter.mp pruned).1
      exact rightful_close rightful fun i owner => nomatch free.symm.trans owner
    · exact rightful

theorem owned_park (placed : Placed cfg s) (owned : Owned s) (found : s.agents[k]? = some a) :
    Owned (s.park cfg k a) := by
  have pruned := owned_prune placed owned a.device
  have rightful := owned.rightful a (mem_of_getElem? found)
  unfold System.park
  dsimp only
  split
  · exact owned_setAgent pruned (by rintro ⟨⟩) rightful
  · exact owned_setAgent ⟨pruned.clear, pruned.rightful⟩ (by rintro ⟨⟩) rightful

/-- Before the slot is parked, the goroutine has the connection for itself. -/
theorem owned_unparked (placed : Placed cfg s) (owned : Owned s) (found : s.agents[k]? = some a)
    (out : outside a.pc = true) (closes : a'.closes = a.closes) : Owned (s.setAgent k a') := by
  refine owned_setAgent owned (fun _ => unowned_outside placed found out) ?_
  rw [Rightful, closes]
  exact owned.rightful a (mem_of_getElem? found)

theorem progress_failed {closed fails : Bool} {rest : List UInt8} {n : Nat}
    (h : progress closed rest n fails = some .failed) : (!fails && decide (n ≠ 0)) = false := by
  unfold progress at h
  split_ifs at h with impossible failed
  · rcases failed with rfl | rfl
    · rfl
    · exact Bool.and_false _
  · cases h
  · cases h

theorem owned_agent (placed : Placed cfg s) (owned : Owned s) (found : s.agents[k]? = some a)
    (quiet : orderly cfg s (.agent k input) = true) (moves : AgentMoves cfg s k a input s') :
    Owned s' := by
  have rightful := owned.rightful a (mem_of_getElem? found)
  simp only [orderly, found, all_some] at quiet
  cases moves with
  | challenge at_ | admitted at_ | drop at_ | refuse at_ | reject at_ =>
    exact owned_unparked placed owned found (by rw [at_]; rfl) rfl
  | park => exact owned_park placed owned found
  | @announce rest n fails p at_ round =>
    simp only [at_] at quiet
    refine owned_setAgent owned (fun goes => ?_) rightful
    cases p with
    | failed =>
      rw [progress_failed round, Bool.false_or] at quiet
      exact owner_none.mp (isNone_iff_eq_none.mp quiet)
    | _ => cases goes
  | wake => exact owned_setAgent owned (by rintro ⟨⟩) rightful
  | expire at_ =>
    simp only [at_] at quiet
    refine owned_setAgent owned (fun _ => ?_) rightful
    exact owner_none.mp (isNone_iff_eq_none.mp quiet)
  | remove at_ =>
    refine owned_setAgent ⟨owned.clear, owned.rightful⟩ (fun _ => ?_) rightful
    exact owned.clear k a found (by rw [at_]; rfl)
  | close at_ =>
    have free : s.owner k = none := owner_none.mpr (owned.clear k a found (by rw [at_]; rfl))
    refine owned_setAgent owned (by rintro ⟨⟩) (rightful_close rightful fun i owner => ?_)
    cases free.symm.trans owner

theorem present_stays {pc : AgentPc} (h : present pc = true) : leaving pc = false := by
  cases pc <;> first | rfl | cases h

theorem owned_client (placed : Placed cfg s) (owned : Owned s) (found : s.clients[i]? = some c)
    (quiet : orderly cfg s (.client i input) = true) (moves : ClientMoves cfg s i c input s') :
    Owned s' := by
  cases moves with
  | invalid => exact owned_keep owned found nofun
  | unavailable at_ take =>
    rcases take_inv take with ⟨-, rfl⟩ | ⟨_, _, impossible, -⟩
    · exact owned_keep (owned_prune placed owned _) found nofun
    · cases impossible
  | take at_ take =>
    simp only [orderly, found, all_some, at_, ne_eq, not_true_eq_false, decide_false,
      Bool.false_or, take] at quiet
    rcases take_inv take with ⟨impossible, -⟩ | ⟨k, rest, same, queue, rfl⟩
    · cases impossible
    cases same
    have pruned := owned_prune placed owned c.device
    refine owned_setClient ⟨pruned.clear, pruned.rightful⟩ fun j slot => .inr fun b at_j => ?_
    cases slot
    obtain ⟨a, found, pc⟩ := agent_of_prune at_j
    rw [found, all_some] at quiet
    rw [pc]
    exact present_stays quiet
  | reject => exact owned_keep owned found nofun
  | @ready k n rest fails a p at_ at_k round =>
    have rightful := owned.rightful a (mem_of_getElem? at_k)
    refine owned_keep (owned_still owned at_k rfl rightful) found fun j slot => ?_
    rw [at_]
    cases p <;> exact slot
  | greet at_ | lost at_ | read at_ | silent at_ | otherEnd at_ | past at_ =>
    exact owned_keep owned found fun j slot => by rw [at_]; exact slot
  | @close k a at_ at_k =>
    have holds : c.pc.slot = some k := by rcases at_ with at_ | at_ <;> rw [at_] <;> rfl
    have rightful : Rightful (a.close ⟨.client i, s.owner k⟩) := by
      refine rightful_close (owned.rightful a (mem_of_getElem? at_k)) fun j owner => ?_
      rw [owner_unique placed found holds j owner]
    exact owned_keep (owned_still owned at_k rfl rightful) found fun j slot => holds.trans slot
  | @copy k n other fails data a p at_ at_k round =>
    have rightful := owned.rightful a (mem_of_getElem? at_k)
    refine owned_keep (owned_still owned at_k rfl rightful) found fun j slot => ?_
    rw [at_]
    exact slot
  | @finish k a at_ at_k =>
    have rightful := owned.rightful a (mem_of_getElem? at_k)
    exact owned_keep (owned_still owned at_k rfl rightful) found nofun

theorem owned_accept (placed : Placed cfg s) (owned : Owned s) {b : Agent}
    (closes : b.closes = []) : Owned { s with agents := s.agents ++ [b] } where
  clear j a at_j goes c member holds := by
    rcases Cells.at_push at_j with old | ⟨rfl, rfl⟩
    · exact owned.clear j a old goes c member holds
    · -- The slot of a new connection has not been given to anyone.
      obtain ⟨a, found, -⟩ := placed.inside c member _ (placed.holding c member _ holds)
      exact absurd (List.getElem?_eq_some_iff.mp found).1 (Nat.lt_irrefl _)
  rightful a member := by
    rcases mem_append.mp member with old | new
    · exact owned.rightful a old
    · cases mem_singleton.mp new
      rw [Rightful, closes]
      exact forall_mem_nil _

theorem owned_connect (owned : Owned s) {d : Client} (slot : d.pc.slot = none) :
    Owned { s with clients := s.clients ++ [d] } where
  clear k a found goes c member holds := by
    rcases mem_append.mp member with old | new
    · exact owned.clear k a found goes c old holds
    · cases mem_singleton.mp new
      cases slot.symm.trans holds
  rightful := owned.rightful

theorem owned_step {act : Action} (placed : Placed cfg s) (owned : Owned s)
    (quiet : orderly cfg s act = true) (h : step cfg s act = some s') : Owned s' := by
  cases act with
  | tick =>
    cases h
    exact ⟨owned.clear, owned.rightful⟩
  | accept =>
    cases h
    exact owned_accept placed owned rfl
  | agent =>
    obtain ⟨a, found, moved⟩ := bind_eq_some_iff.mp h
    exact owned_agent placed owned found quiet (agentMoves_of_step moved)
  | connect =>
    cases h
    exact owned_connect owned rfl
  | client =>
    obtain ⟨c, found, moved⟩ := bind_eq_some_iff.mp h
    exact owned_client placed owned found quiet (clientMoves_of_step moved)

end Parts

/-- A parked connection goes to one client at most, no device has too many of them, and while
`handleConnect` has a connection nobody else closes it. -/
theorem slot_ownership (cfg : Config) (now : Int) (acts : List Action) (s : System)
    (quiet : Meets (step cfg) (orderly cfg · · = true) (start now) acts)
    (run : exec (step cfg) (start now) acts = some s) :
    (∀ (i j : Nat) c d k, s.clients[i]? = some c → s.clients[j]? = some d → c.took = some k →
      d.took = some k → i = j) ∧
    (∀ device, (s.queue device).length ≤ cfg.maxSlotsPerDevice) ∧
    ∀ a ∈ s.agents, ∀ x ∈ a.closes, ∀ i, x.owner = some i → x.closer = .client i := by
  have begun : Placed cfg (start now) ∧ Owned (start now) :=
    ⟨placed_start cfg now, ⟨nofun, nofun⟩⟩
  obtain ⟨placed, owned⟩ := exec_invariant (fun s => Placed cfg s ∧ Owned s)
    (fun s act s' inv ok h => ⟨placed_step inv.1 h, owned_step inv.1 inv.2 ok h⟩) begun quiet run
  exact ⟨fun i j c d k at_i at_j => placed.once k i j c d at_i at_j, placed.bounded, owned.rightful⟩

/-- The agent's connection is parked, and a client gets it. -/
def connected : List Action :=
  [.accept sampleDevice sampleChallenge,
    .agent 0 (.wrote (Message.challenge sampleChallenge).encode.length false),
    .agent 0 .go, .agent 0 .go, .agent 0 (.wrote Message.waiting.encode.length false),
    .connect sampleDevice, .client 0 .go, .client 0 (.wrote Message.ready.encode.length false),
    .client 0 .go, .client 0 (.bytes [1, 2, 3]), .client 0 (.wrote 3 false)]

/-- Two clients ask for the device, and the second finds no connection. The agent hangs up, which
ends the first client's session. -/
def session : List Action :=
  connected ++ ([.connect sampleDevice, .client 1 .go, .client 0 .go, .client 0 .fail,
    .client 0 .go, .client 0 .go, .client 0 .go, .agent 0 .go] : List Action)

theorem slot_ownership_session : ∃ s, exec (step (newBroker 8 0)) (start 0) session = some s ∧
      (s.clients.map (·.took) = [some 0, none] ∧
        s.agents.map (·.closes) = [[⟨.client 0, some 0⟩]]) ∧
      ∀ a ∈ s.agents, ∀ x ∈ a.closes, ∀ i, x.owner = some i → x.closer = .client i := by
  have reached : (exec (step (newBroker 8 0)) (start 0) session).any (fun s =>
      decide (s.clients.map (·.took) = [some 0, none] ∧
        s.agents.map (·.closes) = [[⟨.client 0, some 0⟩]])) = true := by
    decide +kernel
  obtain ⟨s, run, state⟩ := (Option.any_eq_true _ _).mp reached
  have quiet : Meets (step (newBroker 8 0)) (orderly (newBroker 8 0) · · = true) (start 0)
      session := by
    decide +kernel
  exact ⟨s, run, of_decide_eq_true state,
    (slot_ownership (newBroker 8 0) 0 session s quiet run).2.2⟩

/-- After six minutes the connection of a session is closed by the goroutine that has parked it. -/
theorem session_cut_off : ∃ s, exec (step (newBroker 8 0)) (start 0)
        (connected ++ [.tick 360000000000, .agent 0 .fail, .agent 0 .go, .agent 0 .go]) = some s ∧
      s.clients.map (·.pc) = [.bridging 0 .reading false] ∧
      s.agents.map (·.closes) = [[⟨.registering, some 0⟩]] := by
  have reached : (exec (step (newBroker 8 0)) (start 0)
      (connected ++ [.tick 360000000000, .agent 0 .fail, .agent 0 .go, .agent 0 .go])).any
        (fun s => decide (s.clients.map (·.pc) = [.bridging 0 .reading false] ∧
          s.agents.map (·.closes) = [[⟨.registering, some 0⟩]])) = true := by
    decide +kernel
  obtain ⟨s, run, state⟩ := (Option.any_eq_true _ _).mp reached
  exact ⟨s, run, of_decide_eq_true state⟩

end RelayOwner
