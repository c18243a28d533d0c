import WeDecent.Library.Exclusion
import WeDecent.Relay

/-!
# Where the parked connections are

A slot is in the queue of its device, once, from the time it is parked until it is taken, removed or
pruned; a slot that has been taken is in no queue again, and one client at most has taken it.
-/

namespace RelaySlots

open List Option Cells Exclusion Relay

/-- The slot has not been in a queue. -/
def outside : AgentPc → Bool
  | .challenging _ | .reading | .parking | .rejecting _ => true
  | _ => false

/-- The slot may be in a queue. -/
def queued : AgentPc → Bool
  | .announcing _ | .selecting _ | .removing => true
  | _ => false

/-- An agent whose slot is in the queue of the device -/
structure Parked (device : Text) (a : Agent) : Prop where
  device : a.device = device
  queued : queued a.pc = true
  waits : a.done = false

/-- Where the slots are: each in the queue of its device, or with one client. -/
structure Placed (cfg : Config) (s : System) : Prop where
  parked : ∀ device, ∀ k ∈ s.queue device, ∃ a, s.agents[k]? = some a ∧ Parked device a
  distinct : ∀ device, (s.queue device).Nodup
  bounded : ∀ device, (s.queue device).length ≤ cfg.maxSlotsPerDevice
  untaken : ∀ device, ∀ k ∈ s.queue device, ∀ c ∈ s.clients, c.took ≠ some k
  once : ∀ k, Alone (fun c => c.took = some k) s.clients
  holding : ∀ c ∈ s.clients, ∀ k, c.pc.slot = some k → c.took = some k
  inside : ∀ c ∈ s.clients, ∀ k, c.took = some k → ∃ a, s.agents[k]? = some a ∧ outside a.pc = false
  idle : ∀ (k : Nat) a, s.agents[k]? = some a → outside a.pc = true → a.done = false

section Parts

variable {cfg : Config} {s s' : System} {device : Text} {k i : Nat} {a a' : Agent} {c c' : Client}
  {input : Input}

theorem queued_inside {pc : AgentPc} (h : queued pc = true) : outside pc = false := by
  cases pc <;> first | rfl | cases h

theorem parked_at (placed : Placed cfg s) (found : s.agents[k]? = some a) {d : Text}
    (member : k ∈ s.queue d) : Parked d a := by
  obtain ⟨a₀, found₀, parked⟩ := placed.parked d k member
  cases found.symm.trans found₀
  exact parked

/-- A slot is in the queue of its device only. -/
theorem same_device (placed : Placed cfg s) {d d' : Text} (member : k ∈ s.queue d)
    (member' : k ∈ s.queue d') : d = d' := by
  obtain ⟨a, found, parked⟩ := placed.parked d k member
  exact parked.device.symm.trans (parked_at placed found member').device

section

variable (placed : Placed cfg s) (found : s.agents[k]? = some a)

include placed found

theorem inside_at (member : c ∈ s.clients) (took : c.took = some k) : outside a.pc = false := by
  obtain ⟨a₀, found₀, inside⟩ := placed.inside c member k took
  cases found.symm.trans found₀
  exact inside

/-- A slot that has not been parked is in no queue. -/
theorem outside_queue (out : outside a.pc = true) (d : Text) : k ∉ s.queue d := by
  intro member
  cases (queued_inside (parked_at placed found member).queued).symm.trans out

theorem outside_untaken (out : outside a.pc = true) (c : Client) (member : c ∈ s.clients) :
    c.took ≠ some k := by
  intro took
  cases out.symm.trans (inside_at placed found member took)

end

theorem placed_setAgent (placed : Placed cfg s) (found : s.agents[k]? = some a)
    (device : a'.device = a.device)
    (stays : ∀ d, k ∈ s.queue d → queued a'.pc = true ∧ a'.done = false)
    (out : outside a'.pc = true → outside a.pc = true ∧ a'.done = a.done) :
    Placed cfg (s.setAgent k a') where
  parked d j member := by
    obtain ⟨b, at_j, parked⟩ := placed.parked d j member
    by_cases same : j = k
    · subst same
      cases found.symm.trans at_j
      obtain ⟨queued, waits⟩ := stays d member
      exact ⟨a', at_set_self found, device.trans parked.device, queued, waits⟩
    · exact ⟨b, at_set_other same at_j, parked⟩
  distinct := placed.distinct
  bounded := placed.bounded
  untaken := placed.untaken
  once := placed.once
  holding := placed.holding
  inside c member j took := by
    obtain ⟨b, at_j, inside⟩ := placed.inside c member j took
    by_cases same : j = k
    · subst same
      cases found.symm.trans at_j
      refine ⟨a', at_set_self found, eq_false_of_ne_true fun outside => ?_⟩
      cases inside.symm.trans (out outside).1
    · exact ⟨b, at_set_other same at_j, inside⟩
  idle j b at_j outside := by
    rcases at_set at_j with ⟨rfl, rfl⟩ | ⟨-, at_j⟩
    · rw [(out outside).2]
      exact placed.idle j a found (out outside).1
    · exact placed.idle j b at_j outside

theorem placed_setClient (placed : Placed cfg s) (found : s.clients[i]? = some c)
    (took : c'.took = c.took) (slot : ∀ k, c'.pc.slot = some k → c.pc.slot = some k) :
    Placed cfg (s.setClient i c') where
  parked := placed.parked
  distinct := placed.distinct
  bounded := placed.bounded
  untaken d k member x hx := by
    rcases mem_or_eq_of_mem_set hx with old | rfl
    · exact placed.untaken d k member x old
    · rw [took]
      exact placed.untaken d k member c (mem_of_getElem? found)
  once k := alone_set (placed.once k) found fun has => .inl (took ▸ has)
  holding x hx k holds := by
    rcases mem_or_eq_of_mem_set hx with old | rfl
    · exact placed.holding x old k holds
    · rw [took]
      exact placed.holding c (mem_of_getElem? found) k (slot k holds)
  inside x hx k has := by
    rcases mem_or_eq_of_mem_set hx with old | rfl
    · exact placed.inside x old k has
    · exact placed.inside c (mem_of_getElem? found) k (took ▸ has)
  idle := placed.idle

/-- Slots leave a queue. -/
theorem placed_shrink (placed : Placed cfg s) {q : List Nat} (sub : q.Sublist (s.queue device)) :
    Placed cfg (s.setQueue device q) := by
  have within (d : Text) : ((s.setQueue device q).queue d).Sublist (s.queue d) := by
    by_cases same : d = device
    · subst same
      rw [queue_setQueue_self]
      exact sub
    · rw [queue_setQueue_other same]
  exact {
    parked := fun d k member => placed.parked d k ((within d).subset member)
    distinct := fun d => (placed.distinct d).sublist (within d)
    bounded := fun d => (within d).length_le.trans (placed.bounded d)
    untaken := fun d k member => placed.untaken d k ((within d).subset member)
    once := placed.once
    holding := placed.holding
    inside := placed.inside
    idle := placed.idle }

theorem pruned_away (placed : Placed cfg s)
    (pruned : k ∈ (s.queue device).filter (s.expired cfg)) (d : Text) :
    k ∉ (s.prune cfg device).queue d := by
  intro member
  by_cases same : d = device
  · subst same
    rw [queue_prune_self] at member
    have kept := (mem_filter.mp member).2
    rw [(mem_filter.mp pruned).2] at kept
    cases kept
  · rw [queue_prune_other same] at member
    exact same (same_device placed member (mem_filter.mp pruned).1)

theorem agent_of_prune {b : Agent} (at_k : (s.prune cfg device).agents[k]? = some b) :
    ∃ a, s.agents[k]? = some a ∧ b.pc = a.pc := by
  rw [agents_prune] at at_k
  obtain ⟨a, found, rfl⟩ := map_eq_some_iff.mp at_k
  refine ⟨a, found, ?_⟩
  split <;> rfl

theorem prune_unparked (found : s.agents[k]? = some a) (absent : k ∉ s.queue device) :
    (s.prune cfg device).agents[k]? = some a := by
  rw [agents_prune, found, map_some, if_neg]
  exact fun pruned => absent (mem_filter.mp pruned).1

theorem placed_prune (placed : Placed cfg s) (device : Text) : Placed cfg (s.prune cfg device) := by
  have within (d : Text) : ((s.prune cfg device).queue d).Sublist (s.queue d) := by
    by_cases same : d = device
    · subst same
      rw [queue_prune_self]
      exact filter_sublist
    · rw [queue_prune_other same]
  exact {
    parked := fun d k member => by
      obtain ⟨a, found, parked⟩ := placed.parked d k ((within d).subset member)
      refine ⟨a, ?_, parked⟩
      rw [agents_prune, found, map_some, if_neg fun pruned => pruned_away placed pruned d member]
    distinct := fun d => (placed.distinct d).sublist (within d)
    bounded := fun d => (within d).length_le.trans (placed.bounded d)
    untaken := fun d k member => placed.untaken d k ((within d).subset member)
    once := placed.once
    holding := placed.holding
    inside := fun c member k took => by
      obtain ⟨a, found, inside⟩ := placed.inside c member k took
      refine ⟨_, (agents_prune k).trans (congrArg _ found), ?_⟩
      split <;> exact inside
    idle := fun k b at_k out => by
      obtain ⟨a, found, pc⟩ := agent_of_prune at_k
      have absent := outside_queue placed found (pc ▸ out) device
      cases at_k.symm.trans (prune_unparked found absent)
      exact placed.idle k b found out }

section

variable (placed : Placed cfg s) (found : s.agents[k]? = some a)

include placed found

theorem placed_push (out : outside a.pc = true) (room :
    (s.queue a.device).length < cfg.maxSlotsPerDevice)
    (parked : Parked a.device a') :
    Placed cfg ((s.setQueue a.device (s.queue a.device ++ [k])).setAgent k a') := by
  have absent := outside_queue placed found out
  have self : ((s.setQueue a.device (s.queue a.device ++ [k])).setAgent k a').queue a.device =
      s.queue a.device ++ [k] := queue_setQueue_self
  have other (d : Text) (h : d ≠ a.device) :
      ((s.setQueue a.device (s.queue a.device ++ [k])).setAgent k a').queue d = s.queue d :=
    queue_setQueue_other h
  have queue (d : Text) (j : Nat) (member : j ∈
      ((s.setQueue a.device (s.queue a.device ++ [k])).setAgent k a').queue d) :
      j ∈ s.queue d ∨ (j = k ∧ d = a.device) := by
    by_cases same : d = a.device
    · subst same
      rw [self, mem_append, mem_singleton] at member
      exact member.imp id fun last => ⟨last, rfl⟩
    · rw [other d same] at member
      exact .inl member
  exact {
    parked := fun d j member => by
      rcases queue d j member with old | ⟨rfl, rfl⟩
      · obtain ⟨b, at_j, held⟩ := placed.parked d j old
        have other : j ≠ k := fun same => absent d (same ▸ old)
        exact ⟨b, at_set_other other at_j, held⟩
      · exact ⟨a', at_set_self found, parked⟩
    distinct := fun d => by
      by_cases same : d = a.device
      · subst same
        rw [self]
        refine nodup_append.mpr ⟨placed.distinct _, nodup_singleton k, ?_⟩
        rintro j old _ new rfl
        exact absent a.device (mem_singleton.mp new ▸ old)
      · rw [other d same]
        exact placed.distinct d
    bounded := fun d => by
      by_cases same : d = a.device
      · subst same
        rw [self, length_append, length_singleton]
        exact room
      · rw [other d same]
        exact placed.bounded d
    untaken := fun d j member c hc took => by
      rcases queue d j member with old | ⟨rfl, -⟩
      · exact placed.untaken d j old c hc took
      · exact outside_untaken placed found out c hc took
    once := placed.once
    holding := placed.holding
    inside := fun c hc j took => by
      obtain ⟨b, at_j, inside⟩ := placed.inside c hc j took
      have other : j ≠ k := fun same => outside_untaken placed found out c hc (same ▸ took)
      exact ⟨b, at_set_other other at_j, inside⟩
    idle := fun j b at_j outside => by
      rcases at_set at_j with ⟨rfl, rfl⟩ | ⟨-, at_j⟩
      · exact parked.waits
      · exact placed.idle j b at_j outside }

theorem placed_park (at_ : a.pc = .parking) : Placed cfg (s.park cfg k a) := by
  have out : outside a.pc = true := by rw [at_]; rfl
  have pruned := placed_prune placed a.device
  have found' : (s.prune cfg a.device).agents[k]? = some a :=
    prune_unparked found (outside_queue placed found out a.device)
  unfold System.park
  dsimp only
  split
  · refine placed_setAgent pruned found' rfl (fun d member => ?_) fun _ => ⟨out, rfl⟩
    exact absurd member (outside_queue pruned found' out d)
  · rename_i room
    exact placed_push pruned found' out (Nat.lt_of_not_le room)
      ⟨rfl, rfl, placed.idle k a found out⟩

theorem placed_remove :
    Placed cfg ((s.remove a.device k).setAgent k { a with pc := .closing }) := by
  have shrunk : Placed cfg (s.remove a.device k) := placed_shrink placed erase_sublist
  refine placed_setAgent shrunk found rfl (fun d member => ?_) (by rintro ⟨⟩)
  have same := (parked_at shrunk found member).device
  subst same
  rw [System.remove, queue_setQueue_self] at member
  exact absurd member (placed.distinct a.device).not_mem_erase

end

/-- What `Take` does to the queues -/
theorem take_inv {result : Option Nat} (h : s.take cfg device = (s', result)) :
    (result = none ∧ s' = s.prune cfg device) ∨
      ∃ k rest, result = some k ∧ (s.prune cfg device).queue device = k :: rest ∧
        s' = (s.prune cfg device).setQueue device rest := by
  unfold System.take at h
  dsimp only at h
  split at h
  · cases h
    exact .inl ⟨rfl, rfl⟩
  · rename_i k rest queue
    cases h
    exact .inr ⟨k, rest, rfl, queue, rfl⟩

/-- A client takes the first slot of the queue. -/
theorem placed_give (placed : Placed cfg s) (found : s.clients[i]? = some c) {rest : List Nat}
    (queue : s.queue device = k :: rest) (slot : ∀ j, c'.pc.slot = some j → j = k)
    (took : c'.took = some k) : Placed cfg ((s.setQueue device rest).setClient i c') := by
  have first : k ∈ s.queue device := by
    rw [queue]
    exact mem_cons_self
  have shrunk : Placed cfg (s.setQueue device rest) :=
    placed_shrink placed (by rw [queue]; exact sublist_cons_self k rest)
  have away (d : Text) : k ∉ (s.setQueue device rest).queue d := by
    intro member
    by_cases same : d = device
    · subst same
      rw [queue_setQueue_self] at member
      have distinct := placed.distinct d
      rw [queue] at distinct
      exact (nodup_cons.mp distinct).1 member
    · rw [queue_setQueue_other same] at member
      exact same (same_device placed member first)
  exact {
    parked := shrunk.parked
    distinct := shrunk.distinct
    bounded := shrunk.bounded
    untaken := fun d j member x hx has => by
      rcases mem_or_eq_of_mem_set hx with old | rfl
      · exact shrunk.untaken d j member x old has
      · cases took.symm.trans has
        exact away d member
    once := fun j => by
      refine alone_set (placed.once j) found fun has => .inr fun n x _ at_n had => ?_
      cases took.symm.trans has
      exact placed.untaken device k first x (mem_of_getElem? at_n) had
    holding := fun x hx j holds => by
      rcases mem_or_eq_of_mem_set hx with old | rfl
      · exact placed.holding x old j holds
      · rw [took, slot j holds]
    inside := fun x hx j has => by
      rcases mem_or_eq_of_mem_set hx with old | rfl
      · exact placed.inside x old j has
      · cases took.symm.trans has
        obtain ⟨a, found, parked⟩ := placed.parked device k first
        exact ⟨a, found, queued_inside parked.queued⟩
    idle := placed.idle }

section

variable (placed : Placed cfg s)

include placed

/-- Before the slot is parked, the goroutine has the connection for itself. -/
theorem placed_unparked (found : s.agents[k]? = some a)
    (out : outside a.pc = true) (device : a'.device = a.device) (done : a'.done = a.done) :
    Placed cfg (s.setAgent k a') := by
  refine placed_setAgent placed found device (fun d member => ?_) fun _ => ⟨out, done⟩
  exact absurd member (outside_queue placed found out d)

/-- What does not move the goroutine -/
theorem placed_still (found : s.agents[k]? = some a) (pc : a'.pc = a.pc)
    (device : a'.device = a.device) (done : a'.done = a.done) :
    Placed cfg (s.setAgent k a') := by
  refine placed_setAgent placed found device (fun d member => ?_) fun out => ⟨pc ▸ out, done⟩
  have parked := parked_at placed found member
  rw [pc, done]
  exact ⟨parked.queued, parked.waits⟩

theorem placed_agent (found : s.agents[k]? = some a)
    (moves : AgentMoves cfg s k a input s') : Placed cfg s' := by
  cases moves with
  | challenge at_ | admitted at_ | drop at_ | refuse at_ | reject at_ =>
    exact placed_unparked placed found (by rw [at_]; rfl) rfl rfl
  | park at_ => exact placed_park placed found at_
  | @announce rest n fails p at_ round =>
    refine placed_setAgent placed found rfl (fun d member => ⟨?_, ?_⟩) (fun out => ?_)
    · cases p <;> rfl
    · exact (parked_at placed found member).waits
    · cases p <;> cases out
  | wake at_ done =>
    refine placed_setAgent placed found rfl (fun d member => ?_) (by rintro ⟨⟩)
    cases (parked_at placed found member).waits.symm.trans done
  | expire =>
    refine placed_setAgent placed found rfl (fun d member => ?_) (by rintro ⟨⟩)
    exact ⟨rfl, (parked_at placed found member).waits⟩
  | remove => exact placed_remove placed found
  | close at_ =>
    refine placed_setAgent placed found rfl (fun d member => ?_) (by rintro ⟨⟩)
    have queued := (parked_at placed found member).queued
    rw [at_] at queued
    cases queued

theorem placed_client (found : s.clients[i]? = some c)
    (moves : ClientMoves cfg s i c input s') : Placed cfg s' := by
  cases moves with
  | invalid => exact placed_setClient placed found rfl nofun
  | unavailable at_ take =>
    rcases take_inv take with ⟨-, rfl⟩ | ⟨_, _, impossible, -⟩
    · exact placed_setClient (placed_prune placed _) found rfl nofun
    · cases impossible
  | take at_ take =>
    rcases take_inv take with ⟨impossible, -⟩ | ⟨_, rest, same, queue, rfl⟩
    · cases impossible
    · cases same
      refine placed_give (placed_prune placed _) found queue (fun j slot => ?_) rfl
      exact (Option.some.inj slot).symm
  | reject => exact placed_setClient placed found rfl nofun
  | @ready k n rest fails a p at_ at_k round =>
    refine placed_setClient (placed_still placed at_k rfl rfl rfl) found rfl fun j slot => ?_
    rw [at_]
    cases p <;> exact slot
  | greet at_ | lost at_ | read at_ | silent at_ | otherEnd at_ | past at_ =>
    exact placed_setClient placed found rfl fun j slot => by rw [at_]; exact slot
  | close at_ at_k =>
    refine placed_setClient (placed_still placed at_k rfl rfl rfl) found rfl fun j slot => ?_
    rcases at_ with at_ | at_ <;> rw [at_] <;> exact slot
  | copy at_ at_k =>
    refine placed_setClient (placed_still placed at_k rfl rfl rfl) found rfl fun j slot => ?_
    rw [at_]
    exact slot
  | @finish k a at_ at_k =>
    have member := mem_of_getElem? found
    have took := placed.holding c member k (by rw [at_]; rfl)
    refine placed_setClient (placed_setAgent placed at_k rfl (fun d queued => ?_) fun out => ?_)
      found rfl nofun
    · exact absurd took (placed.untaken d k queued c member)
    · cases (inside_at placed at_k member took).symm.trans out

theorem placed_accept {b : Agent} (done : b.done = false) :
    Placed cfg { s with agents := s.agents ++ [b] } where
  parked d j member := by
    obtain ⟨a, at_j, parked⟩ := placed.parked d j member
    exact ⟨a, at_push_old at_j, parked⟩
  distinct := placed.distinct
  bounded := placed.bounded
  untaken := placed.untaken
  once := placed.once
  holding := placed.holding
  inside c member j took := by
    obtain ⟨a, at_j, inside⟩ := placed.inside c member j took
    exact ⟨a, at_push_old at_j, inside⟩
  idle j a at_j out := by
    rcases at_push at_j with old | ⟨-, rfl⟩
    · exact placed.idle j a old out
    · exact done

theorem placed_connect {d : Client} (took : d.took = none)
    (slot : d.pc.slot = none) : Placed cfg { s with clients := s.clients ++ [d] } where
  parked := placed.parked
  distinct := placed.distinct
  bounded := placed.bounded
  untaken device k member x hx has := by
    rcases mem_append.mp hx with old | new
    · exact placed.untaken device k member x old has
    · cases mem_singleton.mp new
      cases took.symm.trans has
  once k := alone_push (placed.once k) fun has => nomatch took.symm.trans has
  holding x hx k holds := by
    rcases mem_append.mp hx with old | new
    · exact placed.holding x old k holds
    · cases mem_singleton.mp new
      cases slot.symm.trans holds
  inside x hx k has := by
    rcases mem_append.mp hx with old | new
    · exact placed.inside x old k has
    · cases mem_singleton.mp new
      cases took.symm.trans has
  idle := placed.idle

theorem placed_step {act : Action} (h : step cfg s act = some s') : Placed cfg s' := by
  cases act with
  | tick =>
    cases h
    exact ⟨placed.parked, placed.distinct, placed.bounded, placed.untaken, placed.once,
      placed.holding, placed.inside, placed.idle⟩
  | accept =>
    cases h
    exact placed_accept placed rfl
  | agent =>
    obtain ⟨a, found, moved⟩ := bind_eq_some_iff.mp h
    exact placed_agent placed found (agentMoves_of_step moved)
  | connect =>
    cases h
    exact placed_connect placed rfl rfl
  | client =>
    obtain ⟨c, found, moved⟩ := bind_eq_some_iff.mp h
    exact placed_client placed found (clientMoves_of_step moved)

end

theorem placed_start (cfg : Config) (now : Int) : Placed cfg (start now) where
  parked _ _ member := nomatch member
  distinct _ := nodup_nil
  bounded _ := Nat.zero_le _
  untaken _ _ member := nomatch member
  once _ := alone_nil
  holding _ member := nomatch member
  inside _ member := nomatch member
  idle _ _ found := nomatch found

end Parts

end RelaySlots
