import WeDecent.CloudRelay
import WeDecent.Library.Exclusion
import WeDecent.Library.Runs

/-!
# Pairs of sockets at the cloud relay

Whatever happens between the steps of an admission, the sockets that name a peer are matched one to
one. The chain of promises lets one admission at a time past its wait, so that the agent that one
has chosen is still free when it attaches the client, even if it is no longer open by then.
-/

namespace CloudPairing

open Bool List Option Cells CloudRelay Exclusion JavaScript Pairing Runs

universe u v

/-- Admissions come one after the other. -/
structure Chained (calls : List Call) (clientAdmission : Option Nat) : Prop where
  previous : ∀ (n : Nat) c, calls[n + 1]? = some c → c.previous = some n
  last : ∀ n, calls.length = n + 1 → clientAdmission = some n
  turn : InTurn (fun c => c.pc = .waiting) (fun c => c.pc.released = true) calls

structure Sound {Id : Type u} {Message : Type v} (s : State Id Message) : Prop where
  paired : Paired s.entries
  chained : Chained s.calls s.clientAdmission
  chosen : ∀ c ∈ s.calls, ∀ k, c.pc.agent = some k →
    ∃ e, s.entries[k]? = some e ∧ e.side = true ∧ e.peer = none
  listed : ∀ x ∈ s.sockets, x.readyState = .opened → x.listed = true
  sent : ∀ m ∈ s.sent, Linked s.entries m.source m.target
  retired : ∀ c ∈ s.closes, c.closer = .retiring → c.peerId = none
  apart : ∀ i ∈ s.parted, ∃ (j : Nat) (y : Socket Id), Linked s.entries i j ∧
    s.sockets[j]? = some y ∧ y.readyState ≠ .opened

section Invariant

variable {Id : Type u} {Message : Type v} {s s' : State Id Message} {order : List Nat}
  {k n code : Nat} {x : Socket Id} {c : Call} {id : Id} {reason : Text} {closer : Closer}

theorem sound_quiet (sound : Sound s) (quiet : Quiet s.sockets s'.sockets)
    (calls : s'.calls = s.calls) (admission : s'.clientAdmission = s.clientAdmission)
    (sent : ∀ m ∈ s'.sent, m ∈ s.sent ∨ Linked s.entries m.source m.target)
    (retired : ∀ c ∈ s'.closes, c ∈ s.closes ∨ (c.closer = .retiring → c.peerId = none))
    (apart : ∀ i ∈ s'.parted, i ∈ s.parted ∨ ∃ (j : Nat) (y : Socket Id), Linked s.entries i j ∧
      s'.sockets[j]? = some y ∧ y.readyState ≠ .opened) : Sound s' where
  paired := by
    rw [State.entries, quiet.entries]
    exact sound.paired
  chained := by
    rw [calls, admission]
    exact sound.chained
  chosen := by
    rw [calls, State.entries, quiet.entries]
    exact sound.chosen
  listed y member opened := by
    obtain ⟨k, at_k⟩ := mem_iff_getElem?.mp member
    obtain ⟨x, found⟩ := quiet.before at_k
    obtain ⟨before, same⟩ := (quiet.socket k x y found at_k).2 opened
    exact same.trans (sound.listed x (mem_of_getElem? found) before)
  sent m member := by
    rw [State.entries, quiet.entries]
    rcases sent m member with old | new
    · exact sound.sent m old
    · exact new
  retired c member := by
    rcases retired c member with old | new
    · exact sound.retired c old
    · exact new
  apart i member := by
    rw [State.entries, quiet.entries]
    rcases apart i member with old | new
    · obtain ⟨j, x, linked, found, shut⟩ := sound.apart i old
      obtain ⟨y, found', -, opened⟩ := quiet.at found
      exact ⟨j, y, linked, found', fun now => shut (opened now).1⟩
    · exact new

theorem sound_close (sound : Sound s)
    (single : closer = .retiring → s.sockets[k]?.bind (·.attachment.peerId) = none) :
    Sound (s.close closer k code reason) := by
  refine sound_quiet sound (quiet_close s.sockets k) rfl rfl (fun m => .inl)
    (fun c member => ?_) fun i => .inl
  rcases mem_append.mp member with old | new
  · exact .inl old
  · cases mem_singleton.mp new
    exact .inr single

theorem close_shut {l : List (Socket Id)} (found : l[k]? = some x) :
    ∃ y, (l.modify k Socket.close)[k]? = some y ∧ y.readyState ≠ .opened := by
  refine ⟨_, at_modify_of found, ?_⟩
  rw [if_pos rfl]
  unfold Socket.close
  split
  · nofun
  · assumption

theorem retire_quiet (s : State Id Message) (slot : Number) (k : Nat) :
    Quiet s.sockets (s.retire slot k).sockets := by
  unfold State.retire
  split
  · split
    · exact quiet_close s.sockets k
    · exact .refl _
  · exact .refl _

theorem sound_retire {slot : Number} (sound : Sound s) : Sound (s.retire slot k) := by
  unfold State.retire
  split
  · rename_i found
    split
    · rename_i superseded
      obtain ⟨free, -⟩ := (and_eq_true _ _).mp superseded
      obtain ⟨-, single⟩ := (and_eq_true _ _).mp free
      refine sound_close sound fun _ => ?_
      rw [found]
      exact isNone_iff_eq_none.mp single
    · exact sound
  · exact sound

theorem sound_retireAll (slot : Number) (sound : Sound s) (ks : List Nat) :
    Sound (ks.foldl (fun s k => s.retire slot k) s) ∧
      Quiet s.sockets (ks.foldl (fun s k => s.retire slot k) s).sockets := by
  induction ks generalizing s with
  | nil => exact ⟨sound, .refl _⟩
  | cons k ks ih =>
    obtain ⟨later, quiet⟩ := ih (sound_retire sound)
    exact ⟨later, (retire_quiet s slot k).trans quiet⟩

theorem fresh_quiet {l : List (Socket Id)} (quiet : Quiet s.sockets l)
    (fresh : ∀ e ∈ s.entries, e.id ≠ id) : ∀ e ∈ l.map Socket.entry, e.id ≠ id := by
  rw [quiet.entries]
  exact fresh

/-- A socket without a peer comes. -/
theorem sound_push (sound : Sound s) (fresh : ∀ e ∈ s.entries, e.id ≠ x.attachment.id)
    (single : x.attachment.peerId = none) (listed : x.listed = true) :
    Sound { s with sockets := s.sockets ++ [x] } := by
  have entries : ({ s with sockets := s.sockets ++ [x] } : State Id Message).entries =
      s.entries ++ [x.entry] := map_append
  exact {
    paired := by
      rw [entries]
      exact paired_push sound.paired fresh single
    chained := sound.chained
    chosen := fun c member k has => by
      obtain ⟨e, found, free⟩ := sound.chosen c member k has
      rw [entries]
      exact ⟨e, at_push_old found, free⟩
    listed := fun y member opened => by
      rcases mem_append.mp member with old | new
      · exact sound.listed y old opened
      · cases mem_singleton.mp new
        exact listed
    sent := fun m member => by
      rw [entries]
      exact linked_push (sound.sent m member)
    retired := sound.retired
    apart := fun i member => by
      obtain ⟨j, y, linked, found, shut⟩ := sound.apart i member
      rw [entries]
      exact ⟨j, y, linked_push linked, at_push_old found, shut⟩ }

/-- Whoever has a peer keeps it. -/
def Keeps (s s' : State Id Message) : Prop :=
  ∀ (i : Nat) e p, s.entries[i]? = some e → e.peer = some p → s'.entries[i]? = some e

theorem keeps_quiet (quiet : Quiet s.sockets s'.sockets) : Keeps s s' := by
  intro i e p found names
  rw [State.entries, quiet.entries]
  exact found

theorem sound_calls {calls : List Call} {clientAdmission : Option Nat} (sound : Sound s)
    (chained : Chained calls clientAdmission)
    (chosen : ∀ c ∈ calls, ∀ k, c.pc.agent = some k →
      ∃ e, s.entries[k]? = some e ∧ e.side = true ∧ e.peer = none) :
    Sound { s with calls := calls, clientAdmission := clientAdmission } :=
  ⟨sound.paired, chained, chosen, sound.listed, sound.sent, sound.retired, sound.apart⟩

theorem sound_acceptClient (sound : Sound s) : Sound s.acceptClient := by
  refine sound_calls sound ⟨fun m c found => ?_, fun m length => ?_, ?_⟩ fun c member k has => ?_
  · rcases at_push found with old | ⟨last, rfl⟩
    · exact sound.chained.previous m c old
    · exact sound.chained.last m last.symm
  · rw [length_append, length_singleton] at length
    exact congrArg some (Nat.succ.inj length)
  · exact inTurn_push sound.chained.turn rfl
  · rcases mem_append.mp member with old | new
    · exact sound.chosen c old k has
    · cases mem_singleton.mp new
      cases has

theorem sound_setCall {pc : CallPc} (sound : Sound s) (found : s.calls[n]? = some c)
    (leaves : c.pc ≠ .waiting ∨ ∀ (j : Nat) d, j < n → s.calls[j]? = some d → d.pc.released = true)
    (stays : c.pc.released = false)
    (chosen : ∀ k, pc.agent = some k → ∃ e, s.entries[k]? = some e ∧ e.side = true ∧
      e.peer = none) : Sound (s.setCall n c pc) := by
  refine sound_calls sound ⟨fun m d at_d => ?_, fun m length => ?_, ?_⟩ fun d member k has => ?_
  · rcases at_set at_d with ⟨rfl, rfl⟩ | ⟨-, at_d⟩
    · exact sound.chained.previous m c found
    · exact sound.chained.previous m d at_d
  · rw [length_set] at length
    exact sound.chained.last m length
  · refine inTurn_set sound.chained.turn found (fun _ => leaves) fun released => ?_
    cases stays.symm.trans released
  · rcases mem_or_eq_of_mem_set member with old | rfl
    · exact sound.chosen d old k has
    · exact chosen k has

/-- An admission begins after the one before it. -/
theorem first_in_turn (sound : Sound s) (found : s.calls[n]? = some c)
    (before : c.previous.all (fun p => s.calls[p]?.any (·.pc.released)) = true) (j : Nat) (d : Call)
    (earlier : j < n) (at_j : s.calls[j]? = some d) : d.pc.released = true := by
  cases n with
  | zero => cases earlier
  | succ m =>
    rw [sound.chained.previous m c found, all_some] at before
    obtain ⟨p, at_m, released⟩ := (Option.any_eq_true _ _).mp before
    have started : ¬p.pc = .waiting := by
      intro waits
      rw [waits] at released
      cases released
    exact sound.chained.turn.before at_m started released (Nat.le_of_lt_succ earlier) at_j

theorem busy_of_agent {pc : CallPc} (h : pc.agent = some k) :
    ¬pc = .waiting ∧ ¬pc.released = true := by
  cases pc with
  | waiting => cases h
  | returning => cases h
  | returned => cases h
  | _ => exact ⟨by rintro ⟨⟩, by rintro ⟨⟩⟩

/-- Who has chosen an agent is alone. -/
theorem nobody_else (sound : Sound s) (found : s.calls[n]? = some c) (has : c.pc.agent = some k)
    {pc : CallPc} (gone : pc.agent = none) :
    ∀ d ∈ (s.setCall n c pc).calls, d.pc.agent = none := by
  intro d member
  obtain ⟨i, at_i⟩ := mem_iff_getElem?.mp member
  rcases at_set at_i with ⟨-, rfl⟩ | ⟨other, at_i⟩
  · exact gone
  cases chosen : d.pc.agent with
  | none => rfl
  | some =>
    exact absurd (busy_of_agent chosen)
      (sound.chained.turn.alone.out found (busy_of_agent has) other at_i)

theorem sound_attach (sound : Sound s) (found : s.sockets[k]? = some x)
    (agent : x.attachment.role = .agent) (single : x.attachment.peerId = none)
    (fresh : ∀ e ∈ s.entries, e.id ≠ id) (nobody : ∀ c ∈ s.calls, c.pc.agent = none) :
    Sound (s.attach k x id) ∧ Keeps s (s.attach k x id) := by
  have entries : (s.attach k x id).entries =
      join s.entries k x.entry ⟨id, false, some x.attachment.id⟩ := by
    change List.map Socket.entry (_ ++ _) = _
    rw [map_append, map_set]
    rfl
  have here := entries_at found
  have side : x.entry.side = true := decide_eq_true agent
  refine ⟨?_, fun i e p at_i names => ?_⟩
  · exact {
      paired := by
        rw [entries]
        refine paired_join sound.paired here single fresh rfl ?_
        rw [side]
        nofun
      chained := sound.chained
      chosen := fun c member k has => nomatch (nobody c member).symm.trans has
      listed := fun y member opened => by
        rcases mem_append.mp member with old | new
        · rcases mem_or_eq_of_mem_set old with old | rfl
          · exact sound.listed y old opened
          · exact sound.listed x (mem_of_getElem? found) opened
        · cases mem_singleton.mp new
          rfl
      sent := fun m member => by
        rw [entries]
        exact linked_join here single (sound.sent m member)
      retired := sound.retired
      apart := fun i member => by
        obtain ⟨j, y, linked, at_j, shut⟩ := sound.apart i member
        rw [entries]
        by_cases same : j = k
        · subst same
          cases found.symm.trans at_j
          exact ⟨j, x.setPeer id, linked_join here single linked,
            at_push_old (at_set_self found), shut⟩
        · exact ⟨j, y, linked_join here single linked, at_push_old (at_set_other same at_j), shut⟩ }
  · rw [entries]
    exact at_join here single at_i names

theorem findAgent_some (h : s.findAgent order = some k) :
    ∃ e, s.entries[k]? = some e ∧ e.side = true ∧ e.peer = none := by
  have here := find?_some h
  obtain ⟨x, found, free⟩ := (Option.any_eq_true _ _).mp here
  obtain ⟨opened, single⟩ := (and_eq_true _ _).mp free
  obtain ⟨-, agent⟩ := (and_eq_true _ _).mp opened
  exact ⟨x.entry, entries_at found, agent, isNone_iff_eq_none.mp single⟩

theorem sound_start : Sound (start : State Id Message) where
  paired := paired_nil
  chained := ⟨nofun, nofun, inTurn_nil⟩
  chosen := (forall_mem_nil _)
  listed := (forall_mem_nil _)
  sent := (forall_mem_nil _)
  retired := (forall_mem_nil _)
  apart := (forall_mem_nil _)

variable [DecidableEq Id]

theorem findSocket_some (h : s.findSocket order id = some k) :
    ∃ x, s.sockets[k]? = some x ∧ x.attachment.id = id := by
  have here := find?_some h
  obtain ⟨x, found, same⟩ := (Option.any_eq_true _ _).mp here
  exact ⟨x, found, of_decide_eq_true same⟩

theorem openPeer_some (h : s.openPeer order id = some k) :
    ∃ x, s.sockets[k]? = some x ∧ x.attachment.id = id := by
  obtain ⟨found, -⟩ := filter_eq_some_iff.mp h
  exact findSocket_some found

/-- A socket with the peer's id that is open is found. -/
theorem openPeer_none (sound : Sound s) (lists : s.lists order = true)
    (h : s.openPeer order id = none) (found : s.sockets[k]? = some x)
    (same : x.attachment.id = id) : x.readyState ≠ .opened := by
  intro opened
  have listed : s.sockets[k]?.any (·.listed) = true := by
    rw [found]
    exact sound.listed x (mem_of_getElem? found) opened
  have member : k ∈ order := by
    obtain ⟨-, all⟩ := (and_eq_true _ _).mp lists
    have here := List.all_eq_true.mp all k (mem_range.mpr (List.getElem?_eq_some_iff.mp found).1)
    rw [listed, Bool.not_true, Bool.false_or] at here
    exact of_decide_eq_true here
  have matching : s.sockets[k]?.any (fun x => decide (x.attachment.id = id)) = true := by
    rw [found]
    exact decide_eq_true same
  cases located : s.findSocket order id with
  | none => exact absurd matching (find?_eq_none.mp located k member)
  | some j =>
    obtain ⟨y, at_j, same'⟩ := findSocket_some located
    have index := sound.paired.distinct j k y.entry x.entry (entries_at at_j) (entries_at found)
      (same'.trans same.symm)
    subst index
    rw [State.openPeer, located, filter_some, found] at h
    simp [Socket.isOpen, opened] at h

/-- The peer of a socket is the one that is found. -/
theorem openPeer_linked (sound : Sound s) (found : s.sockets[n]? = some x)
    (names : x.attachment.peerId = some id) (h : s.openPeer order id = some k) :
    Linked s.entries n k := by
  obtain ⟨j, linked⟩ := sound.paired.linked n x.entry id (entries_at found) names
  obtain ⟨y, at_k, same⟩ := openPeer_some h
  obtain ⟨a, b, at_n, at_j, ab, ba, apart⟩ := linked
  cases (entries_at found).symm.trans at_n
  have index := sound.paired.distinct j k b y.entry at_j (entries_at at_k)
    (Option.some.inj (ab.symm.trans (names.trans (congrArg some same.symm))))
  subst index
  exact ⟨x.entry, b, at_n, at_j, ab, ba, apart⟩

theorem sound_message {message : Message} (sound : Sound s) (found : s.sockets[k]? = some x) :
    Sound (s.webSocketMessage order k x message) := by
  unfold State.webSocketMessage
  split
  · exact sound_close sound (by rintro ⟨⟩)
  rename_i names
  split
  · exact sound_close sound (by rintro ⟨⟩)
  rename_i located
  refine sound_quiet sound (.refl _) rfl rfl (fun m member => ?_) (fun c => .inl) fun i => .inl
  rcases mem_append.mp member with old | new
  · exact .inl old
  · cases mem_singleton.mp new
    exact .inr (openPeer_linked sound found names located)

theorem sound_part (sound : Sound s) (lists : s.lists order = true)
    (found : s.sockets[k]? = some x) : Sound (s.part order k x code reason) := by
  unfold State.part
  split
  · exact sound
  rename_i id names
  split
  · rename_i nobody
    obtain ⟨j, linked⟩ := sound.paired.linked k x.entry id (entries_at found) names
    have peers := linked
    obtain ⟨a, b, at_k, at_j, ab, -⟩ := peers
    cases (entries_at found).symm.trans at_k
    obtain ⟨y, here, rfl⟩ := at_entries at_j
    have same : y.attachment.id = id := Option.some.inj (ab.symm.trans names)
    refine sound_quiet sound (.refl _) rfl rfl (fun m => .inl) (fun c => .inl) fun i member => ?_
    rcases mem_append.mp member with old | new
    · exact .inl old
    · cases mem_singleton.mp new
      exact .inr ⟨j, y, linked, here, openPeer_none sound lists nobody here same⟩
  · rename_i peer located
    have linked := openPeer_linked sound found names located
    obtain ⟨y, here, -⟩ := openPeer_some located
    obtain ⟨z, after, shut⟩ := close_shut here
    refine sound_quiet sound (quiet_close s.sockets peer) rfl rfl (fun m => .inl)
      (fun c member => ?_) fun i member => ?_
    · rcases mem_append.mp member with old | new
      · exact .inl old
      · cases mem_singleton.mp new
        exact .inr (by rintro ⟨⟩)
    · rcases mem_append.mp member with old | new
      · exact .inl old
      · cases mem_singleton.mp new
        exact .inr ⟨peer, z, linked, after, shut⟩

theorem sound_handle {event : Event Message} (sound : Sound s) (lists : s.lists order = true)
    (found : s.sockets[k]? = some x) : Sound (s.handle order k x event) := by
  cases event with
  | message => exact sound_message sound found
  | _ => exact sound_part sound lists found

theorem fresh_entries (h : s.fresh id = true) : ∀ e ∈ s.entries, e.id ≠ id := by
  intro e member
  obtain ⟨x, here, rfl⟩ := List.mem_map.mp member
  exact of_decide_eq_true (List.all_eq_true.mp h x here)

theorem sound_acceptAgent {slot : Option Number} (sound : Sound s) (fresh : s.fresh id = true) :
    Sound (s.acceptAgent order slot id) ∧ Keeps s (s.acceptAgent order slot id) := by
  have retired : ∃ t, Sound t ∧ Quiet s.sockets t.sockets ∧ s.acceptAgent order slot id =
        { t with sockets := t.sockets ++ [⟨.agent, ⟨id, .agent, none, slot⟩, .opened, true⟩] } := by
    cases slot with
    | none => exact ⟨s, sound, .refl _, rfl⟩
    | some slot =>
      obtain ⟨later, quiet⟩ := sound_retireAll slot sound (s.getWebSockets order .agent)
      exact ⟨_, later, quiet, rfl⟩
  obtain ⟨t, later, quiet, same⟩ := retired
  rw [same]
  constructor
  · exact sound_push later (fresh_quiet quiet (fresh_entries fresh)) rfl rfl
  intro i e p found names
  have before := keeps_quiet quiet i e p found names
  change (List.map Socket.entry (t.sockets ++ _))[i]? = some e
  rw [map_append]
  exact at_push_old before

theorem sound_call {input : CallInput Id} (sound : Sound s) (found : s.calls[n]? = some c)
    (h : s.stepCall n c input = some s') : Sound s' ∧ Keeps s s' := by
  have still (t : State Id Message) (sockets : t.sockets = s.sockets) : Keeps s t := by
    refine keeps_quiet ?_
    rw [sockets]
    exact .refl _
  cases input with
  | resume =>
    simp only [State.stepCall, ite_none_right_eq_some] at h
    obtain ⟨⟨waits, -, before⟩, h⟩ := h
    cases h
    refine ⟨sound_setCall sound found (.inr (first_in_turn sound found before)) ?_ ?_, still _ rfl⟩
    · rw [waits]
      rfl
    intro k has
    split at has
    · cases has
    rename_i located
    split at has
    · cases has
      exact findAgent_some located
    · cases has
  | consumed =>
    simp only [State.stepCall] at h
    split at h
    · rename_i k at_
      cases h
      have chosen := sound.chosen c (mem_of_getElem? found) k (by rw [at_]; rfl)
      refine ⟨sound_setCall sound found (.inl (by rw [at_]; rintro ⟨⟩)) (by rw [at_]; rfl)
        fun j has => ?_, still _ rfl⟩
      split at has
      · cases has
        exact chosen
      · cases has
    · cases h
  | scheduled =>
    simp only [State.stepCall] at h
    split at h
    · rename_i k at_
      obtain ⟨x, here, h⟩ := bind_eq_some_iff.mp h
      split at h
      · rename_i fresh
        cases h
        have has : c.pc.agent = some k := by rw [at_]; rfl
        obtain ⟨e, at_k, side, single⟩ := sound.chosen c (mem_of_getElem? found) k has
        cases (entries_at here).symm.trans at_k
        have moved : Sound (s.setCall n c (.returning .attached)) := by
          exact sound_setCall sound found (.inl (by rw [at_]; nofun)) (by rw [at_]; rfl) nofun
        exact sound_attach moved here (of_decide_eq_true side) single (fresh_entries fresh)
          (nobody_else sound found has rfl)
      · cases h
    · cases h
  | throws =>
    simp only [State.stepCall] at h
    split at h
    · rename_i k at_
      cases h
      exact ⟨sound_setCall sound found (.inl (by rw [at_]; nofun)) (by rw [at_]; rfl) nofun,
        still _ rfl⟩
    · rename_i k at_
      cases h
      exact ⟨sound_setCall sound found (.inl (by rw [at_]; nofun)) (by rw [at_]; rfl) nofun,
        still _ rfl⟩
    · cases h
  | release =>
    simp only [State.stepCall] at h
    split at h
    · rename_i at_
      cases h
      exact ⟨sound_setCall sound found (.inl (by rw [at_]; nofun)) (by rw [at_]; rfl) nofun,
        still _ rfl⟩
    · cases h

theorem handle_quiet (s : State Id Message) (order : List Nat) (k : Nat) (x : Socket Id)
    (event : Event Message) : Quiet s.sockets (s.handle order k x event).sockets := by
  have part (code : Nat) (reason : Text) :
      Quiet s.sockets (s.part order k x code reason).sockets := by
    unfold State.part
    split
    · exact .refl _
    · dsimp only
      split
      · exact .refl _
      · exact quiet_close s.sockets _
  cases event with
  | message message =>
    change Quiet s.sockets (s.webSocketMessage order k x message).sockets
    unfold State.webSocketMessage
    split
    · exact quiet_close s.sockets k
    · split
      · exact quiet_close s.sockets k
      · exact .refl _
  | _ => exact part _ _

theorem sound_step {act : Action Id Message} (sound : Sound s) (h : step s act = some s') :
    Sound s' ∧ Keeps s s' := by
  cases act with
  | acceptAgent =>
    simp only [step, ite_none_right_eq_some] at h
    obtain ⟨⟨lists, fresh⟩, h⟩ := h
    cases h
    exact sound_acceptAgent sound fresh
  | acceptClient =>
    cases h
    exact ⟨sound_acceptClient sound, keeps_quiet (.refl _)⟩
  | call =>
    obtain ⟨c, found, moved⟩ := bind_eq_some_iff.mp h
    exact sound_call sound found moved
  | event order k event =>
    obtain ⟨x, found, h⟩ := bind_eq_some_iff.mp h
    simp only [ite_none_right_eq_some] at h
    obtain ⟨lists, h⟩ := h
    cases h
    exact ⟨sound_handle sound lists found, keeps_quiet (handle_quiet s order k x event)⟩
  | network k readyState listed =>
    obtain ⟨x, found, h⟩ := bind_eq_some_iff.mp h
    split at h
    · cases h
    rename_i shut
    cases h
    have quiet : Quiet s.sockets (s.sockets.set k
        { x with readyState := readyState, listed := x.listed && listed }) :=
      quiet_set found rfl fun opened => absurd opened shut
    exact ⟨sound_quiet sound quiet rfl rfl (fun m => .inl) (fun c => .inl) fun i => .inl,
      keeps_quiet quiet⟩
  | restart =>
    cases h
    exact ⟨sound_calls sound ⟨by simp, by simp, inTurn_nil⟩ (by simp), keeps_quiet (.refl _)⟩

theorem sound_run {acts : List (Action Id Message)} (sound : Sound s)
    (run : exec step s acts = some s') : Sound s' ∧ Keeps s s' := by
  induction acts generalizing s with
  | nil =>
    cases run
    exact ⟨sound, keeps_quiet (.refl _)⟩
  | cons _ _ ih =>
    obtain ⟨m, h, later⟩ := exec_cons.mp run
    obtain ⟨sound', keeps⟩ := sound_step sound h
    obtain ⟨sound'', keeps'⟩ := ih sound' later
    exact ⟨sound'', fun i e p found names => keeps' i e p (keeps i e p found names) names⟩

end Invariant

/-- In every run the sockets that name a peer are matched one to one, an agent's with a client's,
and keep their peers; messages go to the peer only, no agent with a peer is retired, and when a
socket with a peer was closed or failed the peer is not open. -/
theorem relay_pairing {Id : Type u} {Message : Type v} [DecidableEq Id]
    (earlier later : List (Action Id Message)) (s t : State Id Message)
    (before : exec step start earlier = some s) (after : exec step s later = some t) :
    (∀ (i : Nat) x p, t.sockets[i]? = some x → x.attachment.peerId = some p →
      ∃ (j : Nat) (y : Socket Id), t.sockets[j]? = some y ∧ y.attachment.id = p ∧
        y.attachment.peerId = some x.attachment.id ∧ x.attachment.role ≠ y.attachment.role) ∧
    (∀ (i j : Nat) x y p, t.sockets[i]? = some x → t.sockets[j]? = some y →
      x.attachment.peerId = some p → y.attachment.peerId = some p → i = j) ∧
    (∀ (i : Nat) x p, s.sockets[i]? = some x → x.attachment.peerId = some p →
      ∃ y, t.sockets[i]? = some y ∧ y.attachment.id = x.attachment.id ∧
        y.attachment.peerId = some p) ∧
    (∀ m ∈ t.sent, ∃ x y, t.sockets[m.source]? = some x ∧ t.sockets[m.target]? = some y ∧
      x.attachment.peerId = some y.attachment.id ∧
      y.attachment.peerId = some x.attachment.id) ∧
    (∀ c ∈ t.closes, c.closer = .retiring → c.peerId = none) ∧
    ∀ i ∈ t.parted, ∀ (j : Nat) x y, t.sockets[i]? = some x → t.sockets[j]? = some y →
      x.attachment.peerId = some y.attachment.id → y.readyState ≠ .opened := by
  obtain ⟨first, -⟩ := sound_run sound_start before
  obtain ⟨sound, keeps⟩ := sound_run first after
  refine ⟨fun i x p at_i names => ?_, fun i j x y p at_i at_j hx hy => ?_,
    fun i x p at_i names => ?_, fun m member => ?_, sound.retired,
    fun i member j x y at_i at_j names => ?_⟩
  · obtain ⟨j, e, at_j, id, back, apart⟩ := sound.paired.peer (entries_at at_i) names
    obtain ⟨y, here, rfl⟩ := at_entries at_j
    refine ⟨j, y, here, id, back, fun same => apart ?_⟩
    rw [Socket.entry, same, Socket.entry]
  · exact sound.paired.injective (entries_at at_i) (entries_at at_j) hx hy
  · obtain ⟨y, here, same⟩ := at_entries (keeps i x.entry p (entries_at at_i) names)
    exact ⟨y, here, congrArg Entry.id same, (congrArg Entry.peer same).trans names⟩
  · obtain ⟨e, e', at_source, at_target, ee', e'e, -⟩ := sound.sent m member
    obtain ⟨x, source, rfl⟩ := at_entries at_source
    obtain ⟨y, target, rfl⟩ := at_entries at_target
    exact ⟨x, y, source, target, ee', e'e⟩
  · obtain ⟨n, z, linked, at_n, shut⟩ := sound.apart i member
    obtain ⟨e, e', here, there, names', -⟩ := linked
    cases (entries_at at_i).symm.trans here
    cases (entries_at at_n).symm.trans there
    have index := sound.paired.distinct n j z.entry y.entry there (entries_at at_j)
      (Option.some.inj (names'.symm.trans names))
    subst index
    cases at_n.symm.trans at_j
    exact shut

/-- An agent parks two connections for one slot, of which the first is retired; two clients come,
and the second finds no agent. The first is sent a message, and when it closes so does its agent. -/
def session : List (CloudRelay.Action Nat Nat) :=
  [.acceptAgent [] (some (.int 0)) 10, .acceptAgent [0] (some (.int 0)) 11, .acceptClient,
    .acceptClient, .call 0 (.resume [1, 0] true), .call 0 (.consumed true),
    .call 0 (.scheduled 20), .call 0 .release, .call 1 (.resume [0, 1, 2] true),
    .event [0, 1, 2] 2 (.message 7), .network 2 .closed true, .event [0, 1, 2] 2 (.close 1000 [])]

theorem relay_pairing_session : ∃ t : State Nat Nat, exec step start session = some t ∧
      (t.parted = [2] ∧ t.sockets.map (·.attachment.peerId) = [none, some 20, some 11] ∧
        t.sockets.map (·.readyState) = [.closing, .closing, .closed] ∧
        t.calls.map (·.pc) = [.returned .attached, .returning .unavailable]) ∧
      ∀ m ∈ t.sent, ∃ x y, t.sockets[m.source]? = some x ∧ t.sockets[m.target]? = some y ∧
        x.attachment.peerId = some y.attachment.id ∧
        y.attachment.peerId = some x.attachment.id := by
  have reached : (exec step (start : State Nat Nat) session).any (fun t =>
      decide (t.parted = [2] ∧ t.sockets.map (·.attachment.peerId) = [none, some 20, some 11] ∧
        t.sockets.map (·.readyState) = [.closing, .closing, .closed] ∧
        t.calls.map (·.pc) = [.returned .attached, .returning .unavailable])) = true := by
    decide +kernel
  obtain ⟨t, run, state⟩ := (Option.any_eq_true _ _).mp reached
  exact ⟨t, run, of_decide_eq_true state, (relay_pairing [] session start t rfl run).2.2.2.1⟩

end CloudPairing
