import WeDecent.ConnectionObligations
import WeDecent.Library.Exclusion

/-!
# Ownership and capacity of connections

The invariant of the connection service over every interleaving of its calls: the opening
connections are counted, every handle and every terminal that the backend has returned is in
a map, has ended, or is owed by a call that is still running. A handle that the backend returns
together with an error is none of these: `Connect` does not look at it.
-/

namespace ConnectionOwnership

open List Option Cells ConnectionObligations ConnectionService CoreRequests GoMap Weights

section Threads

variable {threads spawned : List Thread} {i : Nat} {t : Thread}

theorem slots_after (t' : Thread) (at_i : threads[i]? = some t)
    (idle : ∀ x ∈ spawned, view x = .idle) :
    (threads.set i t' ++ spawned).countP slot + (slot t).toNat =
      threads.countP slot + (slot t').toNat := by
  have none_new : spawned.countP slot = 0 := by
    refine countP_eq_zero.mpr fun x member => ?_
    rw [show slot x = false from congrArg View.slot (idle x member)]
    exact Bool.false_ne_true
  have moved := weight_set (fun t => (slot t).toNat) t' at_i
  rw [weight_toNat, weight_toNat] at moved
  rw [countP_append, none_new, Nat.add_zero]
  exact moved

end Threads

/-- The ID is reserved for the call that works with it. -/
def Claimed (s : Shared) (id : ID) : Prop :=
  s.active.get id = none ∧ s.streams.get id = none ∧ s.reserved.get id = some ()

def Registered (s : Shared) (c : Nat) : Prop :=
  ∃ id e, s.streams.get id = some e ∧ e.handle = .child c

/-- Nothing has to be done about the terminal any more by the call that opened it. -/
def Safe (s : Shared) (c : Nat) (x : Child) : Prop :=
  x.closeCalled = true ∨ Registered s c ∨ Ended s x.parent

/-- The thread will register or close the terminal, or close its parent. -/
def Minds (t : Thread) (c : Nat) (x : Child) : Prop :=
  child t = some c ∨ (slot t = false ∧ x.parent ∈ holds t)

section Kept

variable {cfg : Config} {s s' : Shared} {t : Thread} {o : Outcome}

theorem held_forward {h : Nat} (grows : Grows s s') (kept : ∀ id a, s.active.get id = some a →
      (∃ a', s'.active.get id = some a' ∧ a'.handle = a.handle) ∨ Ended s a.handle)
    (held : Held s h) : Held s' h := by
  rcases held with ⟨id, a, found, rfl⟩ | past
  · rcases kept id a found with ⟨a', found', same⟩ | past
    · exact .inl ⟨id, a', found', same⟩
    · exact .inr (grows.ended past)
  · exact .inr (grows.ended past)

theorem held_forward_same {h : Nat} (grows : Grows s s') (active : s'.active = s.active)
    (held : Held s h) : Held s' h :=
  held_forward grows (fun _ a found => .inl ⟨a, active ▸ found, rfl⟩) held

theorem made_unique {token h h' : Nat} {id id' : ID} (made : Made s token id h)
    (made' : Made s token id' h') : h = h' := by
  have same := Option.some.inj (made.1.symm.trans made'.1)
  exact congrArg Generation.handle same

/-- What is known of the parent of a registered terminal -/
theorem parent_of_registered (facts : Facts s) {c : Nat} {x : Child} {id : ID}
    {e : TerminalStreamEntry} (at_id : s.streams.get id = some e) (handle : e.handle = .child c)
    (found : s.children[c]? = some x) :
    (∃ id', Made s e.token id' x.parent) ∧ (e.closed = true → Ended s x.parent) ∧
      Held s x.parent := by
  obtain ⟨id', h, made, ended, children⟩ := facts.streams id e at_id
  obtain ⟨⟨id'', h', y, made', found', parent⟩, held⟩ := children c handle
  cases found.symm.trans found'
  cases made_unique made made'
  subst parent
  exact ⟨⟨id', made⟩, ended, held⟩

theorem facts_grow (facts : Facts s) (grows : Grows s s') (active : s'.active = s.active)
    (streams : s'.streams = s.streams) (closed : s'.closed = s.closed) : Facts s' where
  active := fun id a found => grows.made (facts.active id a (active ▸ found))
  streams := by
    intro id e found
    obtain ⟨id', h, made, ended, children⟩ := facts.streams id e (streams ▸ found)
    refine ⟨id', h, grows.made made, fun past => grows.ended (ended past), fun c handle => ?_⟩
    obtain ⟨opened, held⟩ := children c handle
    exact ⟨grows.opened opened, held_forward_same grows active held⟩
  closed := by
    intro isClosed
    rw [active, streams]
    exact facts.closed (closed ▸ isClosed)

theorem facts_shrink {active : GoMap ID ActiveConnection}
    {streams : GoMap ID TerminalStreamEntry} (facts : Facts s)
    (shrinks : Shrinks s active streams) :
    Facts { s with active := active, streams := streams } := by
  have grows : Grows s { s with active := active, streams := streams } := .of_eq rfl rfl rfl rfl
  refine ⟨fun id a found => ?_, fun id e found => ?_, fun isClosed => ⟨fun id => ?_, fun id => ?_⟩⟩
  · obtain ⟨a', found', handle, token⟩ := shrinks.activeOld id a found
    rw [← handle, ← token]
    exact grows.made (facts.active id a' found')
  · obtain ⟨e', found', handle, token, retained⟩ := shrinks.streamsOld id e found
    obtain ⟨id', h, made, ended, children⟩ := facts.streams id e' found'
    rw [← token, ← handle]
    refine ⟨id', h, grows.made made, fun past => grows.ended ?_, fun c same => ?_⟩
    · rcases retained past with before | ⟨id'', h', made', past'⟩
      · exact ended before
      · rw [← token] at made'
        cases made_unique made made'
        exact past'
    · obtain ⟨opened, held⟩ := children c same
      exact ⟨grows.opened opened, held_forward grows shrinks.activeNew held⟩
  · refine eq_none_iff_forall_ne_some.mpr fun a found => ?_
    obtain ⟨a', found', -⟩ := shrinks.activeOld id a found
    cases found'.symm.trans ((facts.closed isClosed).1 id)
  · refine eq_none_iff_forall_ne_some.mpr fun e found => ?_
    obtain ⟨e', found', -⟩ := shrinks.streamsOld id e found
    cases found'.symm.trans ((facts.closed isClosed).2 id)

theorem facts_of_effect (effect : Effect cfg s t o) (facts : Facts s) (known : Knows s t)
    (claimed : ∀ id, name t = some id → Claimed s id) : Facts o.shared := by
  have grows := effect.grows
  cases effect with
  | moved => exact facts
  | activated t' a id streams isOpen before _ fresh joins bound =>
    obtain ⟨absent, -, -⟩ := claimed id (congrArg View.name before)
    refine ⟨fun k b found => ?_, fun k e found => ?_, fun isClosed => ?_⟩
    · rcases get_of_set found with ⟨rfl, rfl⟩ | ⟨-, old⟩
      · exact ⟨fresh ▸ List.getElem?_concat_length, bound known⟩
      · exact grows.made (facts.active k b old)
    · rcases joins.old k e found with old | ⟨-, rfl⟩
      · obtain ⟨id', h, made, ended, children⟩ := facts.streams k e old
        refine ⟨id', h, grows.made made, fun past => grows.ended (ended past), fun c handle => ?_⟩
        obtain ⟨opened, held⟩ := children c handle
        refine ⟨grows.opened opened, held_forward grows (fun k b at_k => .inl ⟨b, ?_, rfl⟩) held⟩
        rw [get_set_of_ne]
        · exact at_k
        · rintro rfl
          cases at_k.symm.trans absent
      · exact ⟨id, a.handle, ⟨List.getElem?_concat_length, bound known⟩, by simp, by simp⟩
    · cases isOpen.symm.trans isClosed
  | shrunk t' _ _ streams shrinks => exact facts_shrink facts (shrinks facts known)
  | shut => exact ⟨by simp, by simp, fun _ => ⟨fun _ => rfl, fun _ => rfl⟩⟩
  | registered t' id connectionID c a isOpen absent parent opened =>
    have held : ∀ {h}, Held s h → Held _ h := fun held => held_forward_same grows rfl held
    refine ⟨fun k b found => grows.made (facts.active k b found), fun k e found => ?_,
      fun isClosed => by cases isOpen.symm.trans isClosed⟩
    rcases get_of_set found with ⟨rfl, rfl⟩ | ⟨-, old⟩
    · refine ⟨connectionID, a.handle, grows.made (facts.active _ a parent), by rintro ⟨⟩, ?_⟩
      intro c' same
      cases same
      exact ⟨grows.opened (opened known), held (.inl ⟨connectionID, a, parent, rfl⟩)⟩
    · obtain ⟨id', h, made, ended, children⟩ := facts.streams k e old
      refine ⟨id', h, grows.made made, fun past => grows.ended (ended past), fun c handle => ?_⟩
      exact ⟨grows.opened (children c handle).1, held (children c handle).2⟩
  | _ => exact facts_grow facts grows rfl rfl rfl

theorem idle_of_effect (effect : Effect cfg s t o) : ∀ x ∈ o.spawned, view x = .idle := by
  cases effect with
  | moved t' spawned same idle => exact idle
  | shrunk t' spawned _ _ _ same idle => exact idle
  | _ => exact forall_mem_nil _

theorem knows_of_effect (effect : Effect cfg s t o) (facts : Facts s) (known : Knows s t) :
    Knows o.shared o.thread ∧ ∀ x ∈ o.spawned, Knows o.shared x := by
  have grows := effect.grows
  cases effect with
  | moved t' spawned same idle knows => exact knows facts known
  | named t' id slot _ before after knows => exact ⟨knows _ grows known, forall_mem_nil _⟩
  | gained t' x id before after knows =>
    refine ⟨knows _ ?_, forall_mem_nil _⟩
    rw [length_append]
    exact Nat.lt_succ_self _
  | dropped => exact ⟨trivial, forall_mem_nil _⟩
  | closed t' h slot _ before after _ _ _ knows =>
    exact ⟨knows _ grows ended_closeHandle known, forall_mem_nil _⟩
  | activated t' a id streams isOpen before after fresh _ bound knows =>
    exact ⟨knows _ ⟨fresh ▸ List.getElem?_concat_length, bound known⟩, forall_mem_nil _⟩
  | shrunk t' spawned _ streams _ same idle knows => exact knows _ grows facts known
  | shut t' before after knows => exact ⟨knows _ rfl, forall_mem_nil _⟩
  | born t' parent id before after bound knows =>
    exact ⟨knows _ grows List.getElem?_concat_length known, forall_mem_nil _⟩
  | registered t' id _ c a isOpen _ parent _ before after knows =>
    exact ⟨knows _ grows known, forall_mem_nil _⟩
  | _ =>
    rename_i knows
    exact ⟨knows _, forall_mem_nil _⟩

theorem slot_of_view {v : View} (h : view t = v) : slot t = v.slot := congrArg View.slot h

theorem name_of_view {v : View} (h : view t = v) : name t = v.name := congrArg View.name h

theorem holds_of_view {v : View} (h : view t = v) : holds t = v.holds := congrArg View.holds h

theorem child_of_view {v : View} (h : view t = v) : child t = v.child := congrArg View.child h

/-- The room that a call reserves is the room its activation takes. -/
theorem counts_of_effect (effect : Effect cfg s t o) (facts : Facts s) (known : Knows s t)
    (claimed : ∀ id, name t = some id → Claimed s id)
    (capacity : s.active.len + s.opening ≤ cfg.max) (counted : slot t = true → 0 < s.opening) :
    o.shared.active.len + o.shared.opening ≤ cfg.max ∧
      o.shared.opening + (slot t).toNat = s.opening + (slot o.thread).toNat := by
  cases effect with
  | moved t' spawned same =>
    rw [slot_of_view same]
    exact ⟨capacity, rfl⟩
  | reserved t' room before after =>
    rw [slot_of_view before, slot_of_view after]
    simp only [View.idle, Bool.toNat_true, Bool.toNat_false]
    omega
  | unreserved t' before after =>
    have positive := counted (slot_of_view before)
    rw [slot_of_view before, slot_of_view after]
    simp only [Shared.releaseOpening, if_pos positive, View.idle, Bool.toNat_true, Bool.toNat_false]
    omega
  | released t' id before after =>
    have positive := counted (slot_of_view before)
    rw [slot_of_view before, slot_of_view after]
    simp only [Shared.releaseOpeningAndID, Shared.releaseOpening, if_pos positive, View.idle,
      Bool.toNat_true, Bool.toNat_false]
    omega
  | abandoned t' id h before after =>
    rw [slot_of_view before, slot_of_view after]
    simp only [Bool.toNat_true, Bool.toNat_false]
    omega
  | activated t' a id streams _ before after =>
    have one_more : (s.active.set id a).len = s.active.len + 1 :=
      len_set_of_none (claimed id (name_of_view before)).1
    rw [slot_of_view before, slot_of_view after]
    simp only [View.idle, Bool.toNat_true, Bool.toNat_false, one_more]
    omega
  | shrunk t' spawned _ streams shrinks same =>
    have fewer := (shrinks facts known).len
    rw [slot_of_view same]
    exact ⟨by simp only; omega, rfl⟩
  | shut t' before after =>
    rw [slot_of_view before, slot_of_view after]
    have none_left : (empty : GoMap ID ActiveConnection).len = 0 := rfl
    exact ⟨by simp only [none_left]; omega, rfl⟩
  | dropped deviceID id x was =>
    rw [was]
    exact ⟨capacity, rfl⟩
  | closed t' h b name before after was is =>
    rw [slot_of_view was, slot_of_view is]
    exact ⟨capacity, rfl⟩
  | born t' _ id before after =>
    rw [slot_of_view before, slot_of_view after]
    exact ⟨capacity, rfl⟩
  | _ =>
    rename_i before after _
    rw [slot_of_view before, slot_of_view after]
    exact ⟨capacity, rfl⟩

theorem claimed_shrink {active : GoMap ID ActiveConnection}
    {streams : GoMap ID TerminalStreamEntry} (shrinks : Shrinks s active streams) {id : ID}
    (claimed : Claimed s id) : Claimed { s with active := active, streams := streams } id := by
  obtain ⟨inactive, unlisted, reserved⟩ := claimed
  refine ⟨eq_none_iff_forall_ne_some.mpr fun a found => ?_,
    eq_none_iff_forall_ne_some.mpr fun e found => ?_, reserved⟩
  · obtain ⟨a', found', -⟩ := shrinks.activeOld id a found
    cases found'.symm.trans inactive
  · obtain ⟨e', found', -⟩ := shrinks.streamsOld id e found
    cases found'.symm.trans unlisted

theorem free_iff {id : ID} : s.free id = true ↔
    s.active.get id = none ∧ s.streams.get id = none ∧ s.reserved.get id = none := by
  simp [Shared.free, and_assoc]

section

variable (effect : Effect cfg s t o) (facts : Facts s) (known : Knows s t)

include effect facts known

/-- An ID that another thread has reserved is out of reach of the step. -/
theorem claimed_other {id : ID}
    (other : name t ≠ some id) (claimed : Claimed s id) : Claimed o.shared id := by
  have ne : ∀ {v : View} {k : ID}, view t = v → v.name = some k → id ≠ k := by
    rintro v k before named rfl
    exact other ((name_of_view before).trans named)
  cases effect with
  | named t' k b free =>
    refine ⟨claimed.1, claimed.2.1, ?_⟩
    rw [get_set_of_ne]
    · exact claimed.2.2
    · rintro rfl
      cases claimed.2.2.symm.trans (free_iff.mp free).2.2
  | released t' k before | unnamed t' k c before | abandoned t' k h before =>
    exact ⟨claimed.1, claimed.2.1, (get_erase_of_ne (ne before rfl)).trans claimed.2.2⟩
  | activated t' a k streams isOpen before _ _ joins =>
    have apart := ne before rfl
    refine ⟨(get_set_of_ne apart).trans claimed.1, eq_none_iff_forall_ne_some.mpr fun e found => ?_,
      (get_erase_of_ne apart).trans claimed.2.2⟩
    rcases joins.old id e found with old | ⟨here, -⟩
    · cases old.symm.trans claimed.2.1
    · exact apart here
  | shrunk t' _ _ streams shrinks =>
    exact claimed_shrink (shrinks facts known) claimed
  | shut => exact ⟨rfl, rfl, claimed.2.2⟩
  | registered t' k _ c a isOpen _ _ _ before =>
    have apart := ne before rfl
    exact ⟨claimed.1, (get_set_of_ne apart).trans claimed.2.1,
      (get_erase_of_ne apart).trans claimed.2.2⟩
  | _ => exact claimed

/-- The ID of the thread after the step was its own before or was free, and is its own. -/
theorem claimed_own (claimed : ∀ id, name t = some id → Claimed s id) {id : ID} (named :
    name o.thread = some id) :
    Claimed o.shared id ∧ (name t = some id ∨ s.free id = true) := by
  have kept : name o.thread = name t →
      Claimed s id ∧ (name t = some id ∨ s.free id = true) := fun same =>
    ⟨claimed id (same.symm.trans named), .inl (same.symm.trans named)⟩
  have unnamed : name o.thread ≠ none := fun h => nomatch named.symm.trans h
  cases effect with
  | moved t' spawned same => exact kept (name_of_view same)
  | named t' k b free before after =>
    cases named.symm.trans (name_of_view after)
    obtain ⟨inactive, unlisted, -⟩ := free_iff.mp free
    exact ⟨⟨inactive, unlisted, get_set_self⟩, .inr free⟩
  | gained t' x k before after | born t' parent k before after | buried t' c k before after =>
    exact kept ((name_of_view after).trans (name_of_view before).symm)
  | dropped deviceID k x was => exact kept (was ▸ rfl)
  | closed t' h b k before after was is =>
    exact kept ((name_of_view is).trans (name_of_view was).symm)
  | shrunk t' spawned _ streams shrinks same =>
    exact (kept (name_of_view same)).imp_left (claimed_shrink (shrinks facts known))
  | activated t' a k streams isOpen before after => exact absurd (name_of_view after) unnamed
  | registered t' k _ c a isOpen _ parent _ before after =>
    exact absurd (name_of_view after) unnamed
  | _ =>
    rename_i after _
    exact absurd (name_of_view after) unnamed

/-- A handle that existed before the step is not lost. -/
theorem handle_kept (claimed : ∀ id, name t = some id → Claimed s id) {h : Nat} (bound :
    h < s.handles.length)
    (covered : Held s h ∨ h ∈ holds t) : Held o.shared h ∨ h ∈ holds o.thread := by
  have grows := effect.grows
  have same : o.shared.active = s.active → holds o.thread = holds t →
      Held o.shared h ∨ h ∈ holds o.thread := fun active view =>
    covered.imp (held_forward_same grows active) fun member => view ▸ member
  cases effect with
  | moved t' spawned view => exact same rfl (holds_of_view view)
  | born t' _ k before after =>
    exact same rfl ((holds_of_view after).trans (holds_of_view before).symm)
  | gained t' x k before =>
    rcases covered with held | member
    · exact .inl (held_forward_same grows rfl held)
    · rw [holds_of_view before] at member
      cases member
  | dropped deviceID k x was => exact same rfl (was ▸ rfl)
  | closed t' x b k before after was is rest =>
    rcases covered with held | member
    · exact .inl (held_forward_same grows rfl held)
    · rw [holds_of_view was] at member
      rcases rest h member with rfl | later
      · exact .inl (.inr (ended_closeHandle bound))
      · exact .inr ((holds_of_view is).symm ▸ later)
  | activated t' a id streams _ before =>
    obtain ⟨absent, -⟩ := claimed id (name_of_view before)
    rcases covered with held | member
    · refine .inl (held_forward grows (fun k b found => .inl ⟨b, ?_, rfl⟩) held)
      have apart : k ≠ id := by
        rintro rfl
        cases found.symm.trans absent
      exact (get_set_of_ne apart).trans found
    · rw [holds_of_view before] at member
      cases mem_singleton.mp member
      exact .inl (.inl ⟨id, a, get_set_self, rfl⟩)
  | shrunk t' spawned active streams shrinks view =>
    rcases covered with held | member
    · exact .inl (held_forward grows (shrinks facts known).activeNew held)
    · exact .inr ((holds_of_view view).symm ▸ member)
  | shut t' before after =>
    rcases covered with (⟨id, a, found, rfl⟩ | past) | member
    · refine .inr ((holds_of_view after).symm ▸ ?_)
      exact List.mem_map.mpr ⟨(id, a), get_eq_some.mp found, rfl⟩
    · exact .inl (.inr (grows.ended past))
    · rw [holds_of_view before] at member
      cases member
  | _ =>
    rename_i before after _
    exact same rfl ((holds_of_view after).trans (holds_of_view before).symm)

end

/-- No handle comes with an error. -/
def bare : Act → Bool
  | .backend opened failed => !failed || opened.handle.isNone
  | _ => true

theorem not_dropped {deviceID : Bytes} {id : ID} {x : Handle} {a : Act}
    (dropped : advance cfg s (.connect (.opening deviceID id)) a =
      some ⟨{ s with handles := s.handles ++ [x] }, .connect (.failedOpen id), []⟩) :
    bare a = false := by
  cases a with
  | backend answer failed =>
    obtain ⟨handle, path⟩ := answer
    have same := Option.some.inj dropped
    cases handle with
    | none =>
      have kept : s.handles = s.handles ++ [x] := congrArg (fun o => o.shared.handles) same
      cases self_eq_append_right.mp kept
    | some y =>
      cases failed with
      | false => cases congrArg Outcome.thread same
      | true => rfl
  | _ => cases dropped

theorem handle_new {a : Act} (moved : advance cfg s t a = some o) (plain : bare a = true) {h : Nat}
    (bound : h < o.shared.handles.length) : h < s.handles.length ∨ h ∈ holds o.thread := by
  cases effect_of_advance moved with
  | dropped deviceID id x was =>
    subst was
    cases plain.symm.trans (not_dropped moved)
  | gained _ x k _ after =>
    rw [length_append, length_singleton] at bound
    rcases Nat.lt_succ_iff_lt_or_eq.mp bound with old | rfl
    · exact .inl old
    · exact .inr ((holds_of_view after).symm ▸ mem_singleton_self _)
  | closed =>
    rw [Shared.closeHandle, length_modify] at bound
    exact .inl bound
  | _ => exact .inl bound

theorem child_new (effect : Effect cfg s t o) (known : Knows s t) {c : Nat} {x' : Child}
    (found' : o.shared.children[c]? = some x') :
    (∃ x, s.children[c]? = some x ∧ x'.parent = x.parent ∧
        (x.closeCalled = true → x'.closeCalled = true)) ∨
      (child o.thread = some c ∧ x'.parent < s.handles.length) := by
  cases effect with
  | born t' _ k _ after bound =>
    rcases at_push found' with old | ⟨rfl, rfl⟩
    · exact .inl ⟨x', old, rfl, id⟩
    · exact .inr ⟨child_of_view after, bound known⟩
  | buried t' c' =>
    obtain ⟨x, found, rfl⟩ := at_modify found'
    refine .inl ⟨x, found, ?_⟩
    by_cases here : c' = c
    · rw [if_pos here]
      exact ⟨rfl, fun _ => rfl⟩
    · rw [if_neg here]
      exact ⟨rfl, id⟩
  | _ => exact .inl ⟨x', found', rfl, id⟩

section Child

variable {c : Nat} {x x' : Child}

/-- A registered terminal stays in the map, or its parent ends or is about to be closed. -/
theorem registered_kept (effect : Effect cfg s t o) (facts : Facts s) (known : Knows s t)
    (claimed : ∀ id, name t = some id → Claimed s id) (found : s.children[c]? = some x)
    (registered : Registered s c) :
    Registered o.shared c ∨ Ended o.shared x.parent ∨
      (slot o.thread = false ∧ x.parent ∈ holds o.thread) := by
  have grows := effect.grows
  obtain ⟨k, e, at_k, handle⟩ := registered
  obtain ⟨⟨id, made⟩, past, held⟩ := parent_of_registered facts at_k handle found
  cases effect with
  | activated t' a k' streams isOpen before after _ joins =>
    obtain ⟨-, unlisted, -⟩ := claimed k' (name_of_view before)
    rcases joins.new k e at_k with kept | closed | rfl
    · exact .inl ⟨k, e, kept, handle⟩
    · exact .inr (.inl (grows.ended (past closed)))
    · cases at_k.symm.trans unlisted
  | shrunk t' _ active streams shrinks =>
    rcases (shrinks facts known).streamsNew k e at_k with ⟨e', kept, same⟩ | ⟨id', h, made', past'⟩
    · exact .inl ⟨k, e', kept, same.trans handle⟩
    · cases made_unique made made'
      exact .inr (.inl (grows.ended past'))
  | shut t' before after =>
    rcases held with ⟨id', a, active, same⟩ | past'
    · refine .inr (.inr ⟨slot_of_view after, (holds_of_view after).symm ▸ ?_⟩)
      exact List.mem_map.mpr ⟨(id', a), get_eq_some.mp active, same⟩
    · exact .inr (.inl (grows.ended past'))
  | registered t' k' _ _ a isOpen absent =>
    refine .inl ⟨k, e, (get_set_of_ne ?_).trans at_k, handle⟩
    rintro rfl
    cases at_k.symm.trans absent
  | _ => exact .inl ⟨k, e, at_k, handle⟩

theorem safe_kept (effect : Effect cfg s t o) (facts : Facts s) (known : Knows s t)
    (claimed : ∀ id, name t = some id → Claimed s id) (found : s.children[c]? = some x)
    (parent : x'.parent = x.parent) (called : x.closeCalled = true → x'.closeCalled = true)
    (safe : Safe s c x) : Safe o.shared c x' ∨ Minds o.thread c x' := by
  rcases safe with closed | registered | past
  · exact .inl (.inl (called closed))
  · rcases registered_kept effect facts known claimed found registered with kept | past | closing
    · exact .inl (.inr (.inl kept))
    · exact .inl (.inr (.inr (parent ▸ past)))
    · exact .inr (.inr (parent ▸ closing))
  · exact .inl (.inr (.inr (parent ▸ effect.grows.ended past)))

/-- What a thread has to do about a terminal, it does or has still to do. -/
theorem minds_kept (effect : Effect cfg s t o) (found' : o.shared.children[c]? = some x')
    (bound : x.parent < s.handles.length) (parent : x'.parent = x.parent)
    (minds : Minds t c x) : Safe o.shared c x' ∨ Minds o.thread c x' := by
  have same : view o.thread = view t → Safe o.shared c x' ∨ Minds o.thread c x' := by
    intro view
    refine .inr (minds.imp (child_of_view view).trans fun holder => ?_)
    rw [parent, slot_of_view view, holds_of_view view]
    exact holder
  have idle : ∀ {v : View}, view t = v → v.child = none → (v.slot = true ∨ v.holds = []) →
      Safe o.shared c x' ∨ Minds o.thread c x' := by
    rintro v rfl childless free
    rcases minds with owned | ⟨unslotted, member⟩
    · cases owned.symm.trans childless
    · rcases free with slotted | empty
      · cases unslotted.symm.trans slotted
      · rw [show holds t = [] from empty] at member
        cases member
  cases effect with
  | moved t' spawned view => exact same view
  | shrunk t' spawned active streams _ view => exact same view
  | abandoned t' k h before => exact idle before rfl (.inl rfl)
  | activated t' a k streams isOpen before => exact idle before rfl (.inl rfl)
  | born t' y k before => exact idle before rfl (.inr rfl)
  | dropped deviceID k x was => exact same (was ▸ rfl)
  | unnamed t' k owned before after =>
    rcases minds with mine | ⟨-, member⟩
    · exact .inr (.inl ((child_of_view after).trans ((child_of_view before).symm.trans mine)))
    · rw [holds_of_view before] at member
      cases member
  | closed t' h b k before after was is rest =>
    rcases minds with mine | ⟨unslotted, member⟩
    · cases mine.symm.trans (child_of_view was)
    rw [holds_of_view was] at member
    rcases rest _ member with same | later
    · exact .inl (.inr (.inr (parent ▸ same ▸ ended_closeHandle (same ▸ bound))))
    · refine .inr (.inr ⟨?_, parent ▸ (holds_of_view is).symm ▸ later⟩)
      exact (slot_of_view is).trans ((slot_of_view was).symm.trans unslotted)
  | buried t' c' k before =>
    rcases minds with mine | ⟨-, member⟩
    · cases mine.symm.trans (child_of_view before)
      obtain ⟨y, -, rfl⟩ := at_modify found'
      rw [if_pos rfl]
      exact .inl (.inl rfl)
    · rw [holds_of_view before] at member
      cases member
  | registered t' k _ c' a isOpen _ active _ before =>
    rcases minds with mine | ⟨-, member⟩
    · cases mine.symm.trans (child_of_view before)
      exact .inl (.inr (.inl ⟨k, _, get_set_self, rfl⟩))
    · rw [holds_of_view before] at member
      cases member
  | _ =>
    rename_i before _ _
    exact idle before rfl (.inr rfl)

end Child

end Kept

structure Sound (cfg : Config) (s : State) : Prop where
  capacity : s.shared.active.len + s.shared.opening ≤ cfg.max
  opening : s.shared.opening = s.threads.countP slot
  facts : Facts s.shared
  knows : ∀ t ∈ s.threads, Knows s.shared t
  claimed : ∀ t ∈ s.threads, ∀ id, name t = some id → Claimed s.shared id
  apart : ∀ (i j : Nat) t u id, s.threads[i]? = some t →
    s.threads[j]? = some u → name t = some id → name u = some id → i = j
  parents : ∀ (c : Nat) x, s.shared.children[c]? = some x → x.parent < s.shared.handles.length
  children : ∀ (c : Nat) x, s.shared.children[c]? = some x →
    Safe s.shared c x ∨ ∃ t ∈ s.threads, Minds t c x

/-- Every handle is in the map, has ended, or is in the hands of a call. -/
def Owned (s : State) : Prop :=
  ∀ h < s.shared.handles.length, Held s.shared h ∨ ∃ t ∈ s.threads, h ∈ holds t

/-- The backend returns no handle together with an error. -/
def bareErrors : Action → Bool
  | .run _ a => bare a
  | _ => true

section Sound

variable {cfg : Config} {s s' : State}

theorem sound_initial : Sound cfg initial where
  capacity := Int.natCast_nonneg _
  opening := rfl
  facts := ⟨by intros; contradiction, by intros; contradiction, by intros; contradiction⟩
  knows := fun _ member => absurd member not_mem_nil
  claimed := fun _ member => absurd member not_mem_nil
  apart := fun _ _ _ _ _ at_i => nomatch List.getElem?_nil.symm.trans at_i
  parents := fun _ _ found => nomatch List.getElem?_nil.symm.trans found
  children := fun _ _ found => nomatch List.getElem?_nil.symm.trans found

theorem sound_of_start (sound : Sound cfg s) {t : Thread} (idle : view t = .idle)
    (known : Knows s.shared t) : Sound cfg (s.start t) := by
  have older : ∀ {u}, u ∈ s.threads → u ∈ (s.start t).threads := mem_append_left _
  have unnamed : ∀ {id}, name t ≠ some id := fun named =>
    nomatch named.symm.trans (name_of_view idle)
  refine ⟨sound.capacity, ?_, sound.facts, ?_, ?_, ?_, sound.parents, ?_⟩
  · have no_slot : [t].countP slot = 0 := by
      rw [countP_singleton, if_neg]
      rw [slot_of_view idle]
      exact Bool.false_ne_true
    rw [State.start, countP_append, no_slot]
    exact sound.opening
  · intro u member
    rcases mem_append.mp member with old | new
    · exact sound.knows u old
    · cases mem_singleton.mp new
      exact known
  · intro u member id named
    rcases mem_append.mp member with old | new
    · exact sound.claimed u old id named
    · cases mem_singleton.mp new
      exact absurd named unnamed
  · intro i j u v id
    exact Exclusion.alone_push (fun i j u v => sound.apart i j u v id) unnamed i j u v
  · intro c x found
    exact (sound.children c x found).imp_right fun ⟨u, member, owed⟩ => ⟨u, older member, owed⟩

theorem sound_of_signal (sound : Sound cfg s) (h : Nat) :
    Sound cfg { s with shared := s.shared.signal h } := by
  have grows := Grows.signal s.shared h
  have size : (s.shared.signal h).handles.length = s.shared.handles.length :=
    length_modify _ _ _
  refine ⟨sound.capacity, sound.opening, facts_grow sound.facts grows rfl rfl rfl,
    fun t member => grows.knows (sound.knows t member), sound.claimed, sound.apart, ?_, ?_⟩
  · intro c x found
    exact size.symm ▸ sound.parents c x found
  · intro c x found
    exact (sound.children c x found).imp_left fun safe =>
      safe.imp id (Or.imp id grows.ended)

theorem sound_of_run (sound : Sound cfg s) {i : Nat} {t : Thread} {o : Outcome}
    (at_i : s.threads[i]? = some t) (effect : Effect cfg s.shared t o) :
    Sound cfg ⟨o.shared, s.threads.set i o.thread ++ o.spawned⟩ := by
  have member := mem_of_getElem? at_i
  have known := sound.knows t member
  have claimed := sound.claimed t member
  have facts := sound.facts
  have grows := effect.grows
  have idle := idle_of_effect effect
  obtain ⟨capacity, counted⟩ := counts_of_effect effect facts known claimed sound.capacity (by
    intro slotted
    rw [sound.opening]
    exact Int.natCast_pos.mpr (countP_pos_iff.mpr ⟨t, member, slotted⟩))
  have spawned_unnamed : ∀ {u} {id : ID}, u ∈ o.spawned → name u ≠ some id := fun new named =>
    nomatch named.symm.trans (name_of_view (idle _ new))
  -- no other thread works with the ID of this one
  have alone : ∀ {j u} {id : ID}, j ≠ i → s.threads[j]? = some u → name u = some id →
      name t ≠ some id := fun other at_j named named' =>
    other (sound.apart _ _ _ _ _ at_j at_i named named')
  have parents : ∀ (c : Nat) x, o.shared.children[c]? = some x →
      x.parent < o.shared.handles.length := by
    intro c x' found'
    rcases child_new effect known found' with ⟨x, found, parent, -⟩ | ⟨-, bound⟩
    · exact grows.allocated (parent ▸ sound.parents c x found)
    · exact grows.allocated bound
  refine ⟨capacity, ?_, facts_of_effect effect facts known claimed, ?_, ?_, ?_, parents, ?_⟩
  · have moved := slots_after o.thread at_i idle
    have before := sound.opening
    simp only
    omega
  · intro u after
    obtain ⟨own, new⟩ := knows_of_effect effect facts known
    rcases mem_move after with old | rfl | fresh
    · exact grows.knows (sound.knows u old)
    · exact own
    · exact new u fresh
  · intro u after id named
    obtain ⟨j, at_j⟩ := mem_iff_getElem?.mp after
    rcases at_move at_j with ⟨-, rfl⟩ | ⟨other, old⟩ | fresh
    · exact (claimed_own effect facts known claimed named).1
    · exact claimed_other effect facts known (alone other old named)
        (sound.claimed u (mem_of_getElem? old) id named)
    · exact absurd named (spawned_unnamed fresh)
  · intro j k u v id
    refine Exclusion.alone_append (Exclusion.alone_set (fun j k u v => sound.apart j k u v id)
      at_i fun named => ?_) (fun u => spawned_unnamed) j k u v
    -- a new ID was free, and an ID of another thread is reserved
    refine (claimed_own effect facts known claimed named).2.imp_right fun free => ?_
    intro j u _ old named'
    have reserved := (sound.claimed u (mem_of_getElem? old) id named').2.2
    cases reserved.symm.trans (free_iff.mp free).2.2
  · intro c x' found'
    rcases child_new effect known found' with ⟨x, found, parent, called⟩ | ⟨own, -⟩
    · rcases sound.children c x found with safe | minded
      · rcases safe_kept effect facts known claimed found parent called safe with safe' | minds'
        · exact .inl safe'
        · exact .inr ⟨_, moved_mem at_i, minds'⟩
      · have minded' : ∃ u ∈ s.threads, Minds u c x' := by
          obtain ⟨u, old, minds⟩ := minded
          exact ⟨u, old, by rw [Minds, parent]; exact minds⟩
        refine owed_move at_i (fun own => ?_) minded'
        rw [Minds, parent] at own
        exact minds_kept effect found' (sound.parents c x found) parent own
    · exact .inr ⟨_, moved_mem at_i, .inl own⟩

theorem owned_of_run (sound : Sound cfg s) (owned : Owned s) {i : Nat} {t : Thread} {a : Act}
    {o : Outcome} (at_i : s.threads[i]? = some t) (moved : advance cfg s.shared t a = some o)
    (plain : bare a = true) : Owned ⟨o.shared, s.threads.set i o.thread ++ o.spawned⟩ := by
  have member := mem_of_getElem? at_i
  have kept {h : Nat} := @handle_kept cfg s.shared t o (effect_of_advance moved) sound.facts
    (sound.knows t member) (sound.claimed t member) h
  intro h bound
  rcases handle_new moved plain bound with old | owed
  · rcases owned h old with held | owed
    · rcases kept old (.inl held) with held' | owed'
      · exact .inl held'
      · exact .inr ⟨_, moved_mem at_i, owed'⟩
    · exact owed_move at_i (fun own => kept old (.inr own)) owed
  · exact .inr ⟨_, moved_mem at_i, owed⟩

theorem owned_of_start (owned : Owned s) (t : Thread) : Owned (s.start t) := fun h bound =>
  (owned h bound).imp_right fun ⟨u, member, owed⟩ => ⟨u, mem_append_left _ member, owed⟩

theorem owned_of_step {a : Action} (sound : Sound cfg s) (owned : Owned s)
    (plain : bareErrors a = true) (h : step cfg s a = some s') : Owned s' := by
  cases a with
  | run =>
    obtain ⟨t, at_i, h⟩ := bind_eq_some_iff.mp h
    obtain ⟨o, moved, rfl⟩ := map_eq_some_iff.mp h
    exact owned_of_run sound owned at_i moved plain
  | signal k =>
    obtain ⟨-, h⟩ := ite_none_right_eq_some.mp h
    cases h
    intro x bound
    have bound : x < s.shared.handles.length := by simpa [Shared.signal] using bound
    exact (owned x bound).imp_left (held_forward_same (.signal s.shared k) rfl)
  | _ =>
    cases h
    exact owned_of_start owned _

theorem sound_of_step {a : Action} (sound : Sound cfg s) (h : step cfg s a = some s') :
    Sound cfg s' := by
  cases a with
  | connect =>
    cases h
    refine sound_of_start sound ?_ ?_
    · unfold connect
      split
      · rfl
      · split <;> rfl
    · unfold connect
      split
      · trivial
      · split <;> trivial
  | disconnect =>
    cases h
    refine sound_of_start sound ?_ ?_
    · unfold disconnect
      split
      · rfl
      · split <;> rfl
    · unfold disconnect
      split
      · trivial
      · split <;> trivial
  | close =>
    cases h
    exact sound_of_start sound rfl trivial
  | openTerminal =>
    cases h
    refine sound_of_start sound ?_ ?_
    · unfold openTerminalStream
      split
      · rfl
      · split <;> rfl
    · unfold openTerminalStream
      split
      · trivial
      · split <;> trivial
  | run =>
    obtain ⟨t, at_i, h⟩ := bind_eq_some_iff.mp h
    obtain ⟨o, moved, rfl⟩ := map_eq_some_iff.mp h
    exact sound_of_run sound at_i (effect_of_advance moved)
  | signal k =>
    obtain ⟨-, h⟩ := ite_none_right_eq_some.mp h
    cases h
    exact sound_of_signal sound k

theorem sound_of_reachable (reach : Runs.Reachable (step cfg) initial s) : Sound cfg s :=
  Runs.reachable_invariant (Sound cfg) (fun _ _ _ => sound_of_step) sound_initial reach

/-- The call has returned; the goroutines of the service never stand in its way. -/
def finished : Thread → Bool
  | .connect (.returned _) => true
  | .connect _ => false
  | .disconnect (.returned _ _) => true
  | .disconnect _ => false
  | .close (.returned _) => true
  | .close _ => false
  | .openTerminal (.returned _) => true
  | .openTerminal _ => false
  | _ => true

/-- The ID that a call has reserved is no other call's, and no connection or stream has it. -/
theorem reserved_id_exclusive (reach : Runs.Reachable (step cfg) initial s) :
    (∀ t ∈ s.threads, ∀ id, name t = some id → Claimed s.shared id) ∧
    ∀ (i j : Nat) t u id, s.threads[i]? = some t → s.threads[j]? = some u → name t = some id →
      name u = some id → i = j := by
  have sound := sound_of_reachable reach
  exact ⟨sound.claimed, sound.apart⟩

end Sound

section Sample

/-- Two terminals are being opened; the second call is given the ID of the first one at first. -/
def namedRun : List Action :=
  openedRun ++ [.openTerminal none [98] 80 24 [], .openTerminal none [98] 80 24 [], .run 2 .go,
    .run 3 .go, .run 2 (.name (some [99])), .run 3 (.name (some [99])),
    .run 3 (.name (some [100]))]

theorem reserved_id_exclusive_opening : ∃ s : State,
    Runs.exec (step oneConnection) initial namedRun = some s ∧
      s.threads.map name = [none, none, some [99], some [100]] ∧ Claimed s.shared [99] ∧
      Claimed s.shared [100] ∧
      ∀ (j : Nat) u, s.threads[j]? = some u → name u = some [99] → j = 2 := by
  have run : (Runs.exec (step oneConnection) initial namedRun).any (fun s =>
      decide (s.threads.map name = [none, none, some [99], some [100]])) = true := by
    decide +kernel
  obtain ⟨s, reached, met⟩ := (Option.any_eq_true _ _).mp run
  have names := of_decide_eq_true met
  have caller : ∀ (i : Nat) id, (s.threads.map name)[i]? = some (some id) →
      ∃ t, s.threads[i]? = some t ∧ name t = some id := by
    intro i id h
    rw [List.getElem?_map] at h
    exact map_eq_some_iff.mp h
  obtain ⟨t, at_t, first⟩ := caller 2 [99] (by rw [names]; rfl)
  obtain ⟨u, at_u, second⟩ := caller 3 [100] (by rw [names]; rfl)
  obtain ⟨claimed, apart⟩ := reserved_id_exclusive ⟨namedRun, reached⟩
  exact ⟨s, reached, names, claimed t (mem_of_getElem? at_t) _ first,
    claimed u (mem_of_getElem? at_u) _ second,
    fun j v at_j named => apart j 2 v t [99] at_j at_t named first⟩

end Sample

end ConnectionOwnership
