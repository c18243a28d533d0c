import WeDecent.Library.Cells

/-!
# Pairs by name

Entries that name each other. An entry has an id, stands on one of two sides, and may name a peer.
Entries come without a peer, or as the peer of one that has none; then everyone who names a peer is
named by it, and nobody ever gets another one.
-/

namespace Pairing

open List Cells

universe u
variable {Id : Type u}

structure Entry (Id : Type u) where
  id : Id
  side : Bool
  peer : Option Id

/-- The entries name each other across the sides. -/
def Linked (l : List (Entry Id)) (i j : Nat) : Prop :=
  ∃ x y, l[i]? = some x ∧ l[j]? = some y ∧ x.peer = some y.id ∧ y.peer = some x.id ∧ x.side ≠ y.side

structure Paired (l : List (Entry Id)) : Prop where
  distinct : ∀ (i j : Nat) x y, l[i]? = some x → l[j]? = some y → x.id = y.id → i = j
  linked : ∀ (i : Nat) x p, l[i]? = some x → x.peer = some p → ∃ j, Linked l i j

variable {l : List (Entry Id)} {i j k : Nat} {a e x y : Entry Id} {p : Id}

theorem paired_nil : Paired ([] : List (Entry Id)) := ⟨nofun, nofun⟩

/-- A peer is an entry, which names back. -/
theorem Paired.peer (paired : Paired l) (at_i : l[i]? = some x) (names : x.peer = some p) :
    ∃ (j : Nat) (y : Entry Id),
      l[j]? = some y ∧ y.id = p ∧ y.peer = some x.id ∧ x.side ≠ y.side := by
  obtain ⟨j, x', y, at_i', at_j, xy, yx, apart⟩ := paired.linked i x p at_i names
  cases at_i.symm.trans at_i'
  exact ⟨j, y, at_j, Option.some.inj (xy.symm.trans names), yx, apart⟩

/-- No two entries have one peer. -/
theorem Paired.injective (paired : Paired l) (at_i : l[i]? = some x) (at_j : l[j]? = some y)
    (hx : x.peer = some p) (hy : y.peer = some p) : i = j := by
  obtain ⟨m, u, at_m, uid, ux, -⟩ := paired.peer at_i hx
  obtain ⟨n, v, at_n, vid, vy, -⟩ := paired.peer at_j hy
  have same := paired.distinct m n u v at_m at_n (uid.trans vid.symm)
  subst same
  cases at_m.symm.trans at_n
  exact paired.distinct i j x y at_i at_j (Option.some.inj (ux.symm.trans vy))

theorem linked_push (h : Linked l i j) : Linked (l ++ [e]) i j := by
  obtain ⟨x, y, at_i, at_j, links⟩ := h
  exact ⟨x, y, at_push_old at_i, at_push_old at_j, links⟩

theorem distinct_push (paired : Paired l) (fresh : ∀ x ∈ l, x.id ≠ e.id) (i j : Nat)
    (x y : Entry Id) (at_i : (l ++ [e])[i]? = some x) (at_j : (l ++ [e])[j]? = some y)
    (same : x.id = y.id) : i = j := by
  rcases at_push at_i with old | ⟨rfl, rfl⟩
  · rcases at_push at_j with old' | ⟨rfl, rfl⟩
    · exact paired.distinct i j x y old old' same
    · exact absurd same (fresh x (mem_of_getElem? old))
  · rcases at_push at_j with old' | ⟨rfl, rfl⟩
    · exact absurd same.symm (fresh y (mem_of_getElem? old'))
    · rfl

theorem paired_push (paired : Paired l) (fresh : ∀ x ∈ l, x.id ≠ e.id) (single : e.peer = none) :
    Paired (l ++ [e]) where
  distinct := distinct_push paired fresh
  linked i x p at_i names := by
    rcases at_push at_i with at_i | ⟨-, rfl⟩
    · obtain ⟨j, linked⟩ := paired.linked i x p at_i names
      exact ⟨j, linked_push linked⟩
    · exact nomatch single.symm.trans names

/-- A new entry comes as the peer of one that has none. -/
def join (l : List (Entry Id)) (k : Nat) (a e : Entry Id) : List (Entry Id) :=
  l.set k { a with peer := some e.id } ++ [e]

/-- The others have the peers that they had. -/
theorem at_join (at_k : l[k]? = some a) (single : a.peer = none) (at_i : l[i]? = some x)
    (names : x.peer = some p) : (join l k a e)[i]? = some x := by
  have other : i ≠ k := by
    rintro rfl
    cases at_k.symm.trans at_i
    exact nomatch single.symm.trans names
  exact at_push_old (at_set_other other at_i)

theorem linked_join (at_k : l[k]? = some a) (single : a.peer = none) (h : Linked l i j) :
    Linked (join l k a e) i j := by
  obtain ⟨x, y, at_i, at_j, xy, yx, apart⟩ := h
  exact ⟨x, y, at_join at_k single at_i xy, at_join at_k single at_j yx, xy, yx, apart⟩

theorem joined (at_k : l[k]? = some a) (peer : e.peer = some a.id) (apart : a.side ≠ e.side) :
    Linked (join l k a e) k l.length := by
  have old : (join l k a e)[k]? = some { a with peer := some e.id } :=
    at_push_old (at_set_self at_k)
  refine ⟨_, e, old, ?_, rfl, peer, apart⟩
  have length : (l.set k { a with peer := some e.id }).length = l.length := length_set
  rw [join, ← length]
  exact List.getElem?_concat_length

theorem Linked.symm (h : Linked l i j) : Linked l j i := by
  obtain ⟨x, y, at_i, at_j, xy, yx, apart⟩ := h
  exact ⟨y, x, at_j, at_i, yx, xy, apart.symm⟩

/-- To get a peer changes no id. -/
theorem id_of_join (at_k : l[k]? = some a) (at_i : (join l k a e)[i]? = some x) :
    ∃ y, (l ++ [e])[i]? = some y ∧ y.id = x.id := by
  rcases at_push at_i with at_i | ⟨rfl, rfl⟩
  · rcases at_set at_i with ⟨rfl, rfl⟩ | ⟨-, at_i⟩
    · exact ⟨a, at_push_old at_k, rfl⟩
    · exact ⟨x, at_push_old at_i, rfl⟩
  · rw [length_set]
    exact ⟨x, List.getElem?_concat_length, rfl⟩

theorem paired_join (paired : Paired l) (at_k : l[k]? = some a) (single : a.peer = none)
    (fresh : ∀ x ∈ l, x.id ≠ e.id) (peer : e.peer = some a.id) (apart : a.side ≠ e.side) :
    Paired (join l k a e) where
  distinct i j x y at_i at_j same := by
    obtain ⟨x', old, xid⟩ := id_of_join at_k at_i
    obtain ⟨y', old', yid⟩ := id_of_join at_k at_j
    exact distinct_push paired fresh i j x' y' old old' (xid.trans (same.trans yid.symm))
  linked i x p at_i names := by
    have new := joined at_k peer apart
    rcases at_push at_i with at_i | ⟨rfl, rfl⟩
    · rcases at_set at_i with ⟨rfl, rfl⟩ | ⟨-, at_i⟩
      · exact ⟨l.length, new⟩
      · obtain ⟨j, linked⟩ := paired.linked i x p at_i names
        exact ⟨j, linked_join at_k single linked⟩
    · rw [length_set]
      exact ⟨k, new.symm⟩

end Pairing
