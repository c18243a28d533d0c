import Mathlib.Tactic.Common

/-!
# Lists of cells addressed by index

Objects that a program allocates and refers to by pointer are a list here, and a pointer
is an index. The list grows at the end and cells change in place; the lemmas say what
is found at an index afterwards.
-/

namespace Cells

open List Option

universe u
variable {α : Type u} {l : List α} {i j : Nat} {a b x : α}

theorem at_push (h : (l ++ [b])[j]? = some x) : l[j]? = some x ∨ (j = l.length ∧ x = b) := by
  by_cases old : j < l.length
  · rw [List.getElem?_append_left old] at h
    exact .inl h
  rw [List.getElem?_append_right (Nat.le_of_not_lt old)] at h
  obtain ⟨first, same⟩ := List.getElem?_eq_some_iff.mp h
  have last : j = l.length := by
    simp only [length_singleton] at first
    omega
  subst last
  simp only [Nat.sub_self, getElem_cons_zero] at same
  exact .inr ⟨rfl, same.symm⟩

theorem at_push_old (h : l[j]? = some x) : (l ++ [b])[j]? = some x := by
  obtain ⟨bound, -⟩ := List.getElem?_eq_some_iff.mp h
  rw [List.getElem?_append_left bound]
  exact h

theorem at_set (h : (l.set i b)[j]? = some x) : (j = i ∧ x = b) ∨ (j ≠ i ∧ l[j]? = some x) := by
  by_cases same : j = i
  · subst same
    rw [List.getElem?_set_self'] at h
    obtain ⟨_, -, rfl⟩ := map_eq_some_iff.mp h
    exact .inl ⟨rfl, rfl⟩
  · rw [List.getElem?_set_ne (Ne.symm same)] at h
    exact .inr ⟨same, h⟩

theorem at_set_self (h : l[i]? = some a) : (l.set i b)[i]? = some b := by
  rw [List.getElem?_set_self', h]
  rfl

theorem at_set_other (other : j ≠ i) (h : l[j]? = some x) : (l.set i b)[j]? = some x := by
  rw [List.getElem?_set_ne (Ne.symm other)]
  exact h

/-- A cell that changes in place is found at its index, and every other is as it was. -/
theorem at_modify {f : α → α} (h : (l.modify i f)[j]? = some x) :
    ∃ a, l[j]? = some a ∧ x = if i = j then f a else a := by
  rw [List.getElem?_modify] at h
  obtain ⟨a, found, rfl⟩ := map_eq_some_iff.mp h
  exact ⟨a, found, rfl⟩

theorem at_modify_of {f : α → α} (h : l[j]? = some a) :
    (l.modify i f)[j]? = some (if i = j then f a else a) := by
  rw [List.getElem?_modify, h]
  rfl

-- One thread of a pool moves and starts others: the pool `l` becomes `l.set i b ++ new`.
section Pool

variable {new : List α} {P : α → Prop} {Q : Prop}

theorem at_move (h : (l.set i b ++ new)[j]? = some x) :
    (j = i ∧ x = b) ∨ (j ≠ i ∧ l[j]? = some x) ∨ x ∈ new := by
  by_cases old : j < (l.set i b).length
  · rw [List.getElem?_append_left old] at h
    exact (at_set h).imp id .inl
  · rw [List.getElem?_append_right (Nat.le_of_not_lt old)] at h
    exact .inr (.inr (mem_of_getElem? h))

theorem mem_move (h : x ∈ l.set i b ++ new) : x ∈ l ∨ x = b ∨ x ∈ new := by
  rcases mem_append.mp h with old | fresh
  · exact (mem_or_eq_of_mem_set old).imp id .inl
  · exact .inr (.inr fresh)

theorem moved_mem (at_i : l[i]? = some a) : b ∈ l.set i b ++ new :=
  mem_append_left _ (mem_of_getElem? (at_set_self at_i))

/-- Every other thread is still there. -/
theorem kept_mem (b : α) (new : List α) (at_i : l[i]? = some a) (h : x ∈ l) :
    x = a ∨ x ∈ l.set i b ++ new := by
  obtain ⟨j, at_j⟩ := mem_iff_getElem?.mp h
  by_cases same : j = i
  · subst same
    exact .inl (Option.some.inj (at_j.symm.trans at_i))
  · exact .inr (mem_append_left _ (mem_of_getElem? (at_set_other same at_j)))

/-- What one thread owed is settled or owed by its successor, so it is settled or owed by some
thread of the new pool. -/
theorem owed_move (at_i : l[i]? = some a) (own : P a → Q ∨ P b) (h : ∃ u ∈ l, P u) :
    Q ∨ ∃ u ∈ l.set i b ++ new, P u := by
  obtain ⟨u, member, owed⟩ := h
  rcases kept_mem b new at_i member with rfl | kept
  · exact (own owed).imp id fun owed' => ⟨b, moved_mem at_i, owed'⟩
  · exact .inr ⟨u, kept, owed⟩

theorem owed_still (at_i : l[i]? = some a) (own : P a → P b) (h : ∃ u ∈ l, P u) :
    ∃ u ∈ l.set i b ++ new, P u :=
  (owed_move at_i (fun owed => .inr (own owed)) h).resolve_left not_false

end Pool

end Cells
