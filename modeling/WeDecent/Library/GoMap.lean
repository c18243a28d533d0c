import Mathlib.Data.List.Nodup

/-!
# Go maps

A map is the list of its entries, with distinct keys. The order of the entries means nothing;
a loop over a map takes them in any order.
-/

universe u v

structure GoMap (K : Type u) (V : Type v) where
  entries : List (K × V)
  distinct : (entries.map Prod.fst).Nodup

namespace GoMap

open List Option

variable {K : Type u} {V : Type v}

def empty : GoMap K V := ⟨[], nodup_nil⟩

/-- `len(m)` -/
def len (m : GoMap K V) : Nat := m.entries.length

/-- What a loop that deletes some of the entries leaves -/
def keep (m : GoMap K V) (p : K × V → Bool) : GoMap K V :=
  ⟨m.entries.filter p, m.distinct.sublist (filter_sublist.map _)⟩

theorem len_keep_le (m : GoMap K V) (p : K × V → Bool) : (m.keep p).len ≤ m.len :=
  length_filter_le _ _

section Keys

variable [DecidableEq K]

/-- `v, ok := m[k]` -/
def get (m : GoMap K V) (k : K) : Option V := (m.entries.find? fun e => e.1 = k).map Prod.snd

/-- `delete(m, k)` -/
def erase (m : GoMap K V) (k : K) : GoMap K V := m.keep fun e => decide (e.1 ≠ k)

theorem not_mem_erase (m : GoMap K V) (k : K) : k ∉ (m.erase k).entries.map Prod.fst := by
  intro h
  obtain ⟨e, member, rfl⟩ := List.mem_map.mp h
  exact of_decide_eq_true (mem_filter.mp member).2 rfl

/-- `m[k] = v` -/
def set (m : GoMap K V) (k : K) (v : V) : GoMap K V :=
  ⟨(k, v) :: (m.erase k).entries, nodup_cons.mpr ⟨m.not_mem_erase k, (m.erase k).distinct⟩⟩

variable {m : GoMap K V} {k k' : K} {v w : V}

@[simp] theorem get_empty : (empty : GoMap K V).get k = none := rfl

theorem get_eq_some : m.get k = some v ↔ (k, v) ∈ m.entries := by
  constructor
  · intro h
    obtain ⟨e, found, rfl⟩ := map_eq_some_iff.mp h
    have same : e.1 = k := by simpa using find?_some found
    subst same
    exact List.mem_of_find?_eq_some found
  · intro member
    cases found : m.get k with
    | none =>
      have absent := find?_eq_none.mp (map_eq_none_iff.mp found) _ member
      exact absurd (decide_eq_true rfl) absent
    | some =>
      obtain ⟨e, at_k, rfl⟩ := map_eq_some_iff.mp found
      have same : e.1 = k := by simpa using find?_some at_k
      have entry : e = (k, v) :=
        inj_on_of_nodup_map m.distinct (List.mem_of_find?_eq_some at_k) member same
      rw [entry]

theorem get_keep {p : K × V → Bool} : (m.keep p).get k = some v ↔ m.get k = some v ∧ p (k, v) := by
  rw [get_eq_some, get_eq_some]
  exact mem_filter

@[simp] theorem get_erase_self : (m.erase k).get k = none := by
  cases found : (m.erase k).get k with
  | none => rfl
  | some =>
    have kept := (get_keep.mp found).2
    simp at kept

theorem get_erase_of_ne (other : k' ≠ k) : (m.erase k).get k' = m.get k' := by
  apply Option.ext
  intro v
  rw [erase, get_keep]
  simp [other]

theorem get_of_erase (h : (m.erase k).get k' = some v) : k' ≠ k ∧ m.get k' = some v := by
  have kept := get_keep.mp h
  exact ⟨of_decide_eq_true kept.2, kept.1⟩

@[simp] theorem get_set_self : (m.set k v).get k = some v := by
  rw [get_eq_some]
  exact mem_cons_self

theorem get_set_of_ne (other : k' ≠ k) : (m.set k v).get k' = m.get k' := by
  apply Option.ext
  intro w
  rw [← get_erase_of_ne (m := m) other, get_eq_some, get_eq_some]
  simp [set, other]

theorem get_of_set (h : (m.set k v).get k' = some w) :
    (k' = k ∧ w = v) ∨ (k' ≠ k ∧ m.get k' = some w) := by
  by_cases same : k' = k
  · subst same
    rw [get_set_self] at h
    exact .inl ⟨rfl, (Option.some.inj h).symm⟩
  · rw [get_set_of_ne same] at h
    exact .inr ⟨same, h⟩

/-- Store a value at a key, or delete the key. -/
def write (m : GoMap K V) (k : K) : Option V → GoMap K V
  | some v => m.set k v
  | none => m.erase k

theorem get_write_self {x : Option V} : (m.write k x).get k = x := by
  cases x with
  | none => exact get_erase_self
  | some => exact get_set_self

theorem get_write_of_ne {x : Option V} (other : k' ≠ k) : (m.write k x).get k' = m.get k' := by
  cases x with
  | none => exact get_erase_of_ne other
  | some => exact get_set_of_ne other

/-- The map after all the writes of another one -/
def patch (m : GoMap K V) (writes : GoMap K (Option V)) : GoMap K V :=
  writes.entries.foldr (fun e m => m.write e.1 e.2) m

theorem get_patch {writes : GoMap K (Option V)} :
    (m.patch writes).get k = (writes.get k).getD (m.get k) := by
  unfold patch get
  induction writes.entries with
  | nil => rfl
  | cons e l ih =>
    rw [foldr_cons]
    by_cases same : e.1 = k
    · subst same
      rw [find?_cons_of_pos (by simp)]
      exact get_write_self
    · rw [find?_cons_of_neg (by simpa using same), ← ih]
      exact get_write_of_ne (Ne.symm same)

/-- The entries of a list, where a later one replaces an earlier one with its key -/
def ofList (l : List (K × V)) : GoMap K V := l.foldl (fun m e => m.set e.1 e.2) .empty

theorem get_foldl_set {l : List (K × V)} (distinct : (l.map Prod.fst).Nodup) :
    (l.foldl (fun m e => m.set e.1 e.2) m).get k = some v ↔
      (k, v) ∈ l ∨ (k ∉ l.map Prod.fst ∧ m.get k = some v) := by
  induction l generalizing m with
  | nil => simp
  | cons e l ih =>
    obtain ⟨k', w⟩ := e
    rw [map_cons, nodup_cons] at distinct
    rw [foldl_cons, ih distinct.2]
    by_cases same : k = k'
    · subst same
      have absent : (k, v) ∉ l := fun member =>
        distinct.1 (List.mem_map.mpr ⟨(k, v), member, rfl⟩)
      simp only [get_set_self, Option.some.injEq, mem_cons, Prod.mk.injEq, true_and,
        map_cons, true_or, not_true_eq_false, false_and, or_false, absent, false_or]
      exact ⟨fun h => h.2.symm, fun h => ⟨distinct.1, h.symm⟩⟩
    · rw [get_set_of_ne same]
      simp [same]

theorem get_ofList {l : List (K × V)} (distinct : (l.map Prod.fst).Nodup) :
    (ofList l).get k = some v ↔ (k, v) ∈ l := by
  rw [ofList, get_foldl_set distinct]
  simp

theorem erase_entries_of_none (h : m.get k = none) : (m.erase k).entries = m.entries := by
  apply filter_eq_self.mpr
  rintro ⟨k', v⟩ member
  refine decide_eq_true fun same => ?_
  have found : m.get k = some v := get_eq_some.mpr (same ▸ member)
  rw [h] at found
  cases found

theorem len_set_of_none (h : m.get k = none) : (m.set k v).len = m.len + 1 := by
  simp [len, set, erase_entries_of_none h]

/-- An entry leaves the map. -/
theorem len_erase_of_some (h : m.get k = some v) : (m.erase k).len + 1 = m.len := by
  have listed : k ∈ m.entries.map Prod.fst := List.mem_map.mpr ⟨(k, v), get_eq_some.mp h, rfl⟩
  have keys : ((m.erase k).entries.map Prod.fst) = (m.entries.map Prod.fst).erase k := by
    rw [m.distinct.erase_eq_filter, List.filter_map]
    congr 1
    apply filter_congr
    intro e _
    rw [Bool.eq_iff_iff]
    simp
  have short := length_erase_add_one listed
  rw [← keys, length_map, length_map] at short
  exact short

theorem len_set_of_some (h : m.get k = some v) : (m.set k w).len = m.len := by
  have left := len_erase_of_some h
  simp only [len, set, length_cons] at left ⊢
  omega

end Keys

end GoMap
