import Mathlib.Data.Prod.Lex
import WeDecent.Library.Cells

/-!
# The first least of those that qualify

A loop over a list that skips what does not qualify and keeps the best so far, taking
a new one only where it is strictly better, ends with the least in rank and, among
those of one rank, the first.
-/

namespace FirstLeast

variable {α κ : Type} [LinearOrder κ] (fits : α → Prop) (rank : α → κ)

/-- `a` stands at place `i` of `l` and is the least of those that fit, first by its rank
and then by its place. -/
structure Least (l : List α) (i : Nat) (a : α) : Prop where
  place : l[i]? = some a
  fitting : fits a
  least : ∀ j b, l[j]? = some b → fits b → toLex (rank a, i) ≤ toLex (rank b, j)

/-- The best so far, once the loop has seen `l`. -/
def Best (l : List α) : Option α → Prop
  | none => ∀ a ∈ l, ¬fits a
  | some a => ∃ i, Least fits rank l i a

variable {fits rank} {l : List α} {a b : α} {best : Option α}

theorem Least.lt {i : Nat} (h : Least fits rank l i a) : i < l.length :=
  (List.getElem?_eq_some_iff.mp h.place).1

theorem Best.skip (h : Best fits rank l best) (no : ¬fits b) : Best fits rank (l ++ [b]) best := by
  cases best with
  | none =>
    intro a member
    rcases List.mem_append.mp member with member | last
    · exact h a member
    · rwa [List.mem_singleton.mp last]
  | some =>
    obtain ⟨i, h⟩ := h
    refine ⟨i, Cells.at_push_old h.place, h.fitting, ?_⟩
    intro j c at_j yes
    rcases Cells.at_push at_j with at_j | ⟨-, rfl⟩
    · exact h.least j c at_j yes
    · exact absurd yes no

/-- Nothing is least but what comes last, if it is better than the least so far. -/
theorem Best.take (h : Best fits rank l best) (yes : fits b)
    (better : ∀ a, best = some a → rank b < rank a) : Best fits rank (l ++ [b]) (some b) := by
  refine ⟨l.length, List.getElem?_concat_length, yes, ?_⟩
  intro j c at_j fits_c
  rcases Cells.at_push at_j with at_j | ⟨rfl, rfl⟩
  · cases best with
    | none => exact absurd fits_c (h c (List.mem_of_getElem? at_j))
    | some a =>
      obtain ⟨i, h⟩ := h
      have low := h.least j c at_j fits_c
      have below : rank b < rank c := by
        rcases Prod.Lex.toLex_le_toLex.mp low with low | ⟨same, -⟩
        · exact (better a rfl).trans low
        · exact lt_of_lt_of_eq (better a rfl) same
      exact Prod.Lex.toLex_le_toLex.mpr (.inl below)
  · exact le_rfl

theorem Best.keep (h : Best fits rank l (some a)) (worse : rank a ≤ rank b) :
    Best fits rank (l ++ [b]) (some a) := by
  obtain ⟨i, h⟩ := h
  refine ⟨i, Cells.at_push_old h.place, h.fitting, ?_⟩
  intro j c at_j yes
  rcases Cells.at_push at_j with at_j | ⟨rfl, rfl⟩
  · exact h.least j c at_j yes
  · rcases worse.lt_or_eq with less | same
    · exact Prod.Lex.toLex_le_toLex.mpr (.inl less)
    · exact Prod.Lex.toLex_le_toLex.mpr (.inr ⟨same, h.lt.le⟩)

end FirstLeast
