import WeDecent.Library.Cells

/-!
# At most one thread inside

A pool of threads in which at most one is in a section of its code. A thread that enters finds
nobody inside, because a lock says so or for another reason.
-/

namespace Exclusion

universe u
variable {α : Type u} {inside : α → Prop} {l new : List α} {i : Nat} {a b : α}

def Alone (inside : α → Prop) (l : List α) : Prop :=
  ∀ (i j : Nat) a b, l[i]? = some a → l[j]? = some b → inside a → inside b → i = j

theorem alone_nil : Alone inside [] := by
  intro i j a b at_i
  simp at at_i

/-- Threads join outside. -/
theorem alone_append (alone : Alone inside l) (out : ∀ x ∈ new, ¬inside x) :
    Alone inside (l ++ new) := by
  have old : ∀ {j : Nat} {x}, (l ++ new)[j]? = some x → inside x → l[j]? = some x := by
    intro j x at_j hx
    by_cases older : j < l.length
    · exact (List.getElem?_append_left older).symm.trans at_j
    · rw [List.getElem?_append_right (Nat.le_of_not_lt older)] at at_j
      exact absurd hx (out x (List.mem_of_getElem? at_j))
  intro j k x y at_j at_k hx hy
  exact alone j k x y (old at_j hx) (old at_k hy) hx hy

theorem alone_push (alone : Alone inside l) (out : ¬inside b) : Alone inside (l ++ [b]) :=
  alone_append alone (List.forall_mem_singleton.mpr out)

/-- A thread moves: it was inside, or it enters and the others are out. -/
theorem alone_set (alone : Alone inside l) (at_i : l[i]? = some a)
    (enters : inside b → inside a ∨ ∀ (j : Nat) x, j ≠ i → l[j]? = some x → ¬inside x) :
    Alone inside (l.set i b) := by
  have others (j : Nat) (y : α) (apart : j ≠ i) (at_j : l[j]? = some y) (hb : inside b) :
      ¬inside y := by
    intro hy
    rcases enters hb with ha | clear
    · exact apart (alone j i y a at_j at_i hy ha)
    · exact clear j y apart at_j hy
  intro j k x y at_j at_k hx hy
  rcases Cells.at_set at_j with ⟨rfl, rfl⟩ | ⟨jother, old⟩
  · rcases Cells.at_set at_k with ⟨rfl, rfl⟩ | ⟨kother, at_k⟩
    · rfl
    · exact absurd hy (others k y kother at_k hx)
  · rcases Cells.at_set at_k with ⟨rfl, rfl⟩ | ⟨-, at_k⟩
    · exact absurd hx (others j x jother old hy)
    · exact alone j k x y old at_k hx hy

/-- Whoever is inside keeps the others out. -/
theorem Alone.out (alone : Alone inside l) (at_i : l[i]? = some a) (ha : inside a) {j : Nat} {x : α}
    (other : j ≠ i) (at_j : l[j]? = some x) : ¬inside x :=
  fun hx => other (alone j i x a at_j at_i hx ha)

variable {waiting done : α → Prop}

/-- Whoever waits no longer has found everyone before them done. -/
def InTurn (waiting done : α → Prop) (l : List α) : Prop :=
  ∀ (i j : Nat) a b, i < j → l[i]? = some a → l[j]? = some b → ¬waiting b → done a

theorem inTurn_nil : InTurn waiting done [] := by
  intro i j a b before at_i
  simp at at_i

theorem inTurn_push (turn : InTurn waiting done l) (waits : waiting b) :
    InTurn waiting done (l ++ [b]) := by
  intro j k x y before at_j at_k out
  rcases Cells.at_push at_k with old | ⟨rfl, rfl⟩
  · have bound : j < l.length := Nat.lt_trans before (List.getElem?_eq_some_iff.mp old).1
    rw [List.getElem?_append_left bound] at at_j
    exact turn j k x y before at_j old out
  · exact absurd waits out

theorem inTurn_set (turn : InTurn waiting done l) (at_i : l[i]? = some a)
    (leaves : ¬waiting b → ¬waiting a ∨ ∀ (j : Nat) x, j < i → l[j]? = some x → done x)
    (stays : done a → done b) : InTurn waiting done (l.set i b) := by
  intro j k x y before at_j at_k out
  rcases Cells.at_set at_j with ⟨rfl, rfl⟩ | ⟨-, old⟩
  · rcases Cells.at_set at_k with ⟨rfl, rfl⟩ | ⟨-, at_k⟩
    · exact absurd before (Nat.lt_irrefl _)
    · exact stays (turn j k a y before at_i at_k out)
  · rcases Cells.at_set at_k with ⟨rfl, rfl⟩ | ⟨-, at_k⟩
    · rcases leaves out with started | clear
      · exact turn j k x a before old at_i started
      · exact clear j x before old
    · exact turn j k x y before old at_k out

/-- Everyone before one that is done is done. -/
theorem InTurn.before (turn : InTurn waiting done l) (at_i : l[i]? = some a) (out : ¬waiting a)
    (ended : done a) {j : Nat} {x : α} (upTo : j ≤ i) (at_j : l[j]? = some x) : done x := by
  rcases Nat.lt_or_eq_of_le upTo with before | rfl
  · exact turn j i x a before at_j at_i out
  · cases at_i.symm.trans at_j
    exact ended

theorem InTurn.alone (turn : InTurn waiting done l) : Alone (fun a => ¬waiting a ∧ ¬done a) l := by
  intro i j a b at_i at_j ha hb
  rcases Nat.lt_trichotomy i j with before | same | after
  · exact absurd (turn i j a b before at_i at_j hb.1) ha.2
  · exact same
  · exact absurd (turn j i b a after at_j at_i ha.1) hb.2

end Exclusion
