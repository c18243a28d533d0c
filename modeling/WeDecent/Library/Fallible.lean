import Mathlib.Tactic.Common

/-!
# Functions that return an error

A Go function that returns an error is a sequence of checks and calls, each of
which may end it. Here it is a `do` block in `Except`; these lemmas take such a
block apart at the point where it has returned no error.
-/

namespace Fallible

universe u v
variable {ε : Type v} {α β : Type u}

/-- `if c { return e }` -/
def failIf (c : Prop) [Decidable c] (e : ε) : Except ε Unit :=
  if c then .error e else .ok ()

/-- Call `x`, and return `wrap e` where it returns the error `e`. -/
def orFail {δ : Type v} (wrap : δ → ε) (x : Except δ α) : Except ε α :=
  x.mapError wrap

theorem bind_eq_ok {x : Except ε α} {f : α → Except ε β} {r : β} :
    x >>= f = .ok r ↔ ∃ a, x = .ok a ∧ f a = .ok r := by
  cases x <;> simp [bind, Except.bind]

theorem exists_ok {x : Except ε α} (h : x.toOption.isSome = true) : ∃ r, x = .ok r := by
  cases x with
  | error => exact nomatch h
  | ok r => exact ⟨r, rfl⟩

theorem ok_then (a : α) (f : α → Except ε β) : (Except.ok a >>= f) = f a := rfl

theorem ok_of_toOption {x : Except ε α} {a : α} (h : x.toOption = some a) : x = .ok a := by
  cases x with
  | error => exact nomatch h
  | ok => exact congrArg Except.ok (Option.some.inj h)

/-- An early return has not been taken. -/
theorem guard_eq_ok {γ : Type} {c : Prop} [Decidable c] {e : ε} {x : Except ε γ} {r : γ} :
    (if c then .error e else x) = .ok r ↔ ¬ c ∧ x = .ok r := by
  split
  · rename_i h
    simp [h]
  · rename_i h
    simp [h]

@[simp] theorem failIf_eq_ok {c : Prop} [Decidable c] {e : ε} {r : Unit} :
    failIf c e = .ok r ↔ ¬ c := by
  rw [failIf, guard_eq_ok]
  exact and_iff_left rfl

theorem failIf_pass {c : Prop} [Decidable c] {e : ε} (h : ¬ c) : failIf c e = .ok () :=
  failIf_eq_ok.mpr h

theorem failIf_then {γ : Type} {c : Prop} [Decidable c] {e : ε} {x : Except ε γ} {r : γ} :
    (failIf c e >>= fun _ => x) = .ok r ↔ ¬ c ∧ x = .ok r := by
  unfold failIf
  split
  · rename_i h
    simp [h, bind, Except.bind]
  · rename_i h
    simp [h, bind, Except.bind]

@[simp] theorem orFail_eq_ok {δ : Type v} {wrap : δ → ε} {x : Except δ α} {a : α} :
    orFail wrap x = .ok a ↔ x = .ok a := by
  cases x <;> simp [orFail, Except.mapError]

theorem mapM_eq_ok {f : α → Except ε β} {g : α → β} {l : List α}
    (h : ∀ a ∈ l, f a = .ok (g a)) : l.mapM f = .ok (l.map g) := by
  induction l with
  | nil => rfl
  | cons a l ih =>
    rw [List.mapM_cons, h a List.mem_cons_self,
      ih fun b member => h b (List.mem_cons_of_mem a member)]
    rfl

/-- What holds before a loop and is kept by each turn of it holds after it. -/
theorem foldlM_ok {σ : Type u} {f : σ → α → Except ε σ} (inv : List α → σ → Prop) {s t : σ}
    {l : List α} (start : inv [] s)
    (step : ∀ done s a s', inv done s → f s a = .ok s' → inv (done ++ [a]) s')
    (h : l.foldlM f s = .ok t) : inv l t := by
  have run : ∀ (rest done : List α) (s : σ), inv done s → rest.foldlM f s = .ok t →
      inv (done ++ rest) t := by
    intro rest
    induction rest with
    | nil =>
      intro done s held h
      cases h
      rwa [List.append_nil]
    | cons a rest ih =>
      intro done s held h
      obtain ⟨s', turn, h⟩ := bind_eq_ok.mp h
      rw [List.append_cons]
      exact ih _ s' (step done s a s' held turn) h
  exact run l [] s start h

theorem foldlM_total {σ : Type u} {f : σ → α → Except ε σ} (l : List α) (s : σ)
    (total : ∀ s a, ∃ s', f s a = .ok s') : ∃ t, l.foldlM f s = .ok t := by
  induction l generalizing s with
  | nil => exact ⟨s, rfl⟩
  | cons a rest ih =>
    obtain ⟨s', turn⟩ := total s a
    obtain ⟨t, run⟩ := ih s'
    exact ⟨t, bind_eq_ok.mpr ⟨s', turn, run⟩⟩

end Fallible
