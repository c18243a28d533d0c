import Mathlib.Tactic.Common

/-!
# Runs of a partial step function under a schedule

A system is a step function on states and actions; `none` means that the
action is not enabled in that state. A schedule is the list of actions taken,
so a property of every schedule is a property of every interleaving of the
goroutines whose steps the actions name.
-/

namespace Runs

universe u v
variable {State : Type u} {Act : Type v}

/-- Take the actions of a schedule one after the other. -/
def exec (step : State → Act → Option State) : State → List Act → Option State
  | s, [] => some s
  | s, a :: rest => (step s a).bind fun s' => exec step s' rest

/-- Every action of the schedule is taken in a state that meets `ok`. -/
def Meets (step : State → Act → Option State) (ok : State → Act → Prop) : State → List Act → Prop
  | _, [] => True
  | s, a :: rest => ok s a ∧ ∀ s', step s a = some s' → Meets step ok s' rest

def Reachable (step : State → Act → Option State) (init s : State) : Prop :=
  ∃ acts, exec step init acts = some s

variable {step : State → Act → Option State} {ok : State → Act → Prop}

@[simp] theorem exec_nil (s : State) : exec step s [] = some s := rfl

theorem exec_cons {s t : State} {a : Act} {rest : List Act} : exec step s (a :: rest) = some t ↔
      ∃ s', step s a = some s' ∧ exec step s' rest = some t := by
  simp only [exec, Option.bind_eq_some_iff]

theorem exec_append {s t : State} {first second : List Act} :
    exec step s (first ++ second) = some t ↔
      ∃ m, exec step s first = some m ∧ exec step m second = some t := by
  induction first generalizing s with
  | nil => simp
  | cons a rest ih =>
    simp only [List.cons_append, exec_cons, ih]
    constructor
    · rintro ⟨s', hs, m, hm, ht⟩
      exact ⟨m, ⟨s', hs, hm⟩, ht⟩
    · rintro ⟨m, ⟨s', hs, hm⟩, ht⟩
      exact ⟨s', hs, m, hm, ht⟩

/-- A schedule conforms in its first part and then from where that part ends. -/
theorem meets_append {s t : State} {first second : List Act} (run : exec step s first = some t)
    (meets : Meets step ok s (first ++ second)) :
    Meets step ok s first ∧ Meets step ok t second := by
  induction first generalizing s with
  | nil =>
    have same : s = t := Option.some.inj run
    exact ⟨trivial, same ▸ meets⟩
  | cons a rest ih =>
    obtain ⟨s', hs, ht⟩ := exec_cons.mp run
    obtain ⟨earlier, later⟩ := ih ht (meets.2 s' hs)
    refine ⟨⟨meets.1, fun s'' hs'' => ?_⟩, later⟩
    exact Option.some.inj (hs.symm.trans hs'') ▸ earlier

/-- Whether a schedule conforms is decided by running it. -/
instance decidableMeets [∀ s a, Decidable (ok s a)] (s : State) (acts : List Act) :
    Decidable (Meets step ok s acts) :=
  match acts with
  | [] => isTrue trivial
  | a :: rest =>
    match hs : step s a with
    | none => decidable_of_iff (ok s a)
        ⟨fun h => ⟨h, fun s' hs' => by rw [hs] at hs'; cases hs'⟩, fun h => h.1⟩
    | some t =>
      have := decidableMeets t rest
      decidable_of_iff (ok s a ∧ Meets step ok t rest)
        ⟨fun h => ⟨h.1, fun s' hs' => Option.some.inj (hs.symm.trans hs') ▸ h.2⟩,
          fun h => ⟨h.1, h.2 t hs⟩⟩

/-- What every conforming step preserves holds at the end of a conforming run. -/
theorem exec_invariant (inv : State → Prop)
    (preserved : ∀ s a s', inv s → ok s a → step s a = some s' → inv s')
    {s t : State} {acts : List Act} (start : inv s) (meets : Meets step ok s acts)
    (run : exec step s acts = some t) : inv t := by
  induction acts generalizing s with
  | nil =>
    have same : s = t := Option.some.inj run
    exact same ▸ start
  | cons a rest ih =>
    obtain ⟨s', hs, ht⟩ := exec_cons.mp run
    exact ih (preserved s a s' start meets.1 hs) (meets.2 s' hs) ht

/-- The same rule for a property that every enabled step preserves. -/
theorem reachable_invariant (inv : State → Prop)
    (preserved : ∀ s a s', inv s → step s a = some s' → inv s')
    {init s : State} (start : inv init) (reach : Reachable step init s) : inv s := by
  obtain ⟨acts, run⟩ := reach
  induction acts generalizing init with
  | nil =>
    have same : init = s := Option.some.inj run
    exact same ▸ start
  | cons a rest ih =>
    obtain ⟨m, hm, ht⟩ := exec_cons.mp run
    exact ih (preserved init a m start hm) ht

end Runs
