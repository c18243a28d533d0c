import Mathlib.Data.List.Nodup

/-!
# Linearizable objects

Calls on an object overlap. A log names some of them in an order, each with the answer it gives,
and explains what is seen of the object: the calls of the log, one after the other, take the object
from its first state to its present one with these answers; a call that has returned an answer is
in the log with it, and one that has failed is not.

A log only grows. A call that returned before another one began is therefore in front of it.
-/

namespace Linear

variable {S Op A : Type}

/-- A call: what is asked and, once it has returned, its answer, or `none` for a failure -/
structure Call (Op A : Type) where
  op : Op
  returned : Option (Option A)

/-- The calls of a log, one after the other -/
inductive Serial (does : Op → S → A → S → Prop) (calls : List (Call Op A)) (init : S) :
    List (Nat × A) → S → Prop
  | nil : Serial does calls init [] init
  | snoc {log : List (Nat × A)} {s s' : S} {i : Nat} {c : Call Op A} {a : A}
      (serial : Serial does calls init log s) (called : calls[i]? = some c)
      (effect : does c.op s a s') : Serial does calls init (log ++ [(i, a)]) s'

structure Explains (does : Op → S → A → S → Prop) (init : S) (calls : List (Call Op A))
    (log : List (Nat × A)) (now : S) : Prop where
  serial : Serial does calls init log now
  once : (log.map Prod.fst).Nodup
  answered : ∀ (i : Nat) c a, calls[i]? = some c → c.returned = some (some a) → (i, a) ∈ log
  failed : ∀ (i : Nat) c, calls[i]? = some c → c.returned = some none → i ∉ log.map Prod.fst

variable {does : Op → S → A → S → Prop} {init now now' : S} {calls calls' : List (Call Op A)}
  {log log' : List (Nat × A)}

theorem Serial.called (serial : Serial does calls init log now) {i : Nat}
    (member : i ∈ log.map Prod.fst) : i < calls.length := by
  induction serial with
  | nil => cases member
  | snoc serial called effect ih =>
    rw [List.map_append, List.mem_append] at member
    rcases member with old | new
    · exact ih old
    · rw [List.map_singleton, List.mem_singleton] at new
      exact new ▸ (List.getElem?_eq_some_iff.mp called).1

/-- The log is one of any calls that ask the same. -/
theorem Serial.same_ops (serial : Serial does calls init log now)
    (ops : ∀ (i : Nat) c, calls[i]? = some c → ∃ c', calls'[i]? = some c' ∧ c'.op = c.op) :
    Serial does calls' init log now := by
  induction serial with
  | nil => exact .nil
  | snoc serial called effect ih =>
    obtain ⟨c', called', same⟩ := ops _ _ called
    exact .snoc ih called' (same ▸ effect)

/-- A call that has returned when another one is not yet there comes first. -/
theorem Explains.in_order (earlier : Explains does init calls log now) (grown : log <+: log')
    {i j : Nat} {c : Call Op A} {a : A} (called : calls[i]? = some c)
    (returned : c.returned = some (some a)) (later : calls.length ≤ j) :
    ∃ before after, log' = before ++ after ∧ (i, a) ∈ before ∧ j ∉ before.map Prod.fst := by
  obtain ⟨rest, rfl⟩ := grown
  refine ⟨log, rest, rfl, earlier.answered i c a called returned, fun member => ?_⟩
  exact Nat.not_lt.mpr later (earlier.serial.called member)

end Linear
