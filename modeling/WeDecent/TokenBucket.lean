import Mathlib.Data.Rat.Floor
import Mathlib.Tactic.FieldSimp
import Mathlib.Tactic.Linarith
import WeDecent.Library.Fallible

/-!
# The token bucket of the relay's rate limit

`consumeTokenBucket` (`relay-worker/src/rate-limit.js`) over exact numbers. A bucket that has `c`
tokens when it is full gains them back in one window. The clock of a call may be behind an earlier
one; the bucket then gains nothing until the clock has passed its latest reading.

The tokens left and the calls accepted together grow only by what the clock brings.
-/

namespace TokenBucket

open List Fallible

def maxWindowSeconds : Int := 3600
def maxConnectionsPerWindow : Int := 10000

structure Bucket where
  tokens : Rat
  updatedAtMS : Rat
  deriving DecidableEq

structure Consumption where
  accepted : Bool
  retryAfterMS : Int
  state : Bucket
  deriving DecidableEq

/-- The bucket of a call before it takes its token -/
def refill (state : Option Bucket) (nowMS : Rat) (capacity windowMS : Int) : Bucket :=
  match state with
  | none => ⟨capacity, nowMS⟩
  | some b =>
    let elapsedMS := max 0 (nowMS - b.updatedAtMS)
    ⟨min capacity (b.tokens + elapsedMS * capacity / windowMS), max b.updatedAtMS nowMS⟩

def consumeTokenBucket (state : Option Bucket) (nowMS : Rat) (capacity windowMS : Int) :
    Except String Consumption := do
  failIf (nowMS < 0) "invalid rate-limit clock"
  failIf (capacity < 1 ∨ maxConnectionsPerWindow < capacity) "invalid rate-limit capacity"
  failIf (windowMS < 1000 ∨ maxWindowSeconds * 1000 < windowMS) "invalid rate-limit window"
  failIf (state.any fun b => b.tokens < 0 || b.updatedAtMS < 0) "invalid persisted rate-limit state"
  let b := refill state nowMS capacity windowMS
  return if 1 ≤ b.tokens then ⟨true, 0, { b with tokens := b.tokens - 1 }⟩
    else ⟨false, max 1 ⌈(1 - b.tokens) * windowMS / capacity⌉, b⟩

/-- A call that throws leaves the bucket as it is. -/
def next (capacity windowMS : Int) (state : Option Bucket) (nowMS : Rat) : Option Bucket :=
  match consumeTokenBucket state nowMS capacity windowMS with
  | .ok c => some c.state
  | .error _ => state

def accepts (capacity windowMS : Int) (state : Option Bucket) (nowMS : Rat) : Nat :=
  match consumeTokenBucket state nowMS capacity windowMS with
  | .ok c => if c.accepted then 1 else 0
  | .error _ => 0

/-- The bucket after calls with these readings, from an empty start -/
def after (capacity windowMS : Int) (readings : List Rat) : Option Bucket :=
  readings.foldl (next capacity windowMS) none

def accepted (capacity windowMS : Int) : Option Bucket → List Rat → Nat
  | _, [] => 0
  | state, nowMS :: rest =>
    accepts capacity windowMS state nowMS +
      accepted capacity windowMS (next capacity windowMS state nowMS) rest

/-- The running maximum of the clock, which is not before the epoch -/
def peak (readings : List Rat) : Rat := readings.foldl max 0

section Bound

variable {c w : Int} {state : Option Bucket} {top now : Rat}

/-- The bucket is within its capacity, and its time is the latest reading. -/
def Level (c : Int) (top : Rat) : Option Bucket → Prop
  | none => top = 0
  | some b => 0 ≤ b.tokens ∧ b.tokens ≤ c ∧ b.updatedAtMS = top ∧ 0 ≤ top

/-- The tokens that may still be taken at the latest reading -/
def level (c : Int) : Option Bucket → Rat
  | none => c
  | some b => b.tokens

/-- A window and a capacity that the function accepts -/
def valid (c w : Int) : Bool :=
  decide (1 ≤ c ∧ c ≤ maxConnectionsPerWindow ∧ 1000 ≤ w ∧ w ≤ maxWindowSeconds * 1000)

theorem consume_early (early : now < 0) :
    consumeTokenBucket state now c w = .error "invalid rate-limit clock" := by
  unfold consumeTokenBucket failIf
  rw [if_pos early]
  rfl

theorem consume_eq (range : valid c w = true) (held : Level c top state) (reading : 0 ≤ now) :
    consumeTokenBucket state now c w = .ok (if 1 ≤ (refill state now c w).tokens then
          ⟨true, 0, { refill state now c w with tokens := (refill state now c w).tokens - 1 }⟩
        else ⟨false, max 1 ⌈(1 - (refill state now c w).tokens) * w / c⌉,
          refill state now c w⟩) := by
  obtain ⟨cLow, cHigh, wLow, wHigh⟩ := of_decide_eq_true range
  have sane : ¬(state.any fun b => b.tokens < 0 || b.updatedAtMS < 0) = true := by
    cases state with
    | none => simp
    | some =>
      obtain ⟨low, -, rfl, early⟩ := held
      simp [not_lt.mpr low, not_lt.mpr early]
  unfold consumeTokenBucket
  rw [failIf_pass (not_lt.mpr reading), failIf_pass (by omega), failIf_pass (by omega),
    failIf_pass sane]
  rfl

/-- What the refilled bucket has -/
structure Refilled (c w : Int) (top now : Rat) (state : Option Bucket) (b : Bucket) : Prop where
  low : 0 ≤ b.tokens
  high : b.tokens ≤ c
  gained : b.tokens ≤ level c state + c * ((max top now - top) / w)
  latest : b.updatedAtMS = max top now

section

variable (range : valid c w = true)

include range

theorem refilled (held : Level c top state) (reading : 0 ≤ now) :
    Refilled c w top now state (refill state now c w) := by
  obtain ⟨cLow, -, wLow, -⟩ := of_decide_eq_true range
  have cPos : (0 : Rat) ≤ c := by exact_mod_cast (by omega : (0 : Int) ≤ c)
  have wPos : (0 : Rat) < w := by exact_mod_cast (by omega : (0 : Int) < w)
  cases state with
  | none =>
    obtain rfl : top = 0 := held
    refine ⟨cPos, le_refl _, ?_, (max_eq_right reading).symm⟩
    have gain : 0 ≤ c * ((max 0 now - 0) / w : Rat) := by
      have := le_max_left 0 now
      positivity
    change (c : Rat) ≤ c + _
    linarith
  | some b =>
    obtain ⟨low, high, rfl, -⟩ := held
    have elapsed : max 0 (now - b.updatedAtMS) = max b.updatedAtMS now - b.updatedAtMS := by
      rcases le_total now b.updatedAtMS with behind | ahead
      · rw [max_eq_left (sub_nonpos.mpr behind), max_eq_left behind, sub_self]
      · rw [max_eq_right (sub_nonneg.mpr ahead), max_eq_right ahead]
    have gain : 0 ≤ max 0 (now - b.updatedAtMS) * c / w := by positivity
    refine ⟨le_min cPos (by linarith), min_le_left _ _, ?_, rfl⟩
    refine (min_le_right _ _).trans (le_of_eq ?_)
    rw [elapsed, level]
    ring

/-- One call keeps the level, and pays for what it takes. -/
theorem call_level (held : Level c top state) (now : Rat) :
    Level c (max top now) (next c w state now) ∧
      accepts c w state now + level c (next c w state now) ≤ c ∧
      accepts c w state now + level c (next c w state now) ≤
        level c state + c * ((max top now - top) / w) := by
  have early : 0 ≤ top ∧ level c state ≤ c := by
    cases state with
    | none => exact ⟨le_of_eq held.symm, le_refl _⟩
    | some => exact ⟨held.2.2.2, held.2.1⟩
  rw [next, accepts]
  by_cases before : now < 0
  · have still : max top now = top := max_eq_left (before.le.trans early.1)
    rw [consume_early before, still, sub_self, zero_div, mul_zero, add_zero,
      Nat.cast_zero, zero_add]
    exact ⟨held, early.2, le_refl _⟩
  · have full := refilled range held (not_lt.mp before)
    rw [consume_eq range held (not_lt.mp before)]
    by_cases enough : 1 ≤ (refill state now c w).tokens
    · rw [if_pos enough]
      refine ⟨⟨?_, ?_, full.latest, early.1.trans (le_max_left _ _)⟩, ?_, ?_⟩
      · exact sub_nonneg.mpr enough
      · exact (sub_le_self _ zero_le_one).trans full.high
      · simpa [level] using full.high
      · simpa [level] using full.gained
    · rw [if_neg enough]
      refine ⟨⟨full.low, full.high, full.latest, early.1.trans (le_max_left _ _)⟩, ?_, ?_⟩
      · simpa [level] using full.high
      · simpa [level] using full.gained

theorem level_after (readings : List Rat) : Level c (peak readings) (after c w readings) := by
  have run : ∀ (rest : List Rat) (top : Rat) (state : Option Bucket), Level c top state →
      Level c (rest.foldl max top) (rest.foldl (next c w) state) := by
    intro rest
    induction rest with
    | nil => exact fun _ _ held => held
    | cons now rest ih => exact fun top state held => ih _ _ (call_level range held now).1
  exact run readings 0 none rfl

/-- The calls of a run take what was there and what the clock has brought. -/
theorem accepted_level (readings : List Rat) (held : Level c top state) :
    accepted c w state readings ≤ level c state + c * ((readings.foldl max top - top) / w) := by
  induction readings generalizing top state with
  | nil =>
    have low : 0 ≤ level c state := by
      cases state with
      | none =>
        obtain ⟨cLow, -⟩ := of_decide_eq_true range
        exact Int.cast_nonneg (by omega)
      | some => exact held.1
    simpa [accepted] using low
  | cons now rest ih =>
    obtain ⟨kept, -, paid⟩ := call_level range held now
    have more := ih kept
    rw [accepted, Nat.cast_add, foldl_cons]
    have split : (rest.foldl max (max top now) - top) / (w : Rat) =
        (rest.foldl max (max top now) - max top now) / w + (max top now - top) / w := by ring
    rw [split, mul_add]
    linarith

/-- A caller that was refused at the latest reading is accepted after the time it was told. -/
theorem retry_accepted (held : Level c top state) (last : top ≤ now)
    {y : Rat} {r : Consumption} (returned : consumeTokenBucket state now c w = .ok r)
    (refused : r.accepted = false) (later : now + r.retryAfterMS ≤ y) :
    ∃ r', consumeTokenBucket (some r.state) y c w = .ok r' ∧ r'.accepted = true := by
  by_cases early : now < 0
  · cases (consume_early early).symm.trans returned
  have reading := not_lt.mp early
  have full := refilled range held reading
  rw [consume_eq range held reading] at returned
  split at returned
  · cases returned
    cases refused
  rename_i short
  cases returned
  obtain ⟨cLow, -, wLow, -⟩ := of_decide_eq_true range
  have cOne : (1 : Rat) ≤ c := by exact_mod_cast cLow
  have wPos : (0 : Rat) < w := by exact_mod_cast (by omega : (0 : Int) < w)
  have time : (refill state now c w).updatedAtMS = now := full.latest.trans (max_eq_right last)
  have wait : (1 - (refill state now c w).tokens) * w / c ≤ y - now := by
    have bound := Int.le_ceil ((1 - (refill state now c w).tokens) * w / c : Rat)
    have told : (⌈(1 - (refill state now c w).tokens) * w / c⌉ : Rat) ≤
        (max 1 ⌈(1 - (refill state now c w).tokens) * w / c⌉ : Int) := by
      exact_mod_cast le_max_right _ _
    linarith
  have kept : Level c now (some (refill state now c w)) :=
    ⟨full.low, full.high, time, reading⟩
  have ahead : now ≤ y := by
    have told : ((1 : Int) : Rat) ≤
        (max 1 ⌈(1 - (refill state now c w).tokens) * w / c⌉ : Int) := by
      exact_mod_cast le_max_left _ _
    push_cast at told later
    linarith
  have enough : 1 ≤ (refill (some (refill state now c w)) y c w).tokens := by
    refine le_min cOne ?_
    rw [time, max_eq_right (sub_nonneg.mpr ahead)]
    have gained : 1 - (refill state now c w).tokens ≤ (y - now) * c / w := by
      rw [le_div_iff₀ wPos]
      rwa [div_le_iff₀ (by linarith)] at wait
    linarith
  refine ⟨_, consume_eq range kept (reading.trans ahead), ?_⟩
  rw [if_pos enough]

end

end Bound

/-- The tokens stay within the capacity, the calls from one call on to another are bounded by the
capacity and what the clock brings, and the delay that a refused caller is told is enough. -/
theorem token_bucket_bound (c w : Int) (range : valid c w = true) (earlier later : List Rat)
    (x : Rat) :
    (∀ b, after c w earlier = some b → 0 ≤ b.tokens ∧ b.tokens ≤ c) ∧
      (accepted c w (after c w earlier) (x :: later) : Rat) ≤
        c + c * ((peak (earlier ++ x :: later) - peak (earlier ++ [x])) / w) ∧
      ∀ (y : Rat) (r : Consumption), (earlier ++ [x]).Pairwise (· ≤ ·) →
        consumeTokenBucket (after c w earlier) x c w = .ok r → r.accepted = false →
        x + r.retryAfterMS ≤ y →
        ∃ r', consumeTokenBucket (some r.state) y c w = .ok r' ∧ r'.accepted = true := by
  have held := level_after range earlier
  refine ⟨fun b same => ?_, ?_, fun y r ordered returned refused later => ?_⟩
  · rw [same] at held
    exact ⟨held.1, held.2.1⟩
  · obtain ⟨kept, within, -⟩ := call_level range held x
    have rest := accepted_level range later kept
    rw [accepted, Nat.cast_add, peak, peak, foldl_append, foldl_append, foldl_cons,
      foldl_cons, foldl_nil]
    exact (add_le_add_right rest _).trans (by rw [← add_assoc]; exact add_le_add_left within _)
  · by_cases early : x < 0
    · cases (consume_early early).symm.trans returned
    refine retry_accepted range held ?_ returned refused later
    have below : ∀ z ∈ earlier, z ≤ x := fun z member =>
      (pairwise_append.mp ordered).2.2 z member x (mem_singleton.mpr rfl)
    have run : ∀ (rest : List Rat) (top : Rat), top ≤ x → (∀ z ∈ rest, z ≤ x) →
        rest.foldl max top ≤ x := by
      intro rest
      induction rest with
      | nil => exact fun _ low _ => low
      | cons z rest ih =>
        intro top low each
        exact ih _ (max_le low (each z mem_cons_self)) fun z' member =>
          each z' (mem_cons_of_mem z member)
    exact run earlier 0 (not_lt.mp early) below

/-- Two calls a second: the third call at once is refused, and told to wait for 500 ms. -/
theorem two_a_second_bound : valid 2 1000 = true ∧
      (accepted 2 1000 (after 2 1000 [0, 0]) [0, 250, 500] : Rat) ≤
        2 + 2 * ((peak [0, 0, 0, 250, 500] - peak [0, 0, 0]) / 1000) ∧
      ∃ r', consumeTokenBucket (some ⟨0, 0⟩) 500 2 1000 = .ok r' ∧ r'.accepted = true := by
  obtain ⟨-, bound, retry⟩ := token_bucket_bound 2 1000 (by decide) [0, 0] [250, 500] 0
  exact ⟨by decide, by simpa using bound,
    retry 500 ⟨false, 500, ⟨0, 0⟩⟩ (by decide +kernel) (by decide +kernel) rfl (by norm_num)⟩

end TokenBucket
