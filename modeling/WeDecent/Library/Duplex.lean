import WeDecent.Library.Runs

/-!
# Two parties over a pair of FIFO channels

A party is a step function whose actions may take one message from the party's
incoming channel and may append messages to its outgoing one. An action names
the message it takes, and is enabled only when that message is the oldest of the
channel; so a schedule of the link interleaves the steps of both sides with the
deliveries in every order that FIFO channels allow.
-/

namespace Duplex

universe u v w
variable {S T : Type u} {A B : Type v} {M : Type w}

structure Party (S : Type u) (A : Type v) (M : Type w) where
  input : A → Option M
  step : S → A → Option (S × List M)

structure Link (S T : Type u) (M : Type w) where
  left : S
  right : T
  toRight : List M
  toLeft : List M

inductive Act (A B : Type v) where
  | left (a : A)
  | right (b : B)

/-- The channel without the message an action takes. -/
def take [DecidableEq M] : Option M → List M → Option (List M)
  | none, queue => some queue
  | some _, [] => none
  | some m, m' :: rest => if m = m' then some rest else none

def step [DecidableEq M] (p : Party S A M) (q : Party T B M) (l : Link S T M) :
    Act A B → Option (Link S T M)
  | .left a =>
    match take (p.input a) l.toLeft, p.step l.left a with
    | some rest, some (s, out) => some ⟨s, l.right, l.toRight ++ out, rest⟩
    | _, _ => none
  | .right b =>
    match take (q.input b) l.toRight, q.step l.right b with
    | some rest, some (t, out) => some ⟨l.left, t, rest, l.toLeft ++ out⟩
    | _, _ => none

theorem take_eq_some [DecidableEq M] {input : Option M} {queue rest : List M} :
    take input queue = some rest ↔ queue = input.toList ++ rest := by
  cases input with
  | none =>
    simp [take]
  | some m =>
    cases queue with
    | nil => simp [take]
    | cons m' tail =>
      simp only [take, Option.toList_some, List.singleton_append, List.cons.injEq]
      split
      · rename_i same
        simp [same]
      · rename_i other
        simp [Ne.symm other]

/-- What a step of the left party does to the link. -/
structure LeftMoves (p : Party S A M) (l : Link S T M) (a : A) (out : List M)
    (l' : Link S T M) : Prop where
  step : p.step l.left a = some (l'.left, out)
  right : l'.right = l.right
  toRight : l'.toRight = l.toRight ++ out
  toLeft : l.toLeft = (p.input a).toList ++ l'.toLeft

structure RightMoves (q : Party T B M) (l : Link S T M) (b : B) (out : List M)
    (l' : Link S T M) : Prop where
  step : q.step l.right b = some (l'.right, out)
  left : l'.left = l.left
  toLeft : l'.toLeft = l.toLeft ++ out
  toRight : l.toRight = (q.input b).toList ++ l'.toRight

variable [DecidableEq M] {p : Party S A M} {q : Party T B M}

theorem step_left {l l' : Link S T M} {a : A} (h : step p q l (.left a) = some l') :
    ∃ out, LeftMoves p l a out l' := by
  simp only [step] at h
  split at h
  · rename_i rest s out htake hstep
    cases h
    exact ⟨out, hstep, rfl, rfl, take_eq_some.mp htake⟩
  · cases h

theorem step_right {l l' : Link S T M} {b : B} (h : step p q l (.right b) = some l') :
    ∃ out, RightMoves q l b out l' := by
  simp only [step] at h
  split at h
  · rename_i rest t out htake hstep
    cases h
    exact ⟨out, hstep, rfl, rfl, take_eq_some.mp htake⟩
  · cases h

/-- A property of links that both parties' steps preserve. -/
theorem step_preserves (inv : Link S T M → Prop)
    (ofLeft : ∀ l a out l', inv l → LeftMoves p l a out l' → inv l')
    (ofRight : ∀ l b out l', inv l → RightMoves q l b out l' → inv l') :
    ∀ l act l', inv l → step p q l act = some l' → inv l' := by
  intro l act l' hl hs
  cases act with
  | left a =>
    obtain ⟨out, moves⟩ := step_left hs
    exact ofLeft l a out l' hl moves
  | right b =>
    obtain ⟨out, moves⟩ := step_right hs
    exact ofRight l b out l' hl moves

end Duplex
