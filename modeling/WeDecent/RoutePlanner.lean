import Mathlib.Algebra.Group.Nat.Defs
import Mathlib.Data.List.Nodup
import WeDecent.Library.FirstLeast
import WeDecent.Library.Weights
import WeDecent.Mesh

/-!
# The lowest-cost planner

`Route.Cost` and `LowestCostPlanner.Plan` of `mesh/mesh.go`. The context is asked at the
start and again before each candidate; it answers by a function of how often it has been
asked before.
-/

namespace RoutePlanner

open Fallible FirstLeast GoTime Mesh Weights

/-- The loop of `Cost`, which saturates. -/
def costFrom (total : UInt64) : List RouteHop → UInt64
  | [] => total
  | hop :: rest =>
    let next := total + hop.cost
    if next < total then 0xFFFFFFFFFFFFFFFF else costFrom next rest

/-- `Route.Cost` -/
def cost (r : Route) : UInt64 := costFrom 0 r.hops

structure PlanRequest where
  source : DeviceID
  destination : DeviceID
  candidates : List Route
  now : Time

inductive PlanError where
  | context
  | sourceRequired
  | destinationRequired
  | timeRequired
  | noRoute

/-- The variables of the loop: `best` and `bestCost`, once one is found. -/
structure Search where
  asked : Nat
  found : Option (Route × UInt64)

/-- `!found || cost < bestCost || (cost == bestCost && len(candidate.Hops) < len(best.Hops))` -/
def improves (candidate : Route) (found : Option (Route × UInt64)) : Bool :=
  found.all fun best => decide (cost candidate < best.2) ||
    (cost candidate == best.2 && decide (candidate.hops.length < best.1.hops.length))

def consider (cancelled : Nat → Bool) (request : PlanRequest) (s : Search) (candidate : Route) :
    Except PlanError Search := do
  failIf (cancelled s.asked = true) .context
  let s := { s with asked := s.asked + 1 }
  if candidate.source ≠ request.source ∨ candidate.destination ≠ request.destination then return s
  else match candidate.validate request.now with
    | .error _ => return s
    | .ok () =>
      if improves candidate s.found then return { s with found := some (candidate, cost candidate) }
      else return s

/-- `LowestCostPlanner.Plan` -/
def plan (cancelled : Nat → Bool) (request : PlanRequest) : Except PlanError Route := do
  failIf (cancelled 0 = true) .context
  failIf (blank request.source = true) .sourceRequired
  failIf (blank request.destination = true) .destinationRequired
  failIf (request.now.isZero = true) .timeRequired
  let s ← request.candidates.foldlM (consider cancelled request) ⟨1, none⟩
  match s.found with
  | none => .error .noRoute
  | some best => .ok best.1

/-- The exact sum of the costs of the hops. -/
def totalCost (r : Route) : Nat := weight (fun hop => hop.cost.toNat) r.hops

theorem costFrom_toNat (hops : List RouteHop) (total : UInt64) : (costFrom total hops).toNat =
    min (total.toNat + weight (fun hop => hop.cost.toNat) hops) (2 ^ 64 - 1) := by
  induction hops generalizing total with
  | nil =>
    have := total.toNat_lt
    simp only [costFrom, weight_nil]
    omega
  | cons hop rest ih =>
    have := total.toNat_lt
    have := hop.cost.toNat_lt
    simp only [costFrom, weight_cons]
    split
    · rename_i wraps
      rw [UInt64.lt_iff_toNat_lt, UInt64.toNat_add] at wraps
      change 2 ^ 64 - 1 = _
      omega
    · rename_i fits
      rw [UInt64.lt_iff_toNat_lt, UInt64.toNat_add] at fits
      rw [ih, UInt64.toNat_add]
      omega

theorem cost_toNat (r : Route) : (cost r).toNat = min (totalCost r) (2 ^ 64 - 1) := by
  rw [cost, costFrom_toNat]
  simp [totalCost]

/-- The devices a route visits, in order. -/
def devices (r : Route) : List DeviceID := r.source :: r.hops.map RouteHop.toID

/-- Every hop starts where the one before it ended, no device is visited twice, and the
last one is the destination. -/
structure SimplePath (r : Route) : Prop where
  someHops : 1 ≤ r.hops.length
  fewHops : r.hops.length ≤ 8
  continuous : r.hops.map RouteHop.fromID = (devices r).dropLast
  simple : (devices r).Nodup
  ends : (devices r).getLast? = some r.destination

/-- What `Validate` wants to be given besides: names that are not blank, and an expiry. -/
structure Given (r : Route) : Prop where
  id : blank r.id = false
  hops : ∀ hop ∈ r.hops, blank hop.toID = false ∧ blank hop.transport = false
  expiry : r.expiresAt.isZero = false

structure Eligible (request : PlanRequest) (r : Route) : Prop where
  source : r.source = request.source
  destination : r.destination = request.destination
  unexpired : request.now.nanos < r.expiresAt.nanos
  path : SimplePath r
  given : Given r

/-- A walk comes to its end along a path that meets neither itself nor a visited device. -/
theorem walk_eq_ok {hops : List RouteHop} {here last : DeviceID} {visited : List DeviceID} {i : Nat}
    (start : here ∈ visited) (given : blank here = false) (distinct : visited.Nodup) :
    walk here visited i hops = .ok last ↔
      (∀ hop ∈ hops, blank hop.toID = false ∧ blank hop.transport = false) ∧
        hops.map RouteHop.fromID = (here :: hops.map RouteHop.toID).dropLast ∧
          (hops.map RouteHop.toID ++ visited).Nodup ∧
            (here :: hops.map RouteHop.toID).getLast? = some last := by
  induction hops generalizing here visited i with
  | nil => simp [walk, distinct]
  | cons hop rest ih =>
    have turn : (rest.map RouteHop.toID ++ hop.toID :: visited).Nodup ↔
        ((hop :: rest).map RouteHop.toID ++ visited).Nodup := List.nodup_middle
    rw [walk_cons]
    constructor
    · rintro ⟨devices, transport, joint, -, fresh, path⟩
      simp only [Bool.or_eq_true, not_or, Bool.not_eq_true] at devices transport
      have fresh : hop.toID ∉ visited := by simpa using fresh
      rw [ih List.mem_cons_self devices.2 (List.nodup_cons.mpr ⟨fresh, distinct⟩), turn] at path
      obtain ⟨names, continuous, simple, ends⟩ := path
      refine ⟨List.forall_mem_cons.mpr ⟨⟨devices.2, transport⟩, names⟩, ?_, simple, ends⟩
      exact congrArg₂ List.cons (not_not.mp joint) continuous
    · rintro ⟨names, continuous, simple, ends⟩
      obtain ⟨⟨device, transport⟩, names⟩ := List.forall_mem_cons.mp names
      obtain ⟨joint, continuous⟩ := List.cons.inj continuous
      have fresh : hop.toID ∉ visited := fun seen =>
        (List.nodup_cons.mp simple).1 (List.mem_append_right _ seen)
      -- the device the hop starts from is visited, so that a fresh one is not it
      have moves : hop.fromID ≠ hop.toID := fun same => fresh (same ▸ joint ▸ start)
      rw [ih List.mem_cons_self device (List.nodup_cons.mpr ⟨fresh, distinct⟩), turn]
      refine ⟨?_, ?_, not_not.mpr joint, moves, ?_, names, continuous, simple, ends⟩
      · simp [joint, given, device]
      · simp [transport]
      · simpa using fresh

/-- What `Plan` asks of a candidate is that it is eligible. -/
theorem eligible_iff {request : PlanRequest} {r : Route} (source : blank request.source = false)
    (destination : blank request.destination = false) : Eligible request r ↔
      (r.source = request.source ∧ r.destination = request.destination) ∧
        r.validate request.now = .ok () := by
  rw [Route.validate_eq_ok]
  have nodup : (r.hops.map RouteHop.toID ++ [r.source]).Nodup ↔ (devices r).Nodup := by
    rw [List.nodup_middle, List.append_nil]
    rfl
  constructor
  · rintro ⟨hsource, hdestination, unexpired, path, given⟩
    have hgiven : blank r.source = false := hsource ▸ source
    refine ⟨⟨hsource, hdestination⟩, given.id, hgiven, hdestination ▸ destination, ?_, ?_,
      path.fewHops, given.expiry, unexpired, ?_⟩
    · intro same
      have fresh := (List.nodup_cons.mp path.simple).1
      obtain ⟨hop, rest, hops⟩ := List.exists_cons_of_length_pos path.someHops
      have ends := path.ends
      rw [devices, hops, List.map_cons, List.getLast?_cons_cons] at ends
      rw [hops] at fresh
      exact fresh (same ▸ List.mem_of_getLast? ends)
    · exact List.ne_nil_of_length_pos path.someHops
    · rw [walk_eq_ok (List.mem_singleton.mpr rfl) hgiven (List.nodup_singleton _), nodup]
      exact ⟨given.hops, path.continuous, path.simple, path.ends⟩
  · rintro ⟨⟨hsource, hdestination⟩, valid⟩
    have walked := valid.path
    rw [walk_eq_ok (List.mem_singleton.mpr rfl) valid.sourceGiven (List.nodup_singleton _),
      nodup] at walked
    obtain ⟨names, continuous, simple, ends⟩ := walked
    exact ⟨hsource, hdestination, valid.unexpired,
      ⟨List.length_pos_of_ne_nil valid.someHops, valid.fewHops, continuous, simple, ends⟩,
      ⟨valid.idGiven, names, valid.expiryGiven⟩⟩

/-- Routes are compared by what they cost, as far as the planner can count, and by their
hops. -/
def rank (r : Route) : ℕ ×ₗ ℕ := toLex (min (totalCost r) (2 ^ 64 - 1), r.hops.length)

theorem improves_iff {candidate best : Route} :
    improves candidate (some (best, cost best)) = true ↔ rank candidate < rank best := by
  simp only [improves, Option.all_some, Bool.or_eq_true, Bool.and_eq_true, decide_eq_true_eq,
    beq_iff_eq, rank, Prod.Lex.toLex_lt_toLex, UInt64.lt_iff_toNat_lt, ← UInt64.toNat_inj,
    cost_toNat]

variable {cancelled : Nat → Bool} {request : PlanRequest}

/-- The variables of the loop, once it has seen `done`. -/
structure Searched (request : PlanRequest) (done : List Route) (s : Search) : Prop where
  best : Best (Eligible request) rank done (s.found.map Prod.fst)
  bestCost : ∀ r c, s.found = some (r, c) → c = cost r

section
variable (source : blank request.source = false) (destination : blank request.destination = false)
include source destination

theorem searched_consider {done : List Route} {s s' : Search} {candidate : Route}
    (held : Searched request done s) (h : consider cancelled request s candidate = .ok s') :
    Searched request (done ++ [candidate]) s' := by
  have asked := eligible_iff (r := candidate) source destination
  obtain ⟨-, h⟩ := failIf_then.mp h
  dsimp only at h
  split at h
  · rename_i ends
    cases h
    have no : ¬Eligible request candidate := fun e => by
      obtain ⟨⟨same, same'⟩, -⟩ := asked.mp e
      exact ends.elim (· same) (· same')
    exact ⟨held.best.skip no, held.bestCost⟩
  rename_i ends
  split at h
  · rename_i refused
    cases h
    have no : ¬Eligible request candidate := fun e => by
      rw [(asked.mp e).2] at refused
      cases refused
    exact ⟨held.best.skip no, held.bestCost⟩
  rename_i valid
  rw [not_or, not_not, not_not] at ends
  have yes := asked.mpr ⟨ends, valid⟩
  split at h
  · rename_i better
    cases h
    refine ⟨held.best.take yes ?_, fun r c found => by cases found; rfl⟩
    intro a best
    obtain ⟨⟨r, c⟩, found, rfl⟩ := Option.map_eq_some_iff.mp best
    rw [found, held.bestCost r c found] at better
    exact improves_iff.mp better
  · rename_i worse
    cases h
    refine ⟨?_, held.bestCost⟩
    have best := held.best
    rcases found : s.found with _ | ⟨r, c⟩
    · rw [found] at worse
      exact absurd rfl worse
    · rw [found] at best worse
      rw [held.bestCost r c found, improves_iff, not_lt] at worse
      exact best.keep worse

theorem searched_run {s : Search}
    (h : request.candidates.foldlM (consider cancelled request) ⟨1, none⟩ = .ok s) :
    Searched request request.candidates s := by
  have start : Searched request [] ⟨1, none⟩ :=
    ⟨List.forall_mem_nil _, fun _ _ found => by cases found⟩
  exact foldlM_ok (Searched request) start
    (fun _ _ _ _ held turn => searched_consider source destination held turn) h

end

/-- A context that is never done stops no turn of the loop. -/
theorem consider_live (live : ∀ n, cancelled n = false) (s : Search) (candidate : Route) :
    ∃ s', consider cancelled request s candidate = .ok s' := by
  unfold consider
  rw [failIf_pass (by simp [live]), ok_then]
  dsimp only
  split
  · exact ⟨_, rfl⟩
  split
  · exact ⟨_, rfl⟩
  split
  · exact ⟨_, rfl⟩
  · exact ⟨_, rfl⟩

theorem lowest_cost_plan (cancelled : Nat → Bool) (request : PlanRequest) :
    (∀ r, plan cancelled request = .ok r →
      ∃ i, Least (Eligible request) rank request.candidates i r) ∧
    ((∀ n, cancelled n = false) → blank request.source = false →
      blank request.destination = false → request.now.isZero = false →
        (plan cancelled request = .error .noRoute ↔
          ∀ r ∈ request.candidates, ¬Eligible request r)) := by
  constructor
  · intro r h
    obtain ⟨-, h⟩ := failIf_then.mp h
    obtain ⟨source, h⟩ := failIf_then.mp h
    obtain ⟨destination, h⟩ := failIf_then.mp h
    obtain ⟨-, h⟩ := failIf_then.mp h
    obtain ⟨s, run, h⟩ := bind_eq_ok.mp h
    have searched := (searched_run (by simpa using source) (by simpa using destination) run).best
    rcases found : s.found with _ | best
    · rw [found] at h
      cases h
    · rw [found] at h searched
      cases h
      exact searched
  · intro live source destination now
    obtain ⟨s, run⟩ := foldlM_total request.candidates ⟨1, none⟩ (consider_live live)
    have searched := (searched_run source destination run).best
    have ends : plan cancelled request = s.found.elim (.error .noRoute) fun best => .ok best.1 := by
      unfold plan
      rw [failIf_pass (by simp [live]), ok_then, failIf_pass (by simp [source]), ok_then,
        failIf_pass (by simp [destination]), ok_then, failIf_pass (by simp [now]), ok_then, run,
        ok_then]
      cases s.found <;> rfl
    rw [ends]
    rcases found : s.found with _ | best
    · rw [found] at searched
      exact iff_of_true rfl searched
    · rw [found] at searched
      obtain ⟨i, least⟩ := searched
      refine iff_of_false (by simp) fun none => ?_
      exact none best.1 (List.mem_of_getElem? least.place) least.fitting

def hour : Time := ⟨3600000000000, .utc⟩

def alice : DeviceID := GoText.literal "a"
def router : DeviceID := GoText.literal "r"
def bob : DeviceID := GoText.literal "b"

def direct (id : String) (cost : UInt64) : Route :=
  ⟨GoText.literal id, alice, bob, [⟨alice, bob, transportLAN, cost⟩], hour⟩

def relayed (first second : UInt64) : Route :=
  ⟨GoText.literal "relayed", alice, bob, [⟨alice, router, transportLAN, first⟩,
    ⟨router, bob, transportInternet, second⟩], hour⟩

def fromAlice (candidates : List Route) : PlanRequest := ⟨alice, bob, candidates, ⟨1, .utc⟩⟩

/-- A direct, unexpired route is passed over when its ID is empty. -/
theorem unnamed_route_refused : plan (fun _ => false) (fromAlice [direct "" 1]) = .error .noRoute ∧
      (direct "" 1).source = alice ∧ (direct "" 1).destination = bob ∧
        (1 : Int) < (direct "" 1).expiresAt.nanos ∧ SimplePath (direct "" 1) :=
  ⟨rfl, rfl, rfl, by decide, by decide, by decide, rfl, by decide, rfl⟩

def dearest : UInt64 := 0xFFFFFFFFFFFFFFFF

def saturated : List Route := [relayed dearest 1, direct "direct" dearest]

/-- Both dearer routes cost the most that can be counted; the one with fewer hops is taken,
and nothing where there is none but the one without an ID. -/
theorem lowest_cost_plan_saturated :
    (∃ i, Least (Eligible (fromAlice saturated)) rank saturated i (direct "direct" dearest)) ∧
      ∀ r ∈ [direct "" 1], ¬Eligible (fromAlice [direct "" 1]) r :=
  ⟨(lowest_cost_plan (fun _ => false) (fromAlice saturated)).1 _ rfl,
    ((lowest_cost_plan (fun _ => false) (fromAlice [direct "" 1])).2 (fun _ => rfl) rfl rfl rfl).mp
      rfl⟩

end RoutePlanner
