import WeDecent.ControlPlane

/-!
# Routes and terminal access

A route authorization for a source, a router and a destination is issued only where a connection
grant from the source to the destination would be, and only through a router that the user owns,
manages or has a live `mesh.forward` row for. The two permissions do not stand in for each other.
-/

namespace RoutedAccess

open ControlPlane Fallible

/-- What the arguments and the devices of an issued route are -/
structure Issued (db : Database) (now : Int) (user : Uuid)
    (sourceID routerID destinationID : Text) : Prop where
  apart : sourceID ≠ destinationID
  source : ∃ d, db.devices.get sourceID = some d ∧ d.revokedAt = none ∧ d.ownerUserID = user ∧
    (d.kind = .client ∨ d.kind = .hybrid)
  router : ∃ d, db.devices.get routerID = some d ∧ d.revokedAt = none ∧
    db.May now .meshForward user routerID d
  destination : ∃ d, db.devices.get destinationID = some d ∧ d.revokedAt = none ∧
    (d.kind = .agent ∨ d.kind = .hybrid) ∧ db.May now .terminalConnect user destinationID d

section Issued

variable {db : Database} {now clock : Int} {id : Uuid} {userID : Option Uuid}
  {jti source router destination firstTransport secondTransport : Option Text}
  {firstCost secondCost : Option Int}

theorem kind_of_not {k a b : DeviceKind} (h : ¬(k ≠ a ∧ k ≠ b)) : k = a ∨ k = b := by
  by_contra neither
  exact h ⟨fun left => neither (.inl left), fun right => neither (.inr right)⟩

theorem issued_of_ok {r : RouteGrant × Database}
    (h : db.issueRouteAuthorization now clock id userID jti source router destination
      firstTransport secondTransport firstCost secondCost = .ok r) :
    ∃ user sourceID routerID destinationID, userID = some user ∧ source = some sourceID ∧
      router = some routerID ∧ destination = some destinationID ∧
      Issued db now user sourceID routerID destinationID := by
  simp only [Database.issueRouteAuthorization, bind_eq_ok, failIf_eq_ok, required_eq_ok,
    device_eq_ok] at h
  obtain ⟨user, huser, _, -, -, -, sourceID, hsource, routerID, hrouter, destinationID,
    hdestination, -, apart, h⟩ := h
  obtain ⟨_, -, _, -, -, -, _, -, _, -, -, -, h⟩ := h
  obtain ⟨s, hs, -, slive, -, sown, -, skind, h⟩ := h
  obtain ⟨q, hq, -, qlive, -, qkind, h⟩ := h
  obtain ⟨d, hd, -, dlive, -, dkind, -, qmay, -, dmay, -⟩ := h
  rw [not_not] at slive sown qlive dlive
  refine ⟨user, sourceID, routerID, destinationID, huser, hsource, hrouter, hdestination,
    ⟨fun same => apart (.inr (.inl same)), ⟨s, hs, slive, sown, kind_of_not skind⟩,
      ⟨q, hq, qlive, ?_⟩, ⟨d, hd, dlive, kind_of_not dkind, ?_⟩⟩⟩
  · exact authorized_iff.mp (eq_true_of_ne_false qmay)
  · exact authorized_iff.mp (eq_true_of_ne_false dmay)

end Issued

/-- Without a row for the permission itself, a user who neither owns the device nor manages its
organization may not. -/
theorem not_may {db : Database} {now : Int} {permission : DevicePermission} {user : Uuid}
    {id : Text} {d : Device} (stranger : d.ownerUserID ≠ user)
    (unmanaged : ∀ o, d.organizationID = some o → db.manages o user = false)
    (rows : ∀ other expiresAt, db.access.get (id, user, other) = some expiresAt →
      other ≠ permission) : ¬db.May now permission user id d := by
  rintro (own | ⟨o, home, managed⟩ | access)
  · exact stranger own
  · exact nomatch (unmanaged o home).symm.trans managed
  · obtain ⟨expiresAt, found, -⟩ := (Option.any_eq_true _ _).mp access
    exact rows permission expiresAt found rfl

theorem routing_never_widens (db : Database) (now clock : Int) (id : Uuid) (userID : Option Uuid)
    (jti source router destination firstTransport secondTransport : Option Text)
    (firstCost secondCost : Option Int) :
    (∀ r, db.issueRouteAuthorization now clock id userID jti source router destination
        firstTransport secondTransport firstCost secondCost = .ok r →
      (∀ grantID grantJTI, grantID ∉ db.connectionGrants.map ConnectionGrant.id →
        grantJTI ∉ db.connectionGrants.map ConnectionGrant.jti →
        ∃ g, db.issueConnectionGrant now grantID grantJTI userID source destination = .ok g) ∧
      ∃ user routerID d, userID = some user ∧ router = some routerID ∧
        db.devices.get routerID = some d ∧ d.revokedAt = none ∧
        (d.ownerUserID = user ∨ (∃ o, d.organizationID = some o ∧ db.manages o user = true) ∨
          db.hasAccess now routerID user .meshForward = true)) ∧
    (∀ user routerID d, userID = some user → router = some routerID →
      db.devices.get routerID = some d → d.ownerUserID ≠ user →
      (∀ o, d.organizationID = some o → db.manages o user = false) →
      (∀ permission expiresAt, db.access.get (routerID, user, permission) = some expiresAt →
        permission = .terminalConnect) →
      ∀ r, db.issueRouteAuthorization now clock id userID jti source router destination
        firstTransport secondTransport firstCost secondCost ≠ .ok r) ∧
    (∀ user destinationID d, userID = some user → destination = some destinationID →
      db.devices.get destinationID = some d → d.ownerUserID ≠ user →
      (∀ o, d.organizationID = some o → db.manages o user = false) →
      (∀ permission expiresAt, db.access.get (destinationID, user, permission) = some expiresAt →
        permission = .meshForward) →
      ∀ r, db.issueRouteAuthorization now clock id userID jti source router destination
        firstTransport secondTransport firstCost secondCost ≠ .ok r) := by
  refine ⟨?_, ?_, ?_⟩
  · intro r ok
    obtain ⟨user, sourceID, routerID, destinationID, rfl, rfl, rfl, rfl, issued⟩ := issued_of_ok ok
    obtain ⟨s, hs, slive, sown, skind⟩ := issued.source
    obtain ⟨q, hq, qlive, qmay⟩ := issued.router
    obtain ⟨d, hd, dlive, dkind, dmay⟩ := issued.destination
    refine ⟨fun grantID grantJTI freshID freshJTI => ?_, user, routerID, q, rfl, rfl, hq, qlive,
      qmay⟩
    exact issueConnectionGrant_ok issued.apart hs slive sown skind hd dlive dkind dmay
      ⟨freshID, freshJTI⟩
  · rintro user routerID d rfl rfl found stranger unmanaged rows r ok
    obtain ⟨_, _, _, _, same, -, same', -, issued⟩ := issued_of_ok ok
    cases same
    cases same'
    obtain ⟨q, hq, -, may⟩ := issued.router
    cases found.symm.trans hq
    refine not_may stranger unmanaged (fun other expiresAt row => ?_) may
    rw [rows other expiresAt row]
    decide
  · rintro user destinationID d rfl rfl found stranger unmanaged rows r ok
    obtain ⟨_, _, _, _, same, -, -, same', issued⟩ := issued_of_ok ok
    cases same
    cases same'
    obtain ⟨q, hq, -, -, may⟩ := issued.destination
    cases found.symm.trans hq
    refine not_may stranger unmanaged (fun other expiresAt row => ?_) may
    rw [rows other expiresAt row]
    decide

section Sample

def sampleDevices : GoMap Text Device :=
  ((GoMap.empty.set [97] ⟨.client, 1, none, none⟩).set [98] ⟨.agent, 2, some 5, none⟩).set [99]
    ⟨.hybrid, 2, none, none⟩

/-- User 1 owns a client, may forward through the router of user 2 and may connect to their other
device. -/
def sampleDatabase : Database where
  users := [1, 2]
  organizations := [5]
  memberships := GoMap.empty.set (5, 1) .member
  devices := sampleDevices
  access := (GoMap.empty.set ([98], 1, .meshForward) (some 1000)).set
    ([99], 1, .terminalConnect) none
  connectionGrants := []
  routeGrants := []
  owned := fun id d found => by
    have listed : ∀ e ∈ sampleDevices.entries, e.2.ownerUserID ∈ [1, 2] := by decide
    exact listed (id, d) (GoMap.get_eq_some.mp found)
  housed := fun id d o found home => by
    have listed : ∀ e ∈ sampleDevices.entries, ∀ o, e.2.organizationID = some o → o ∈ [5] := by
      simp [sampleDevices, GoMap.set, GoMap.erase, GoMap.keep, GoMap.empty]
    exact listed (id, d) (GoMap.get_eq_some.mp found) o home

/-- The row for the router is live until 1000. -/
theorem routing_never_widens_sample :
    (∃ r, sampleDatabase.issueRouteAuthorization 999 5500 0 (some 1) (some (List.replicate 22 65))
      (some [97]) (some [98]) (some [99]) (some Database.lan) (some Database.lan) (some 1)
      (some 2) = .ok r) ∧
    (∃ g, sampleDatabase.issueConnectionGrant 999 7 8 (some 1) (some [97]) (some [99]) = .ok g) ∧
    sampleDatabase.hasAccess 999 [98] 1 .meshForward = true ∧
    sampleDatabase.hasAccess 1000 [98] 1 .meshForward = false := by
  obtain ⟨r, ok⟩ : ∃ r, sampleDatabase.issueRouteAuthorization 999 5500 0 (some 1)
      (some (List.replicate 22 65)) (some [97]) (some [98]) (some [99]) (some Database.lan)
      (some Database.lan) (some 1) (some 2) = .ok r := exists_ok (by decide +kernel)
  refine ⟨⟨r, ok⟩, ?_, by decide, by decide⟩
  exact ((routing_never_widens sampleDatabase 999 5500 0 _ _ _ _ _ _ _ _ _).1 r ok).1 7 8
    (by decide) (by decide)

end Sample

end RoutedAccess
