import WeDecent.Library.Fallible
import WeDecent.Library.GoMap

/-!
# Accounts, organizations and devices

The tables of the control plane (`supabase/migrations`) as far as its stored procedures and
policies read them, and the two procedures that issue capabilities: `issue_connection_grant` for
terminal connections and `issue_route_authorization` for one-hop routes. Times are microseconds.
`now` is the start of the transaction; the keys that a procedure takes from `gen_random_uuid` are
its arguments.
-/

namespace ControlPlane

open Fallible

abbrev Uuid := Nat
abbrev Text := List UInt8

inductive OrganizationRole where
  | owner
  | admin
  | member
  deriving DecidableEq

inductive DeviceKind where
  | client
  | agent
  | hybrid
  deriving DecidableEq

inductive DevicePermission where
  | terminalConnect
  | meshForward
  deriving DecidableEq

structure Device where
  kind : DeviceKind
  ownerUserID : Uuid
  organizationID : Option Uuid
  revokedAt : Option Int

structure ConnectionGrant where
  id : Uuid
  jti : Uuid
  userID : Uuid
  organizationID : Option Uuid
  clientDeviceID : Text
  targetDeviceID : Text
  permission : DevicePermission
  issuedAt : Int
  expiresAt : Int

structure RouteGrant where
  id : Uuid
  jti : Text
  userID : Uuid
  organizationID : Option Uuid
  sourceDeviceID : Text
  routerDeviceID : Text
  destinationDeviceID : Text
  firstTransport : Text
  secondTransport : Text
  firstCost : Int
  secondCost : Int
  permission : DevicePermission
  issuedAt : Int
  expiresAt : Int

/-- The tables, with the foreign keys of `devices`. A membership is keyed by organization and
user, and an access row, which carries its expiry, by device, user and permission. -/
structure Database where
  users : List Uuid
  organizations : List Uuid
  memberships : GoMap (Uuid × Uuid) OrganizationRole
  devices : GoMap Text Device
  access : GoMap (Text × Uuid × DevicePermission) (Option Int)
  connectionGrants : List ConnectionGrant
  routeGrants : List RouteGrant
  owned : ∀ id d, devices.get id = some d → d.ownerUserID ∈ users
  housed : ∀ id d o, devices.get id = some d → d.organizationID = some o → o ∈ organizations

inductive SqlError where
  | raised (message errcode : String)
  | constraint (name : String)

def refused (message : String) : SqlError := .raised message "22023"

def forbidden (message : String) : SqlError := .raised message "42501"

/-- A value that must not be null -/
def required {α : Type} (value : Option α) (message : String) : Except SqlError α :=
  match value with
  | none => .error (refused message)
  | some v => .ok v

namespace Database

/-- `select d.* from public.devices as d where d.device_id = id` -/
def device (db : Database) (id : Text) (message : String) : Except SqlError Device :=
  required (db.devices.get id) message

/-- The user is owner or admin of the organization. -/
def manages (db : Database) (organization user : Uuid) : Bool :=
  (db.memberships.get (organization, user)).any fun role =>
    decide (role = .owner) || decide (role = .admin)

/-- An access row that has not expired -/
def hasAccess (db : Database) (now : Int) (device : Text) (user : Uuid)
    (permission : DevicePermission) : Bool :=
  (db.access.get (device, user, permission)).any fun expiresAt => expiresAt.all (now < ·)

/-- The foreign key to `organizations`, which may be null -/
def houses (db : Database) (organization : Option Uuid) : Bool :=
  organization.all fun o => db.organizations.contains o

/-- The constraints of `connection_grants` on a new row -/
def insertConnectionGrant (db : Database) (row : ConnectionGrant) : Except SqlError Database := do
  failIf (row.clientDeviceID = row.targetDeviceID)
    (.constraint "connection_grants_distinct_devices")
  failIf (¬(row.issuedAt < row.expiresAt ∧ row.expiresAt ≤ row.issuedAt + 300000000))
    (.constraint "connection_grants_short_lived")
  failIf (row.id ∈ db.connectionGrants.map ConnectionGrant.id)
    (.constraint "connection_grants_pkey")
  failIf (row.jti ∈ db.connectionGrants.map ConnectionGrant.jti)
    (.constraint "connection_grants_jti_key")
  failIf (row.userID ∉ db.users) (.constraint "connection_grants_user_id_fkey")
  failIf (db.houses row.organizationID = false)
    (.constraint "connection_grants_organization_id_fkey")
  failIf (db.devices.get row.clientDeviceID = none)
    (.constraint "connection_grants_client_device_id_fkey")
  failIf (db.devices.get row.targetDeviceID = none)
    (.constraint "connection_grants_target_device_id_fkey")
  return { db with connectionGrants := db.connectionGrants ++ [row] }

def issueConnectionGrant (db : Database) (now : Int) (id jti : Uuid) (userID : Option Uuid)
    (clientDeviceID targetDeviceID : Option Text) :
    Except SqlError (ConnectionGrant × Database) := do
  let user ← required userID "user is required"
  let clientID ← required clientDeviceID "client and target devices are required"
  let targetID ← required targetDeviceID "client and target devices are required"
  failIf (clientID = targetID) (refused "client and target devices must differ")
  let client ← db.device clientID "client device is not enrolled"
  failIf (client.revokedAt ≠ none) (refused "client device is revoked")
  failIf (client.ownerUserID ≠ user) (forbidden "client device belongs to another user")
  failIf (client.kind ≠ .client ∧ client.kind ≠ .hybrid)
    (refused "client device kind cannot initiate terminal sessions")
  let target ← db.device targetID "target device is not enrolled"
  failIf (target.revokedAt ≠ none) (refused "target device is revoked")
  failIf (target.kind ≠ .agent ∧ target.kind ≠ .hybrid)
    (refused "target device kind cannot accept terminal sessions")
  let authorized := decide (target.ownerUserID = user)
  let authorized := if !authorized && target.organizationID.isSome then
    target.organizationID.any fun o => db.manages o user else authorized
  let authorized := if !authorized then
    db.hasAccess now targetID user .terminalConnect else authorized
  failIf (authorized = false) (forbidden "terminal connection is not authorized")
  let row : ConnectionGrant := ⟨id, jti, user, target.organizationID, clientID, targetID,
    .terminalConnect, now, now + 90000000⟩
  let db ← db.insertConnectionGrant row
  return (row, db)

/-- `'^[A-Za-z0-9_-]{22}$'` -/
def jtiPattern (jti : Text) : Bool :=
  jti.length == 22 && jti.all fun c =>
    (65 ≤ c && c ≤ 90) || (97 ≤ c && c ≤ 122) || (48 ≤ c && c ≤ 57) || c == 95 || c == 45

def lan : Text := [108, 97, 110]

def internet : Text := [105, 110, 116, 101, 114, 110, 101, 116]

def routable (transport : Text) : Bool := transport = lan || transport = internet

/-- The constraints of `route_authorization_grants` on a new row -/
def insertRouteGrant (db : Database) (row : RouteGrant) : Except SqlError Database := do
  failIf (¬(0 ≤ row.firstCost ∧ row.firstCost ≤ 1000000000 ∧
    0 ≤ row.secondCost ∧ row.secondCost ≤ 1000000000))
    (.constraint "route_authorization_cost_bounds")
  failIf (row.sourceDeviceID = row.routerDeviceID ∨
    row.sourceDeviceID = row.destinationDeviceID ∨ row.routerDeviceID = row.destinationDeviceID)
    (.constraint "route_authorization_distinct_devices")
  failIf (jtiPattern row.jti = false) (.constraint "route_authorization_jti_format")
  failIf (row.permission ≠ .meshForward) (.constraint "route_authorization_permission")
  failIf (¬(row.issuedAt < row.expiresAt ∧ row.expiresAt ≤ row.issuedAt + 120000000))
    (.constraint "route_authorization_short_lived")
  failIf (¬(routable row.firstTransport ∧ routable row.secondTransport))
    (.constraint "route_authorization_transport_profile")
  failIf (row.id ∈ db.routeGrants.map RouteGrant.id) (.constraint "route_authorization_grants_pkey")
  failIf (row.jti ∈ db.routeGrants.map RouteGrant.jti)
    (.constraint "route_authorization_grants_jti_key")
  failIf (row.userID ∉ db.users) (.constraint "route_authorization_grants_user_id_fkey")
  failIf (db.houses row.organizationID = false)
    (.constraint "route_authorization_grants_organization_id_fkey")
  failIf (db.devices.get row.sourceDeviceID = none)
    (.constraint "route_authorization_grants_source_device_id_fkey")
  failIf (db.devices.get row.routerDeviceID = none)
    (.constraint "route_authorization_grants_router_device_id_fkey")
  failIf (db.devices.get row.destinationDeviceID = none)
    (.constraint "route_authorization_grants_destination_device_id_fkey")
  return { db with routeGrants := db.routeGrants ++ [row] }

/-- `clock` is the reading of `clock_timestamp`. -/
def issueRouteAuthorization (db : Database) (now clock : Int) (id : Uuid) (userID : Option Uuid)
    (jti sourceDeviceID routerDeviceID destinationDeviceID firstTransport secondTransport :
      Option Text) (firstCost secondCost : Option Int) :
    Except SqlError (RouteGrant × Database) := do
  let user ← required userID "user is required"
  let jti ← required jti "invalid route authorization jti"
  failIf (jtiPattern jti = false) (refused "invalid route authorization jti")
  let sourceID ← required sourceDeviceID "route devices are required"
  let routerID ← required routerDeviceID "route devices are required"
  let destinationID ← required destinationDeviceID "route devices are required"
  failIf (sourceID = routerID ∨ sourceID = destinationID ∨ routerID = destinationID)
    (refused "route devices must differ")
  let firstTransport ← required firstTransport "unsupported routing transport"
  let secondTransport ← required secondTransport "unsupported routing transport"
  failIf (routable firstTransport = false ∨ routable secondTransport = false)
    (refused "unsupported routing transport")
  let firstCost ← required firstCost "invalid route cost"
  let secondCost ← required secondCost "invalid route cost"
  failIf (firstCost < 0 ∨ secondCost < 0 ∨ 1000000000 < firstCost ∨ 1000000000 < secondCost)
    (refused "invalid route cost")
  let source ← db.device sourceID "source device is not enrolled"
  failIf (source.revokedAt ≠ none) (refused "source device is revoked")
  failIf (source.ownerUserID ≠ user) (forbidden "source device belongs to another user")
  failIf (source.kind ≠ .client ∧ source.kind ≠ .hybrid)
    (refused "source device cannot initiate routed sessions")
  let router ← db.device routerID "router device is not enrolled"
  failIf (router.revokedAt ≠ none) (refused "router device is revoked")
  failIf (router.kind ≠ .agent ∧ router.kind ≠ .hybrid)
    (refused "router device cannot forward routed sessions")
  let destination ← db.device destinationID "destination device is not enrolled"
  failIf (destination.revokedAt ≠ none) (refused "destination device is revoked")
  failIf (destination.kind ≠ .agent ∧ destination.kind ≠ .hybrid)
    (refused "destination device cannot accept routed sessions")
  let routerAuthorized := decide (router.ownerUserID = user)
  let routerAuthorized := if !routerAuthorized && router.organizationID.isSome then
    router.organizationID.any fun o => db.manages o user else routerAuthorized
  let routerAuthorized := if !routerAuthorized then
    db.hasAccess now routerID user .meshForward else routerAuthorized
  failIf (routerAuthorized = false) (forbidden "route forwarding is not authorized")
  let destinationAuthorized := decide (destination.ownerUserID = user)
  let destinationAuthorized := if !destinationAuthorized && destination.organizationID.isSome then
    destination.organizationID.any fun o => db.manages o user else destinationAuthorized
  let destinationAuthorized := if !destinationAuthorized then
    db.hasAccess now destinationID user .terminalConnect else destinationAuthorized
  failIf (destinationAuthorized = false) (forbidden "terminal destination is not authorized")
  -- `date_trunc('milliseconds', clock_timestamp())`
  let issued := clock / 1000 * 1000
  let row : RouteGrant := ⟨id, jti, user, destination.organizationID.or router.organizationID,
    sourceID, routerID, destinationID, firstTransport, secondTransport, firstCost, secondCost,
    .meshForward, issued, issued + 60000000⟩
  let db ← db.insertRouteGrant row
  return (row, db)

end Database

section Success

variable {db : Database} {now clock : Int}

@[simp] theorem required_eq_ok {α : Type} {value : Option α} {message : String} {a : α} :
    required value message = .ok a ↔ value = some a := by
  cases value with
  | none => simp [required]
  | some => simp [required]

@[simp] theorem device_eq_ok {id : Text} {message : String} {d : Device} :
    db.device id message = .ok d ↔ db.devices.get id = some d := required_eq_ok

/-- The device is of the user, in an organization that they manage, or one that an access row of
theirs with the permission is for. -/
def Database.May (db : Database) (now : Int) (permission : DevicePermission) (user : Uuid)
    (id : Text) (d : Device) : Prop :=
  d.ownerUserID = user ∨ (∃ o, d.organizationID = some o ∧ db.manages o user = true) ∨
    db.hasAccess now id user permission = true

/-- The three steps in which a procedure looks for an authorization -/
theorem authorized_iff {permission : DevicePermission} {user : Uuid} {id : Text} {d : Device} :
    (let authorized := decide (d.ownerUserID = user)
     let authorized := if !authorized && d.organizationID.isSome then
       d.organizationID.any fun o => db.manages o user else authorized
     if !authorized then db.hasAccess now id user permission else authorized) = true ↔
      db.May now permission user id d := by
  unfold Database.May
  by_cases own : d.ownerUserID = user
  · simp [own]
  · cases home : d.organizationID with
    | none => simp [own]
    | some o => by_cases managed : db.manages o user = true <;> simp [own, managed]

/-- What a grant row needs beyond what the procedure has checked -/
theorem insertConnectionGrant_ok (row : ConnectionGrant)
    (apart : row.clientDeviceID ≠ row.targetDeviceID)
    (short : row.issuedAt < row.expiresAt ∧ row.expiresAt ≤ row.issuedAt + 300000000)
    (fresh : row.id ∉ db.connectionGrants.map ConnectionGrant.id ∧
      row.jti ∉ db.connectionGrants.map ConnectionGrant.jti)
    (user : row.userID ∈ db.users) (home : db.houses row.organizationID = true)
    (client : db.devices.get row.clientDeviceID ≠ none)
    (target : db.devices.get row.targetDeviceID ≠ none) :
    ∃ db', db.insertConnectionGrant row = .ok db' := by
  refine ⟨{ db with connectionGrants := db.connectionGrants ++ [row] }, ?_⟩
  simp only [Database.insertConnectionGrant, bind_eq_ok, failIf_eq_ok]
  exact ⟨(), apart, (), not_not.mpr short, (), fresh.1, (), fresh.2, (), not_not.mpr user, (),
    by rw [home]; decide, (), client, (), target, rfl⟩

/-- The checks of `issue_connection_grant`, for values that are not null -/
theorem issueConnectionGrant_ok {id jti : Uuid} {user : Uuid} {clientID targetID : Text}
    {client target : Device} (apart : clientID ≠ targetID)
    (hclient : db.devices.get clientID = some client) (live : client.revokedAt = none)
    (own : client.ownerUserID = user) (starts : client.kind = .client ∨ client.kind = .hybrid)
    (htarget : db.devices.get targetID = some target) (up : target.revokedAt = none)
    (accepts : target.kind = .agent ∨ target.kind = .hybrid)
    (may : db.May now .terminalConnect user targetID target)
    (fresh : id ∉ db.connectionGrants.map ConnectionGrant.id ∧
      jti ∉ db.connectionGrants.map ConnectionGrant.jti) :
    ∃ r, db.issueConnectionGrant now id jti (some user) (some clientID) (some targetID) =
      .ok r := by
  have home : db.houses target.organizationID = true := by
    cases hhome : target.organizationID with
    | none => rfl
    | some o =>
      have housed := db.housed targetID target o htarget hhome
      exact List.contains_iff_mem.mpr housed
  obtain ⟨db', inserted⟩ := insertConnectionGrant_ok
    ⟨id, jti, user, target.organizationID, clientID, targetID, .terminalConnect, now,
      now + 90000000⟩ apart ⟨by dsimp only; omega, by dsimp only; omega⟩ fresh
    (own ▸ db.owned clientID client hclient) home (by rw [hclient]; nofun)
    (by rw [htarget]; nofun)
  have authorized := authorized_iff.mpr may
  refine ⟨(⟨id, jti, user, target.organizationID, clientID, targetID, .terminalConnect, now,
    now + 90000000⟩, db'), ?_⟩
  simp only [Database.issueConnectionGrant, bind_eq_ok, failIf_eq_ok, required_eq_ok, device_eq_ok]
  refine ⟨user, rfl, clientID, rfl, targetID, rfl, (), apart, client, hclient, (), ?_, (), ?_, (),
    ?_, target, htarget, (), ?_, (), ?_, (), ?_, db', inserted, rfl⟩
  · exact not_not.mpr live
  · exact not_not.mpr own
  · rintro ⟨notClient, notHybrid⟩
    exact starts.elim notClient notHybrid
  · exact not_not.mpr up
  · rintro ⟨notAgent, notHybrid⟩
    exact accepts.elim notAgent notHybrid
  · intro denied
    exact nomatch denied.symm.trans authorized

end Success

end ControlPlane
