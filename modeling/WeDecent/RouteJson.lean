import WeDecent.Library.GoUnmarshal
import WeDecent.RouteAuthorization

/-!
# Authorizations in JSON

How `encoding/json` decodes the structs of `mesh/mesh.go` and `mesh/routeauth.go`.
Routes and hops have no field tags and go by their Go names.
-/

namespace RouteJson

open GoTime GoUnmarshal Mesh RouteAuthorization

def zeroHop : RouteHop := ⟨[], [], [], 0⟩

def zeroTime : Time := ⟨-62135596800000000000, .utc⟩

def zeroRoute : Route := ⟨[], [], [], [], zeroTime⟩

def zeroClaims : Claims := ⟨0, [], [], [], [], [], zeroRoute, 0, 0⟩

def zeroAuthorization : Authorization := ⟨[], zeroClaims, []⟩

def hopFields : List (StructField RouteHop) :=
  [.of "From" RouteHop.fromID (fun h v => { h with fromID := v }) string,
    .of "To" RouteHop.toID (fun h v => { h with toID := v }) string,
    .of "Transport" RouteHop.transport (fun h v => { h with transport := v }) string,
    .of "Cost" RouteHop.cost (fun h v => { h with cost := v }) uint64]

def routeFields (zones : Zones) : List (StructField Route) :=
  [.of "ID" Route.id (fun r v => { r with id := v }) string,
    .of "Source" Route.source (fun r v => { r with source := v }) string,
    .of "Destination" Route.destination (fun r v => { r with destination := v }) string,
    .of "Hops" Route.hops (fun r v => { r with hops := v }) (slice zeroHop (struct hopFields)),
    .of "ExpiresAt" Route.expiresAt (fun r v => { r with expiresAt := v }) (time zones)]

def claimsFields (zones : Zones) : List (StructField Claims) :=
  [.of "v" Claims.version (fun c v => { c with version := v }) int64,
    .of "iss" Claims.issuer (fun c v => { c with issuer := v }) string,
    .of "aud" Claims.audience (fun c v => { c with audience := v }) string,
    .of "permission" Claims.permission (fun c v => { c with permission := v }) string,
    .of "jti" Claims.jti (fun c v => { c with jti := v }) string,
    .of "router" Claims.router (fun c v => { c with router := v }) string,
    .of "route" Claims.route (fun c v => { c with route := v }) (struct (routeFields zones)),
    .of "iat_unix_ms" Claims.issuedAtUnixMS (fun c v => { c with issuedAtUnixMS := v }) int64,
    .of "exp_unix_ms" Claims.expiresUnixMS (fun c v => { c with expiresUnixMS := v }) int64]

def authorizationFields (zones : Zones) : List (StructField Authorization) :=
  [.of "kid" Authorization.keyID (fun a v => { a with keyID := v }) string,
    .of "claims" Authorization.claims (fun a v => { a with claims := v })
      (struct (claimsFields zones)),
    .of "signature" Authorization.signature (fun a v => { a with signature := v }) string]

/-- `json.Unmarshal` of a `RouteAuthorization` -/
def unmarshalAuthorization (zones : Zones) (text : List UInt8) : Option Authorization :=
  unmarshal zeroAuthorization (struct (authorizationFields zones)) text

end RouteJson
