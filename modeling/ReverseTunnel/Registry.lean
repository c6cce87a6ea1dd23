import ReverseTunnel.Host
import ReverseTunnel.Listener
import ReverseTunnel.NameMap
import ReverseTunnel.Protocol

/-!
# The registry of clients and the index of hosts

A control connection is known by its key from the moment it is accepted:

* `reserve` makes the key pending,
* `subscribe` gives a pending key a client name,
* `commit` makes the client's tunnels routable, all of them or none,
* `unsubscribe` and `clear` remove what a key or a client has.

The index of hosts maps the normal form of every claimed host to its route.
-/

namespace ReverseTunnel

/-- A host that a client claims for one of its tunnels. -/
structure HostClaim where
  host : String
  tunnel : String
  protocol : Protocol
  /-- The token that callers must present. -/
  auth : Option String
  deriving DecidableEq

/-- Everything that one connected client owns. -/
structure Holdings where
  clientName : String
  /-- The key of the client's control connection. -/
  connection : String
  claims : List HostClaim
  listeners : List Listener
  deriving DecidableEq

/-- Where the requests for a host go. -/
structure HostRoute where
  clientName : String
  connection : String
  tunnel : String
  protocol : Protocol
  auth : Option String
  deriving DecidableEq

/-- The route of a claim. -/
def Holdings.route (h : Holdings) (claim : HostClaim) : HostRoute :=
  ⟨h.clientName, h.connection, claim.tunnel, claim.protocol, claim.auth⟩

/-- A subscribed client: its connection, and what it owns once that is committed. -/
structure Subscriber where
  connection : String
  holdings : Option Holdings

/-- The clients and hosts that a server knows. -/
structure Registry where
  /-- The keys of accepted connections without a client name. -/
  pending : NameMap Unit
  /-- The subscribed clients by name. -/
  clients : NameMap Subscriber
  /-- The client name of every subscribed connection. -/
  connections : NameMap String
  /-- The route of every claimed host in normal form. -/
  hosts : NameMap HostRoute

/-- Why the registry refuses a call. -/
inductive RegistryError where
  | alreadyPending (key : String)
  | notPending (key : String)
  | alreadySubscribed (name : String)
  | notSubscribed (name : String)
  | alreadyActive (name : String)
  | occupied (host : String)
  | emptyHost (tunnel : String)
  deriving DecidableEq

/-- The wording of a refusal. -/
def RegistryError.message : RegistryError → String
  | .alreadyPending key => "Connection " ++ key ++ " already pre-subscribed"
  | .notPending key => "Connection " ++ key ++ " was never pre-subscribed"
  | .alreadySubscribed name => "Client " ++ name ++ " already subscribed"
  | .notSubscribed name => "Client " ++ name ++ " not subscribed"
  | .alreadyActive name => "Client " ++ name ++ " already has tunnels"
  | .occupied host => "Host " ++ host ++ " is occupied"
  | .emptyHost tunnel => "Empty host for tunnel " ++ tunnel

namespace Registry

/-- The registry that knows nobody. -/
def empty : Registry := ⟨.empty, .empty, .empty, .empty⟩

instance : Inhabited Registry := ⟨empty⟩

/-- Makes the key of an accepted connection pending. -/
def reserve (r : Registry) (key : String) : Except RegistryError Registry :=
  if r.pending.contains key || r.connections.contains key then .error (.alreadyPending key)
  else .ok { r with pending := r.pending.insert key () }

/-- Gives a pending connection a client name that is not taken. -/
def subscribe (r : Registry) (name key : String) : Except RegistryError Registry :=
  if r.clients.contains name then .error (.alreadySubscribed name)
  else if !r.pending.contains key then .error (.notPending key)
  else
    .ok { r with
      pending := r.pending.erase key
      clients := r.clients.insert name ⟨key, none⟩
      connections := r.connections.insert key name }

/-- Whether the claims can be added to the hosts in `taken`, one after the other. -/
def checkClaims (hosts : NameMap HostRoute) (taken : List String) :
    List HostClaim → Except RegistryError Unit
  | [] => .ok ()
  | claim :: rest =>
    let host := normalHost claim.host
    if host = "" then .error (.emptyHost claim.tunnel)
    else if hosts.contains host || taken.contains host then .error (.occupied host)
    else checkClaims hosts (host :: taken) rest

/-- The index of hosts with the claims of a client. -/
def addClaims (hosts : NameMap HostRoute) (h : Holdings) : NameMap HostRoute :=
  h.claims.foldl (fun hosts claim => hosts.insert (normalHost claim.host) (h.route claim)) hosts

/-- The index of hosts without some claims. -/
def dropClaims (hosts : NameMap HostRoute) (claims : List HostClaim) : NameMap HostRoute :=
  claims.foldl (fun hosts claim => hosts.erase (normalHost claim.host)) hosts

/-- Makes what a subscribed client owns routable. All claims are checked before
anything changes. -/
def commit (r : Registry) (h : Holdings) : Except RegistryError Registry :=
  match r.clients.get? h.clientName with
  | none => .error (.notSubscribed h.clientName)
  | some subscriber =>
    if subscriber.connection ≠ h.connection then .error (.notSubscribed h.clientName)
    else if subscriber.holdings.isSome then .error (.alreadyActive h.clientName)
    else
      match checkClaims r.hosts [] h.claims with
      | .error e => .error e
      | .ok () =>
        .ok { r with
          clients := r.clients.insert h.clientName ⟨subscriber.connection, some h⟩
          hosts := addClaims r.hosts h }

/-- The route of a host in any spelling. -/
def resolve (r : Registry) (host : String) : Option HostRoute := r.hosts.get? (normalHost host)

/-- Removes a client, and answers what it owned. -/
def removeClient (r : Registry) (name : String) : Option Holdings × Registry :=
  match r.clients.get? name with
  | none => (none, r)
  | some subscriber =>
    let r := { r with
      clients := r.clients.erase name
      connections := r.connections.erase subscriber.connection }
    match subscriber.holdings with
    | none => (none, r)
    | some h => (some h, { r with hosts := dropClaims r.hosts h.claims })

/-- Removes a client that still has this connection, and answers what it owned. -/
def unsubscribe (r : Registry) (key name : String) : Option Holdings × Registry :=
  if r.connections.get? key = some name then r.removeClient name else (none, r)

/-- Removes whatever a connection registered, and answers what it owned. -/
def clear (r : Registry) (key : String) : Option Holdings × Registry :=
  if r.pending.contains key then (none, { r with pending := r.pending.erase key })
  else
    match r.connections.get? key with
    | none => (none, r)
    | some name => r.removeClient name

/-- The client has a connection. -/
def isSubscribed (r : Registry) (name : String) : Bool := r.clients.contains name

/-- The names of the subscribed clients in ascending order. -/
def clientNames (r : Registry) : List String := r.clients.names

end Registry

end ReverseTunnel
