import ReverseTunnel.Http.Uri
import ReverseTunnel.NameMap
import ReverseTunnel.Text.Quoted
import ReverseTunnel.Tunnel

/-!
# Where a client takes its traffic

From its declarations a client builds two tables: the local URL of every HTTP
host, and the local address of every other tunnel. A forwarded host is looked up
as it is, then by its port alone, then without its port; what matches nothing
goes to the default, which exists when there is exactly one HTTP tunnel.
-/

namespace ReverseTunnel

open Http

/-- Why a declaration cannot be served. -/
inductive RouteFault where
  | badUrl (tunnel url : String)
  | unsupportedScheme (tunnel scheme : String)
  | missingScheme (tunnel url : String)
  | missingAuthority (tunnel url : String)
  | httpWithoutHost (tunnel : String)
  | withoutLocalAddress (tunnel : String)
  | sniWithoutHost (tunnel : String)
  deriving DecidableEq

/-- The wording of a fault. -/
def RouteFault.message : RouteFault → String
  | .badUrl tunnel url => "tunnel " ++ tunnel ++ ": bad local url " ++ Text.quoted url
  | .unsupportedScheme tunnel scheme =>
    "tunnel " ++ tunnel ++ ": unsupported local scheme " ++ scheme
  | .missingScheme tunnel url =>
    "tunnel " ++ tunnel ++ ": local url " ++ Text.quoted url ++ " needs an http:// scheme"
  | .missingAuthority tunnel url =>
    "tunnel " ++ tunnel ++ ": local url " ++ Text.quoted url ++ " has no host"
  | .httpWithoutHost tunnel => "http tunnel " ++ tunnel ++ " needs a host"
  | .withoutLocalAddress tunnel => "tunnel " ++ tunnel ++ " needs a local address"
  | .sniWithoutHost tunnel => "sni tunnel " ++ tunnel ++ " needs a host"

/-- The key under which a host is kept and looked up. -/
def hostKey (host : String) : String := Text.lower (Text.trim host)

/-- The parts of a host key before and after the colon of its port. Digits have
to follow the colon, and an address with more colons needs brackets. -/
def splitPort (host : String) : Option (String × String) :=
  match Text.splitLast ':' host with
  | some (name, port) =>
    if port = "" || !Text.isDigits port.toList then none
    else if name.toList.contains ':' && name.toList.getLast? != some ']' then none
    else some (name, port)
  | none => none

/-- The local URLs of HTTP hosts. -/
structure HttpRoutes where
  byHost : NameMap Uri
  default : Option Uri

namespace HttpRoutes

/-- The table without entries. -/
def empty : HttpRoutes := ⟨.empty, none⟩

instance : Inhabited HttpRoutes := ⟨empty⟩

/-- The table with the URL of one host set. -/
def insert (r : HttpRoutes) (host : String) (url : Uri) : HttpRoutes :=
  { r with byHost := r.byHost.insert (hostKey host) url }

/-- The table with a URL for the hosts that match nothing. -/
def setDefault (r : HttpRoutes) (url : Uri) : HttpRoutes := { r with default := some url }

/-- The entry of a host key's port, or else of the key without its port. -/
def lookupPort (r : HttpRoutes) (key : String) : Option Uri :=
  match splitPort key with
  | some (name, port) => (r.byHost.get? port).or (r.byHost.get? name)
  | none => none

/-- The local URL of a forwarded host. -/
def lookup (r : HttpRoutes) (host : String) : Option Uri :=
  ((r.byHost.get? (hostKey host)).or (r.lookupPort (hostKey host))).or r.default

/-- The number of hosts. -/
def size (r : HttpRoutes) : Nat := r.byHost.size

/-- There is no host. -/
def isEmpty (r : HttpRoutes) : Bool := r.byHost.isEmpty

end HttpRoutes

/-- The two tables of a client. -/
structure Routes where
  http : HttpRoutes
  /-- The local address of every tunnel that is not HTTP. -/
  streams : NameMap String

namespace Routes

/-- The tables without entries. -/
def empty : Routes := ⟨.empty, .empty⟩

/-- The local URL of an HTTP tunnel; it has to be an absolute `http` URL. -/
def localUrl (tunnel url : String) : Except RouteFault Uri :=
  match Uri.parse? (Text.trim url) with
  | none => .error (.badUrl tunnel url)
  | some uri =>
    match uri.scheme with
    | none => .error (.missingScheme tunnel url)
    | some scheme =>
      if scheme ≠ "http" then .error (.unsupportedScheme tunnel scheme)
      else if uri.authority.isNone then .error (.missingAuthority tunnel url)
      else .ok uri

/-- The tables with one more declaration. -/
def add (r : Routes) (name : String) (d : Declaration) : Except RouteFault Routes :=
  match d.protocol with
  | .http => do
    let url ← localUrl name d.localAddress
    if Text.isBlankText d.host then throw (.httpWithoutHost name)
    return { r with http := r.http.insert d.host url }
  | .tcp | .tcp4 | .tcp6 | .unix | .sni =>
    if Text.isBlankText d.localAddress then .error (.withoutLocalAddress name)
    else if d.protocol = .sni && Text.isBlankText d.host then .error (.sniWithoutHost name)
    else .ok { r with streams := r.streams.insert name (Text.trim d.localAddress) }

/-- The declarations of HTTP tunnels in name order. -/
def httpDeclarations (declarations : NameMap Declaration) : List Declaration :=
  declarations.values.filter fun d => d.protocol == .http

/-- The tables of a client's declarations. They are checked in name order, and
the first that cannot be served is the fault. -/
def build (declarations : NameMap Declaration) : Except RouteFault Routes := do
  let routes ← declarations.entries.foldlM (fun r e => r.add e.1 e.2) empty
  match httpDeclarations declarations with
  | [only] =>
    let url ← localUrl "default" only.localAddress
    return { routes with http := routes.http.setDefault url }
  | _ => return routes

end Routes

end ReverseTunnel
