import ReverseTunnel.ConnectionPool
import ReverseTunnel.Proofs.ControlMessage
import ReverseTunnel.Proofs.Handshake
import ReverseTunnel.Proofs.Server.Routing
import ReverseTunnel.Proofs.SocketAddress
import ReverseTunnel.Server.PublicSocket
import ReverseTunnel.Server.PublicStream

/-!
# From a public stream to a local address

The name of a tunnel reaches the server in a JSON document, and comes back to the client in a
header field of every exchange. The document takes any text (`Client.decode_hello`), the field
only printable ASCII and tabs. So a stream for a tunnel is dispatched to the local address
declared for it exactly if the tunnel's name and the host or address that the caller asked
for can be read from a field (`streams_dispatched_iff`).

The address of a TCP listener can always be read (`isReadable_of_bindTcp`), the path of a
Unix socket and the server name of a ClientHello need not be. Nobody checks the name: a client
is made, and its tunnels are committed, although no stream for one of them can be dispatched
(`unread_name_committed`).
-/

namespace ReverseTunnel

open Http

namespace Server

/-- The address of a TCP listener can be read. -/
theorem isReadable_of_bindTcp {scene : SocketScene} {address : String} {protocol : Protocol}
    {a : SocketAddress} (h : scene.bindTcp address protocol = .ok a) : IsReadable a.text := by
  unfold SocketScene.bindTcp at h
  cases hresolve : SocketAddress.resolve (withDefaultHost address protocol) with
  | error e => simp [hresolve] at h
  | ok resolved =>
    simp only [hresolve, SocketScene.bindAddress] at h
    repeat' split at h
    all_goals cases h
    exact SocketAddress.isReadable_text hresolve

/-! ## What dispatching a stream takes -/

/-- The message is written, the client reads it as it was written, and its table has this local
address for the tunnel. -/
structure Dispatches (client : Client) (m : ControlMessage) (address : String) : Prop where
  carried : ∃ headers, m.write .empty = (headers, .ok ()) ∧ ControlMessage.read headers = .ok m
  routed : client.routes.streams.get? m.tunnel = some address

theorem dispatches_iff {client : Client} {m : ControlMessage} {address : String}
    (hrouted : client.routes.streams.get? m.tunnel = some address) :
    Dispatches client m address ↔
      IsReadable m.host ∧ IsReadable m.tunnel ∧ IsReadable m.remote := by
  rw [← ControlMessage.read_write_iff (h := .empty)]
  constructor
  · exact Dispatches.carried
  · intro hcarried
    exact ⟨hcarried, hrouted⟩

/-- The request of such an exchange leads the client to the local address. -/
theorem Dispatches.dispatch {client : Client} {m : ControlMessage} {address key : String}
    {uri : Uri} (h : Dispatches client m address) (hother : m.protocol ≠ .http)
    (huri : Uri.parse? (ConnectionPool.url key) = some uri) :
    ∃ request, ConnectionPool.exchangeRequest key m = .ok request ∧
      Client.dispatch client request.method request.headers = .stream m (.ofAddress address) := by
  obtain ⟨⟨headers, hwrite, hread⟩, hrouted⟩ := h
  refine ⟨⟨"PUT", uri, headers, []⟩, ?_, ?_⟩
  · simp only [ConnectionPool.exchangeRequest, huri, hwrite]
  · -- None of the fields of a message is that of a rejection.
    obtain ⟨host, tunnel, remote, -, -, -, rfl⟩ := ControlMessage.write_eq_ok_iff.1 hwrite
    have hnone : (ControlMessage.withFields .empty m.protocol host tunnel remote).get?
        Client.rejectionField = none :=
      ControlMessage.get?_withFields_of_notMem (by decide) .empty _ _ _ _
    simp only [Client.dispatch, hnone]
    rw [if_neg (by decide), hread]
    simp only [hother, hrouted, if_false]

/-! ## The clients whose tunnels are committed -/

/-- A client was made from a configuration, and the server committed these holdings for its
tunnels. -/
structure Admitted (registry : Registry) (connection : String) (c : Client.Config)
    (client : Client) (held : Holdings) : Prop where
  made : Client.ofConfig c = .ok client
  consistent : registry.Consistent
  owned : ∃ name, registry.clients.get? name = some ⟨connection, some held⟩
  claims : held.claims = hostClaims (c.declarations.map Declaration.toTunnel).entries
  listeners : held.listeners.map Listener.name =
    streamNames (c.declarations.map Declaration.toTunnel).entries

/-- A client is admitted once the tunnels that a server read from its document are opened. -/
theorem admitted_of_provisioned {s s' : State} {key : String} {c : Client.Config}
    {client : Client} {handshake : Handshake} {held : Holdings}
    (hmade : Client.ofConfig c = .ok client) (hconsistent : s.registry.Consistent)
    (hread : Handshake.decode (client.hello.take readLimit) = .ok handshake)
    (h : Provisioned s s' key handshake.clientName handshake.tunnels.entries held) :
    Admitted s'.registry key c client held := by
  cases (Client.decode_hello hmade).symm.trans hread
  exact ⟨hmade, Registry.consistent_commit hconsistent h.committed, ⟨_, h.owned⟩, h.claims,
    h.listeners⟩

theorem mem_streamNames_iff {declarations : NameMap Declaration} {name : String} :
    name ∈ streamNames (declarations.map Declaration.toTunnel).entries ↔
      ∃ d, declarations.get? name = some d ∧ d.protocol.isHostRouted = false := by
  simp only [streamNames, List.mem_map, List.mem_filter, NameMap.map, NameMap.get?_eq_some_iff]
  constructor
  · rintro ⟨-, ⟨⟨⟨name, d⟩, hmem, rfl⟩, hrouted⟩, rfl⟩
    exact ⟨d, hmem, by simpa [Declaration.toTunnel] using hrouted⟩
  · rintro ⟨d, hmem, hrouted⟩
    refine ⟨(name, d.toTunnel), ⟨⟨(name, d), hmem, rfl⟩, ?_⟩, rfl⟩
    simpa [Declaration.toTunnel] using hrouted

namespace Admitted

variable {registry : Registry} {connection : String} {c : Client.Config} {client : Client}
  {held : Holdings} {remote : String}

theorem serves (h : Admitted registry connection c client held) :
    Serves registry connection c.declarations client.routes := by
  obtain ⟨-, -, hbuilt, -⟩ := Client.ofConfig_eq_ok h.made
  obtain ⟨name, howned⟩ := h.owned
  exact ⟨h.consistent, hbuilt, name, held, howned, h.claims⟩

/-- The local address of a declared tunnel that is not HTTP. -/
theorem get?_streams (h : Admitted registry connection c client held) {name : String}
    {d : Declaration} (hget : c.declarations.get? name = some d) (hother : d.protocol ≠ .http) :
    client.routes.streams.get? name = some (Text.trim d.localAddress) :=
  Routes.get?_streams h.serves.built hget hother

/-- Every tunnel that is not routed by a host has a listener. -/
theorem exists_listener (h : Admitted registry connection c client held) {name : String}
    {d : Declaration} (hget : c.declarations.get? name = some d)
    (hrouted : d.protocol.isHostRouted = false) : ∃ l ∈ held.listeners, l.name = name := by
  have hmem := mem_streamNames_iff.2 ⟨d, hget, hrouted⟩
  rw [← h.listeners] at hmem
  exact List.mem_map.1 hmem

/-- What a caller of a listener needs to be dispatched. -/
theorem listener_dispatches_iff (h : Admitted registry connection c client held)
    (hremote : IsReadable remote) {l : Listener} (hl : l ∈ held.listeners) :
    ∃ d, c.declarations.get? l.name = some d ∧ d.protocol.isHostRouted = false ∧
      (Dispatches client (listenerMessage d.protocol l remote) (Text.trim d.localAddress) ↔
        IsReadable l.name ∧ IsReadable l.address) := by
  have hname := List.mem_map_of_mem (f := Listener.name) hl
  rw [h.listeners] at hname
  obtain ⟨d, hget, hrouted⟩ := mem_streamNames_iff.1 hname
  have hother : d.protocol ≠ .http := by
    intro hhttp
    rw [hhttp] at hrouted
    cases hrouted
  refine ⟨d, hget, hrouted, ?_⟩
  rw [dispatches_iff (h.get?_streams hget hother)]
  constructor
  · rintro ⟨haddress, hname, -⟩
    exact ⟨hname, haddress⟩
  · rintro ⟨hname, haddress⟩
    exact ⟨haddress, hname, hremote⟩

/-- For a TCP listener the address does not matter. -/
theorem tcp_dispatches_iff (h : Admitted registry connection c client held)
    (hremote : IsReadable remote) {l : Listener} (hl : l ∈ held.listeners) {scene : SocketScene}
    {address : String} {protocol : Protocol} {a : SocketAddress}
    (hbound : scene.bindTcp address protocol = .ok a) (hreported : l.address = a.text) :
    ∃ d, c.declarations.get? l.name = some d ∧ d.protocol.isHostRouted = false ∧
      (Dispatches client (listenerMessage d.protocol l remote) (Text.trim d.localAddress) ↔
        IsReadable l.name) := by
  obtain ⟨d, hget, hrouted, hiff⟩ := h.listener_dispatches_iff hremote hl
  have haddress : IsReadable l.address := by
    rw [hreported]
    exact isReadable_of_bindTcp hbound
  exact ⟨d, hget, hrouted, hiff.trans (and_iff_left haddress)⟩

end Admitted

/-- A TLS stream is routed exactly if the record that it opens with has a server name that
resolves to a TLS tunnel. -/
theorem routeStream_eq_routed_iff {registry : Registry} {reads : List Bytes} {remote : String}
    {route : HostRoute} {message : ControlMessage} {opening : Bytes} :
    routeStream registry reads remote = .routed route message opening ↔
      ∃ unread host, ClientHello.readRecord [] reads = .complete opening unread ∧
        ClientHello.serverName opening = .ok host ∧ registry.resolve host = some route ∧
        route.protocol = .sni ∧ message = ⟨.sni, host, route.tunnel, remote⟩ := by
  constructor
  · intro h
    cases hread : ClientHello.readRecord [] reads with
    | tooLarge => simp [routeStream, hread] at h
    | ended => simp [routeStream, hread] at h
    | complete record unread =>
      simp only [routeStream, hread, routeRecord] at h
      split at h
      · cases h
      next host hname =>
      split at h
      · cases h
      next found hresolve =>
      split at h
      · next hsni =>
        cases h
        exact ⟨unread, host, rfl, hname, hresolve, hsni, rfl⟩
      · cases h
  · rintro ⟨unread, host, hread, hname, hresolve, hsni, rfl⟩
    simp only [routeStream, hread, routeRecord, hname, hresolve, if_pos hsni]

/-- What a TLS stream needs to be dispatched. -/
theorem Admitted.routed_dispatches_iff {registry : Registry} {connection : String}
    {c : Client.Config} {client : Client} {held : Holdings} {host remote : String}
    {route : HostRoute} (h : Admitted registry connection c client held)
    (hremote : IsReadable remote) (hresolve : registry.resolve host = some route)
    (hconnection : route.connection = connection) (hsni : route.protocol = .sni) :
    ∃ d, c.declarations.get? route.tunnel = some d ∧ d.protocol = .sni ∧
      (Dispatches client ⟨.sni, host, route.tunnel, remote⟩ (Text.trim d.localAddress) ↔
        IsReadable route.tunnel ∧ IsReadable host) := by
  obtain ⟨d, hget, hprotocol, -, -⟩ := h.serves.declared hresolve hconnection
  have hother : d.protocol ≠ .http := by
    rw [hprotocol, hsni]
    exact nofun
  refine ⟨d, hget, hprotocol.trans hsni, ?_⟩
  rw [dispatches_iff (h.get?_streams hget hother)]
  constructor
  · rintro ⟨hhost, hname, -⟩
    exact ⟨hname, hhost⟩
  · rintro ⟨hname, hhost⟩
    exact ⟨hhost, hname, hremote⟩

/-- When the streams of an admitted client are dispatched, for callers whose address can be
read. Every tunnel without a host has a listener; its streams get to the local address of the
tunnel exactly if the name and the listener's address can be read. A TLS stream whose server
name resolves to a TLS tunnel of the client is routed to it, and gets to the local address
exactly if the name of the tunnel and the server name can be read. -/
theorem streams_dispatched_iff {registry : Registry} {connection : String} {c : Client.Config}
    {client : Client} {held : Holdings} (h : Admitted registry connection c client held)
    {remote : String} (hremote : IsReadable remote) :
    (∀ name d, c.declarations.get? name = some d → d.protocol.isHostRouted = false →
      ∃ l ∈ held.listeners, l.name = name) ∧
    (∀ l ∈ held.listeners, ∃ d,
      c.declarations.get? l.name = some d ∧ d.protocol.isHostRouted = false ∧
        (Dispatches client (listenerMessage d.protocol l remote) (Text.trim d.localAddress) ↔
          IsReadable l.name ∧ IsReadable l.address)) ∧
    ∀ reads opening unread host route,
      ClientHello.readRecord [] reads = .complete opening unread →
      ClientHello.serverName opening = .ok host → registry.resolve host = some route →
      route.connection = connection → route.protocol = .sni →
      routeStream registry reads remote =
          .routed route ⟨.sni, host, route.tunnel, remote⟩ opening ∧
        ∃ d, c.declarations.get? route.tunnel = some d ∧ d.protocol = .sni ∧
          (Dispatches client ⟨.sni, host, route.tunnel, remote⟩ (Text.trim d.localAddress) ↔
            IsReadable route.tunnel ∧ IsReadable host) := by
  refine ⟨?_, ?_, ?_⟩
  · intro name d hget hrouted
    exact h.exists_listener hget hrouted
  · intro l hl
    exact h.listener_dispatches_iff hremote hl
  · intro reads opening unread host route hread hname hresolve hconnection hsni
    constructor
    · exact routeStream_eq_routed_iff.2 ⟨unread, host, hread, hname, hresolve, hsni, rfl⟩
    · exact h.routed_dispatches_iff hremote hresolve hconnection hsni

/-- A ClientHello with a server name, in one record. -/
def clientHello (name : String) : Bytes :=
  let list := 0 :: 0 :: UInt8.ofNat (utf8 name).length :: utf8 name
  let data := 0 :: UInt8.ofNat list.length :: list
  let extensions := 0 :: 0 :: 0 :: UInt8.ofNat data.length :: data
  let hello := [3, 3] ++ List.replicate 32 0 ++ [0, 0, 2, 0x13, 1, 1, 0] ++
    (0 :: UInt8.ofNat extensions.length :: extensions)
  let message := 1 :: 0 :: 0 :: UInt8.ofNat hello.length :: hello
  0x16 :: 3 :: 1 :: 0 :: UInt8.ofNat message.length :: message

/-- Tunnels on a port, on a socket path and on a server name. -/
def streamConfig : Client.Config where
  serverAddress := "tunnel.example:7443"
  declarations := .ofList [("ssh", ⟨.tcp, "", " 127.0.0.1:22", "0.0.0.0:AUTO", none⟩),
    ("door", ⟨.unix, "", "/run/app.sock", "/tmp/door.sock", none⟩),
    ("web", ⟨.sni, "Web.Example", "127.0.0.1:443", "", none⟩)]
  token := "secret"
  security := some .plaintext
  clientName := "node"
  backoff := .default

/-- What the client owns once its tunnels are opened. -/
def streamHoldings : Holdings where
  clientName := "node"
  connection := "10.0.0.1:5000"
  claims := hostClaims (streamConfig.declarations.map Declaration.toTunnel).entries
  listeners := [⟨"door", "/tmp/door.sock", none, 0⟩, ⟨"ssh", "0.0.0.0:7000", some 7000, 1⟩]

/-- The registry after the client has come and its tunnels are committed. -/
def streamRegistry : Registry :=
  Registry.empty.run [.reserve "10.0.0.1:5000", .subscribe "node" "10.0.0.1:5000",
    .commit streamHoldings]

theorem admitted_streams {client : Client} (h : Client.ofConfig streamConfig = .ok client) :
    Admitted streamRegistry "10.0.0.1:5000" streamConfig client streamHoldings :=
  ⟨h, Registry.consistent_foldl Registry.consistent_empty _, ⟨"node", rfl⟩, rfl, rfl⟩

/-- One read brings the whole record. -/
theorem readRecord_web : ClientHello.readRecord [] [clientHello "WEB.example"] =
    .complete (clientHello "WEB.example") [] := by
  have hneeded : ClientHello.recordLength? (clientHello "WEB.example") = some 72 := by
    decide +kernel
  have hlength : (clientHello "WEB.example").length = 72 := by decide +kernel
  have hsome : (clientHello "WEB.example").isEmpty = false := by decide +kernel
  have hnone : ClientHello.recordLength? [] = none := rfl
  rw [ClientHello.readRecord, hnone, ClientHello.readRecord.next, if_neg (by simp [hsome]),
    List.nil_append, ClientHello.readRecord, hneeded]
  simp [hlength, ClientHello.maxRecord]

/-- Control: the streams of all three kinds are dispatched. -/
theorem streams_dispatched_iff_ascii :
    ∃ client, Client.ofConfig streamConfig = .ok client ∧
      Admitted streamRegistry "10.0.0.1:5000" streamConfig client streamHoldings ∧
      IsReadable "203.0.113.9:5100" ∧
      Dispatches client ⟨.unix, "/tmp/door.sock", "door", "203.0.113.9:5100"⟩ "/run/app.sock" ∧
      Dispatches client ⟨.tcp, "0.0.0.0:7000", "ssh", "203.0.113.9:5100"⟩ "127.0.0.1:22" ∧
      routeStream streamRegistry [clientHello "WEB.example"] "203.0.113.9:5100" =
        .routed ⟨"node", "10.0.0.1:5000", "web", .sni, none⟩
          ⟨.sni, "web.example", "web", "203.0.113.9:5100"⟩ (clientHello "WEB.example") ∧
      Dispatches client ⟨.sni, "web.example", "web", "203.0.113.9:5100"⟩ "127.0.0.1:443" := by
  obtain ⟨client, hclient⟩ : ∃ client, Client.ofConfig streamConfig = .ok client :=
    Client.exists_ofConfig (by decide +kernel)
  have hadmitted := admitted_streams hclient
  have hremote : IsReadable "203.0.113.9:5100" := by decide
  obtain ⟨-, hlisteners, hroutes⟩ := streams_dispatched_iff hadmitted hremote
  have hdoor : Dispatches client ⟨.unix, "/tmp/door.sock", "door", "203.0.113.9:5100"⟩
      "/run/app.sock" := by
    obtain ⟨d, hget, -, hiff⟩ :=
      hlisteners ⟨"door", "/tmp/door.sock", none, 0⟩ List.mem_cons_self
    cases hget
    exact hiff.2 ⟨by decide, by decide⟩
  have hssh : Dispatches client ⟨.tcp, "0.0.0.0:7000", "ssh", "203.0.113.9:5100"⟩
      "127.0.0.1:22" := by
    obtain ⟨d, hget, -, hiff⟩ := hlisteners ⟨"ssh", "0.0.0.0:7000", some 7000, 1⟩
      (List.mem_cons_of_mem _ List.mem_cons_self)
    cases hget
    exact hiff.2 ⟨by decide, by decide⟩
  have hname : ClientHello.serverName (clientHello "WEB.example") = .ok "web.example" := by
    decide +kernel
  have hresolve : streamRegistry.resolve "web.example" =
      some ⟨"node", "10.0.0.1:5000", "web", .sni, none⟩ := by decide +kernel
  obtain ⟨hrouted, d, hget, -, hiff⟩ := hroutes _ _ _ _ _ readRecord_web hname hresolve rfl rfl
  cases hget
  exact ⟨client, hclient, hadmitted, hremote, hdoor, hssh, hrouted, hiff.2 ⟨by decide, by decide⟩⟩

/-- A tunnel on a port of the pool, with a name that is not ASCII. -/
def accentConfig : Client.Config where
  serverAddress := "tunnel.example:7443"
  declarations := .ofList [("é", ⟨.tcp, "", "127.0.0.1:80", "0.0.0.0:AUTO", none⟩)]
  token := "secret"
  security := some .plaintext
  clientName := "node"
  backoff := .default

/-- A server to which its client has come. -/
def greetedServer : State :=
  { State.fresh (.new "127.0.0.1:0" "7000:7003") ⟨7000, [none, none, none], by decide⟩ with
    registry := Registry.empty.run [.reserve "10.0.0.1:5000", .subscribe "node" "10.0.0.1:5000"] }

/-- The client is made and its tunnel is opened and committed. The message for a caller of the
listener is written, and the client refuses to read it. -/
theorem unread_name_committed :
    ∃ client s l headers, Client.ofConfig accentConfig = .ok client ∧
      provision greetedServer "10.0.0.1:5000" "node"
          (accentConfig.declarations.map Declaration.toTunnel) openSurroundings = (s, .ok ()) ∧
      s.registry.clients.get? "node" =
        some ⟨"10.0.0.1:5000", some ⟨"node", "10.0.0.1:5000", [], [l]⟩⟩ ∧
      l.name = "é" ∧ l.address = "0.0.0.0:7000" ∧
      client.routes.streams.get? l.name = some "127.0.0.1:80" ∧
      (listenerMessage .tcp l "203.0.113.9:5100").write .empty = (headers, .ok ()) ∧
      ControlMessage.read headers = .error (.invalidHeader ControlMessage.tunnelField) := by
  obtain ⟨client, hclient⟩ : ∃ client, Client.ofConfig accentConfig = .ok client :=
    Client.exists_ofConfig (by decide +kernel)
  let t : Task := ⟨"10.0.0.1:5000", openSurroundings,
    .opening "node" (accentConfig.declarations.map Declaration.toTunnel).entries .empty⟩
  have hdone : (t.steps greetedServer 5).2.isDone = true := by decide +kernel
  have hopened : provision greetedServer "10.0.0.1:5000" "node"
      (accentConfig.declarations.map Declaration.toTunnel) openSurroundings =
        ((t.steps greetedServer 5).1, .ok ()) := provision_of_steps hdone
  have howned : ((t.steps greetedServer 5).1.registry.clients.get? "node").map
      (fun s => (s.connection, s.holdings)) = some ("10.0.0.1:5000",
        some ⟨"node", "10.0.0.1:5000", [], [⟨"é", "0.0.0.0:7000", some 7000, 0⟩]⟩) := by
    decide +kernel
  generalize t.steps greetedServer 5 = opened at hopened howned
  obtain ⟨⟨key, held⟩, hactive, hheld⟩ := Option.map_eq_some_iff.1 howned
  obtain ⟨rfl, rfl⟩ := Prod.mk.inj hheld
  obtain ⟨-, -, hbuilt, -⟩ := Client.ofConfig_eq_ok hclient
  have hget : accentConfig.declarations.get? "é" =
      some ⟨.tcp, "", "127.0.0.1:80", "0.0.0.0:AUTO", none⟩ := rfl
  have hrouted := Routes.get?_streams hbuilt hget (by decide)
  have htrim : Text.trim "127.0.0.1:80" = "127.0.0.1:80" := by decide +kernel
  rw [htrim] at hrouted
  have hwrite := ControlMessage.write_eq_ok_iff (h := .empty) (m := ⟨.tcp, "0.0.0.0:7000", "é",
    "203.0.113.9:5100"⟩).2 ⟨.literal "0.0.0.0:7000", .literal "é", .literal "203.0.113.9:5100",
    by decide, by decide, by decide, rfl⟩
  refine ⟨client, _, ⟨"é", "0.0.0.0:7000", some 7000, 0⟩, _, hclient, hopened, hactive,
    rfl, rfl, hrouted, hwrite, ?_⟩
  -- The address can be read, the name cannot.
  rw [ControlMessage.read_of_write hwrite, if_neg (not_not.2 (by decide)), if_pos (by decide)]

end Server

end ReverseTunnel
