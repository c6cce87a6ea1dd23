import ReverseTunnel.Client.Dispatch
import ReverseTunnel.Proofs.Json.RoundTrip
import ReverseTunnel.Proofs.NameMap
import ReverseTunnel.Server.Hello

/-!
# The handshake document is read as it was written

A handshake has a document exactly if its JSON form is not too large, and is then read as
it was written, whatever texts it holds (`Handshake.roundTrips`). The configuration of
every client that could be made leads to such a handshake, so a server learns from the hello
what the configuration says (`handshake_roundTrip`).
-/

namespace ReverseTunnel

namespace Tunnel

/-- The texts of the JSON form of a tunnel, by their field names. -/
def texts (t : Tunnel) : List (String × String) :=
  [("Protocol", t.protocol.name), ("Host", t.host)] ++ (t.auth.map fun a => ("Auth", a)).toList ++
    [("Addr", t.address)]

/-- The value that the JSON form of a tunnel writes. -/
def value (t : Tunnel) : Json.Value :=
  .object (t.texts.map fun m => (some m.1, .text (some m.2)))

theorem writes_write (t : Tunnel) : Json.Writes t.write t.value := by
  have hwrite : t.write = Json.writeObject (t.texts.map fun m => (m.1, Json.writeText m.2)) := by
    obtain ⟨protocol, host, auth, address⟩ := t
    cases auth <;> rfl
  rw [hwrite]
  exact Json.writes_writeObject Prod.fst fun m _ => Json.writes_writeText m.2

theorem ofJson?_value (t : Tunnel) : ofJson? t.value = some t := by
  obtain ⟨protocol, host, auth, address⟩ := t
  have hprotocol : Protocol.ofJson? (.text (some protocol.name)) = some protocol :=
    Protocol.ofName?_name protocol
  cases auth <;>
    simp [value, texts, ofJson?, Json.Value.fields?, Json.knownMembers?, fieldNames, hprotocol,
      Json.textFieldOr, Json.optionalTextField, List.lookup_cons, Json.Value.text?]

end Tunnel

namespace Handshake

/-- The value that the JSON form of some tunnels writes. -/
def tunnelsValue (tunnels : NameMap Tunnel) : Json.Value :=
  .object (tunnels.entries.map fun e => (some e.1, e.2.value))

theorem writes_tunnels (tunnels : NameMap Tunnel) :
    Json.Writes (Json.writeObject (tunnels.entries.map fun e => (e.1, e.2.write)))
      (tunnelsValue tunnels) :=
  Json.writes_writeObject Prod.fst fun e _ => e.2.writes_write

theorem tunnelsOfJson?_value (tunnels : NameMap Tunnel) :
    tunnelsOfJson? (tunnelsValue tunnels) = some tunnels := by
  have hfold : ∀ (entries : List (String × Tunnel)) (m : NameMap Tunnel),
      (entries.map fun e => (some e.1, e.2.value)).foldlM (fun tunnels member => do
        let name ← member.1
        let tunnel ← Tunnel.ofJson? member.2
        return tunnels.insert name tunnel) m =
      some (entries.foldl (fun m e => m.insert e.1 e.2) m) := by
    intro entries
    induction entries with
    | nil => exact fun m => rfl
    | cons e rest ih =>
      intro m
      rw [List.map_cons, List.foldlM_cons, Tunnel.ofJson?_value]
      exact ih _
  rw [tunnelsValue, tunnelsOfJson?, hfold]
  exact congrArg some (NameMap.ofList_entries tunnels)

/-- The value that the JSON form of a handshake writes. -/
def value (h : Handshake) : Json.Value :=
  .object [(some "IdName", .text (some h.clientName)), (some "Tunnels", tunnelsValue h.tunnels)]

theorem writes_write (h : Handshake) : Json.Writes h.write h.value := by
  let items : List (String × List Char × Json.Value) :=
    [("IdName", Json.writeText h.clientName, .text (some h.clientName)),
      ("Tunnels", Json.writeObject (h.tunnels.entries.map fun e => (e.1, e.2.write)),
        tunnelsValue h.tunnels)]
  have hitems : ∀ item ∈ items, Json.Writes item.2.1 item.2.2 := by
    intro item hitem
    simp only [items, List.mem_cons, List.not_mem_nil, or_false] at hitem
    rcases hitem with rfl | rfl
    · exact Json.writes_writeText h.clientName
    · exact writes_tunnels h.tunnels
  exact Json.writes_writeObject Prod.fst hitems

theorem ofJson?_value (h : Handshake) : ofJson? h.value = some h := by
  simp [value, ofJson?, Json.Value.fields?, Json.knownMembers?, fieldNames, Json.textField,
    List.lookup_cons, Json.Value.text?, tunnelsOfJson?_value]

/-- A document is written exactly if it is not too large. -/
theorem encode_eq_ok_iff {h : Handshake} {bytes : Bytes} :
    h.encode = .ok bytes ↔
      bytes = utf8 (String.ofList h.write) ∧ bytes.length ≤ maxHandshakeBytes := by
  rw [encode]
  split
  · next hlarge =>
    simp only [reduceCtorEq, false_iff, not_and, Nat.not_le]
    rintro rfl
    exact hlarge
  · next hsmall =>
    rw [Except.ok.injEq, eq_comm, iff_self_and]
    rintro rfl
    exact Nat.le_of_not_lt hsmall

/-- A handshake that may be sent is read as it was written, if its document is not too
large. -/
theorem decode_written {h : Handshake} (hname : Text.isBlankText h.clientName = false)
    (htunnels : h.tunnels.isEmpty = false)
    (hsize : (utf8 (String.ofList h.write)).length ≤ maxHandshakeBytes) :
    decode (utf8 (String.ofList h.write)) = .ok h := by
  rw [decode, if_neg (Nat.not_lt.2 hsize), Json.parse?_of_writes h.writes_write, Option.bind_some,
    ofJson?_value]
  simp [hname, htunnels]

/-- What becomes of a handshake that is written and read. -/
structure RoundTrips (h : Handshake) : Prop where
  /-- It has a document exactly if its JSON form is not too large. -/
  written : (∃ bytes, h.encode = .ok bytes) ↔
    (utf8 (String.ofList h.write)).length ≤ maxHandshakeBytes
  /-- Its document is read as the handshake. -/
  read : ∀ bytes, h.encode = .ok bytes → decode bytes = .ok h

theorem roundTrips {h : Handshake} (hname : Text.isBlankText h.clientName = false)
    (htunnels : h.tunnels.isEmpty = false) : h.RoundTrips where
  written := by
    constructor
    · rintro ⟨bytes, hencode⟩
      obtain ⟨rfl, hsize⟩ := encode_eq_ok_iff.1 hencode
      exact hsize
    · intro hsize
      exact ⟨_, encode_eq_ok_iff.2 ⟨rfl, hsize⟩⟩
  read := by
    intro bytes hencode
    obtain ⟨rfl, hsize⟩ := encode_eq_ok_iff.1 hencode
    exact decode_written hname htunnels hsize

end Handshake

/-! ## The handshake of a client -/

namespace Text

/-- Trimming leaves something of every text that is not blank. -/
theorem isBlankText_trim (s : String) : isBlankText (trim s) = isBlankText s := by
  obtain ⟨tail, happend, hblank⟩ := dropEndWhile_append isBlank (dropBlanks s.toList)
  have hfront : s.toList = s.toList.takeWhile isBlank ++ (trimList s.toList ++ tail) := by
    rw [trimList, ← happend, dropBlanks, List.takeWhile_append_dropWhile]
  rw [isBlankText, isBlankText, toList_trim]
  conv_rhs => rw [hfront]
  rw [List.all_append, List.all_append, List.all_takeWhile, hblank, Bool.true_and, Bool.and_true]

end Text

namespace Client

/-- Whether a configuration is accepted can be computed. -/
theorem exists_ofConfig {c : Config} (h : (ofConfig c).toOption.isSome = true) :
    ∃ client, ofConfig c = .ok client := by
  cases hclient : ofConfig c with
  | error e => simp [hclient, Except.toOption] at h
  | ok client => exact ⟨client, rfl⟩

/-- What an accepted configuration has, and what becomes of it. -/
structure Made (c : Config) (client : Client) : Prop where
  declared : c.declarations.isEmpty = false
  named : Text.isBlankText c.clientName = false
  token : Http.FieldValue.ofText? c.token = some client.token
  routes : Routes.build c.declarations = .ok client.routes
  hello : c.handshake.encode = .ok client.hello

theorem made_of_ofConfig {c : Config} {client : Client} (h : ofConfig c = .ok client) :
    Made c client := by
  simp only [ofConfig] at h
  split at h
  · cases h
  split at h
  · cases h
  split at h
  case h_2 => cases h
  next token htoken =>
  split at h
  case h_2 => cases h
  split at h
  · cases h
  next htunnels =>
  split at h
  · cases h
  next hname =>
  cases hroutes : Routes.build c.declarations with
  | error e =>
    rw [hroutes] at h
    cases h
  | ok routes =>
    cases hhello : c.handshake.encode with
    | error e =>
      rw [hroutes, hhello] at h
      cases h
    | ok hello =>
      rw [hroutes, hhello] at h
      cases h
      exact ⟨by simpa using htunnels, by simpa using hname, htoken, hroutes, hhello⟩

theorem ofConfig_eq_ok {c : Config} {client : Client} (h : ofConfig c = .ok client) :
    c.declarations.isEmpty = false ∧ Text.isBlankText c.clientName = false ∧
      Routes.build c.declarations = .ok client.routes ∧ c.handshake.encode = .ok client.hello := by
  have hmade := made_of_ofConfig h
  exact ⟨hmade.declared, hmade.named, hmade.routes, hmade.hello⟩

/-- The document of a client's hello is that of its handshake. -/
theorem document_of_dispatch {client : Client} {method : String} {headers : Http.Headers}
    {response : Http.Response} {document : Bytes}
    (h : dispatch client method headers = .hello response document) : document = client.hello := by
  simp only [dispatch] at h
  repeat' split at h
  all_goals cases h
  rfl

/-- A server reads the handshake of an accepted configuration from its client's document. -/
theorem decode_hello {c : Config} {client : Client} (h : ofConfig c = .ok client) :
    Handshake.decode (client.hello.take Server.readLimit) = .ok c.handshake := by
  obtain ⟨htunnels, hname, -, hhello⟩ := ofConfig_eq_ok h
  have hsize := (Handshake.encode_eq_ok_iff.1 hhello).2
  -- The server reads one byte more than a document may have, so it reads all of this one.
  have htake : client.hello.take Server.readLimit = client.hello :=
    List.take_of_length_le (Nat.le_succ_of_le hsize)
  have htrips : c.handshake.RoundTrips := by
    apply Handshake.roundTrips
    · rw [← hname]
      exact Text.isBlankText_trim c.clientName
    · simpa [Config.handshake, NameMap.map, NameMap.isEmpty] using htunnels
  rw [htake]
  exact htrips.read _ hhello

end Client

/-- Every handshake with a client name and tunnels is read as it was written, and a server
reads of the hello of every client that could be made its trimmed name and, by their names,
what it is to learn of its tunnels. -/
theorem handshake_roundTrip :
    (∀ h : Handshake, Text.isBlankText h.clientName = false → h.tunnels.isEmpty = false →
      h.RoundTrips) ∧
    ∀ (c : Client.Config) (client : Client), Client.ofConfig c = .ok client →
      ∀ method headers response document,
        Client.dispatch client method headers = .hello response document →
        Handshake.decode (document.take Server.readLimit) =
          .ok ⟨Text.trim c.clientName, c.declarations.map Declaration.toTunnel⟩ := by
  constructor
  · intro h hname htunnels
    exact Handshake.roundTrips hname htunnels
  · intro c client hclient method headers response document hdispatch
    obtain rfl := Client.document_of_dispatch hdispatch
    exact Client.decode_hello hclient

/-- A configuration whose texts need every kind of escape. -/
def escapedConfig : Client.Config where
  serverAddress := "tunnel.example:7443"
  declarations := .ofList [
    ("a\"b\\c", ⟨.tcp, "", "127.0.0.1:22", "0.0.0.0:AUTO", some "\x00\t\x7f"⟩),
    ("é\n😀", ⟨.sni, "n1.example", "127.0.0.1:443", "", none⟩)]
  token := "secret"
  security := some .plaintext
  clientName := "\u00a0node \"1\"\n"
  backoff := .default

/-- Control: the handshake of that configuration is read as it was written, and so is what
its client sends. -/
theorem handshake_roundTrip_escaped :
    escapedConfig.handshake.RoundTrips ∧
      ∃ client response, Client.ofConfig escapedConfig = .ok client ∧
        Client.dispatch client "CONNECT" .empty = .hello response client.hello ∧
        Handshake.decode (client.hello.take Server.readLimit) =
          .ok ⟨"node \"1\"", escapedConfig.declarations.map Declaration.toTunnel⟩ := by
  obtain ⟨client, hclient⟩ : ∃ client, Client.ofConfig escapedConfig = .ok client :=
    Client.exists_ofConfig (by decide +kernel)
  have hdispatch : Client.dispatch client "CONNECT" .empty = .hello
      ⟨.ok, Http.Headers.empty.insert tokenField client.token, []⟩ client.hello := rfl
  have hname : Text.trim escapedConfig.clientName = "node \"1\"" := by decide +kernel
  refine ⟨handshake_roundTrip.1 _ (by decide +kernel) (by decide +kernel), client, _, hclient,
    hdispatch, ?_⟩
  rw [← hname]
  exact handshake_roundTrip.2 _ client hclient _ _ _ _ hdispatch

end ReverseTunnel
