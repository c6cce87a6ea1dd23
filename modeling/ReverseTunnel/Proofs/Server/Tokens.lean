import ReverseTunnel.Proofs.ControlMessage
import ReverseTunnel.Proofs.Handshake

/-!
# Which tokens let a client in

A client presents its token in a header field of its answer to the hello. A configuration is
accepted if the token may stand in a field: any bytes from the space up, without DEL, and tabs.
The server reads the field as a text, which takes printable ASCII and tabs. So a server that
asks for the very token of a client lets the client in exactly if the token is of that kind
(`hello_authorized_iff`).

For every other token that is accepted the field is there and the server says that it is missing
(`accepted_token_unread`).
-/

namespace ReverseTunnel

open Http

namespace Client

/-- The answer to a hello presents the token and nothing else. -/
theorem response_of_dispatch {client : Client} {method : String} {headers : Headers}
    {response : Response} {document : Bytes}
    (h : dispatch client method headers = .hello response document) :
    response = ⟨.ok, Headers.empty.insert tokenField client.token, []⟩ := by
  simp only [dispatch] at h
  repeat' split at h
  all_goals cases h
  rfl

end Client

namespace Server

/-- What a server reads of the hello of a client. -/
theorem readHello_of_dispatch {c : Client.Config} {client : Client}
    (hclient : Client.ofConfig c = .ok client) {method : String} {headers : Headers}
    {response : Response} {document : Bytes}
    (hdispatch : Client.dispatch client method headers = .hello response document) :
    readHello (.answered response.status response.headers document) =
      if IsReadable c.token then .ok (c.token, c.handshake)
      else .error (.handshake .missingToken) := by
  obtain rfl := Client.response_of_dispatch hdispatch
  obtain rfl := Client.document_of_dispatch hdispatch
  have hfield : (Headers.empty.insert tokenField client.token).get? tokenField =
      some client.token := by
    rw [Headers.get?_insert]
    exact if_pos rfl
  have htext := FieldValue.text?_of_ofText? (Client.made_of_ofConfig hclient).token
  rw [readHello, if_neg (by simp), hfield, Option.bind_some, htext]
  by_cases hreadable : IsReadable c.token
  · rw [if_pos hreadable, if_pos hreadable, Client.decode_hello hclient]
  · rw [if_neg hreadable, if_neg hreadable]

/-- A client answers every hello. A server that asks for the token of the client's configuration
reads the token and the handshake and lets the client in exactly if the token is printable ASCII
and tabs; any other token counts as missing. -/
theorem hello_authorized_iff {c : Client.Config} {client : Client}
    (hclient : Client.ofConfig c = .ok client) (settings : Config) :
    (∃ response, Client.dispatch client "CONNECT" .empty = .hello response client.hello) ∧
    ∀ method headers response document,
      Client.dispatch client method headers = .hello response document →
      let answer := HelloAnswer.answered response.status response.headers document
      ((∀ ch ∈ c.token.toList, (0x20 ≤ ch.toNat ∧ ch.toNat < 0x7F) ∨ ch = '\t') ↔
        readHello answer = .ok (c.token, c.handshake) ∧
          (settings.withToken c.token).authorizes c.token = true ∧
          authorizedHandshake (settings.withToken c.token) answer = .ok c.handshake) ∧
      ((∃ ch ∈ c.token.toList, ¬ ((0x20 ≤ ch.toNat ∧ ch.toNat < 0x7F) ∨ ch = '\t')) →
        authorizedHandshake (settings.withToken c.token) answer =
          .error (.handshake .missingToken)) := by
  refine ⟨⟨_, rfl⟩, ?_⟩
  intro method headers response document hdispatch
  have hread := readHello_of_dispatch hclient hdispatch
  have haccepts : (settings.withToken c.token).authorizes c.token = true := by
    simp [Config.authorizes, Config.withToken]
  constructor
  · rw [← isReadable_iff]
    constructor
    · intro hreadable
      rw [if_pos hreadable] at hread
      refine ⟨hread, haccepts, ?_⟩
      rw [authorizedHandshake, hread]
      exact if_pos haccepts
    · rintro ⟨hok, -, -⟩
      by_contra hunreadable
      rw [hok, if_neg hunreadable] at hread
      cases hread
  · rintro ⟨ch, hch, hother⟩
    have hunreadable : ¬ IsReadable c.token := by
      intro hreadable
      exact hother (isReadable_iff.1 hreadable ch hch)
    rw [authorizedHandshake, hread, if_neg hunreadable]

/-- A client with this token and one tunnel. -/
def tokenConfig (token : String) : Client.Config where
  serverAddress := "tunnel.example:7443"
  declarations := .ofList [("ssh", ⟨.tcp, "", "127.0.0.1:22", "0.0.0.0:AUTO", none⟩)]
  token
  security := some .plaintext
  clientName := "node"
  backoff := .default

/-- Control: a token of printable ASCII with a tab lets its client in. -/
theorem hello_authorized_iff_ascii :
    ∃ client response, Client.ofConfig (tokenConfig "s3cret\t~") = .ok client ∧
      Client.dispatch client "CONNECT" .empty = .hello response client.hello ∧
      authorizedHandshake ((Config.new "127.0.0.1:0" "7000:7003").withToken "s3cret\t~")
          (.answered response.status response.headers client.hello) =
        .ok (tokenConfig "s3cret\t~").handshake := by
  obtain ⟨client, hclient⟩ : ∃ client, Client.ofConfig (tokenConfig "s3cret\t~") = .ok client :=
    Client.exists_ofConfig (by decide +kernel)
  obtain ⟨⟨response, hdispatch⟩, hanswer⟩ :=
    hello_authorized_iff hclient (Config.new "127.0.0.1:0" "7000:7003")
  obtain ⟨hiff, -⟩ := hanswer _ _ _ _ hdispatch
  exact ⟨client, response, hclient, hdispatch, (hiff.1 (isReadable_iff.1 (by decide))).2.2⟩

/-- A client is made with a token beyond ASCII, and the server that asks for this token says
that there is none. -/
theorem accepted_token_unread :
    ∃ client response, Client.ofConfig (tokenConfig "é") = .ok client ∧
      Client.dispatch client "CONNECT" .empty = .hello response client.hello ∧
      response.headers.get? tokenField = some (.literal "é") ∧
      authorizedHandshake ((Config.new "127.0.0.1:0" "7000:7003").withToken "é")
          (.answered response.status response.headers client.hello) =
        .error (.handshake .missingToken) := by
  obtain ⟨client, hclient⟩ : ∃ client, Client.ofConfig (tokenConfig "é") = .ok client :=
    Client.exists_ofConfig (by decide +kernel)
  have hdispatch : Client.dispatch client "CONNECT" .empty =
      .hello ⟨.ok, Headers.empty.insert tokenField client.token, []⟩ client.hello := rfl
  have htoken : client.token = .literal "é" := by
    have hvalue := (Client.made_of_ofConfig hclient).token
    rw [show FieldValue.ofText? (tokenConfig "é").token = some (.literal "é") by decide] at hvalue
    exact (Option.some.inj hvalue).symm
  have hread := readHello_of_dispatch hclient hdispatch
  refine ⟨client, _, hclient, hdispatch, ?_, ?_⟩
  · rw [Headers.get?_insert, htoken]
    exact if_pos rfl
  · rw [authorizedHandshake, hread, if_neg (by decide)]

end Server

end ReverseTunnel
