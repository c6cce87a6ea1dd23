import ReverseTunnel.Backoff
import ReverseTunnel.Tunnel
import ReverseTunnel.Yaml.Record

/-!
# Tunnels files

A client takes its tunnels from a YAML file, which may also change the reconnect
policy. At least one tunnel must be declared.
-/

namespace ReverseTunnel

/-- What a tunnels file says about the reconnect policy. -/
structure BackoffSettings where
  initialMillis : Option UInt64
  multiplier : Option Binary64
  maxSeconds : Option UInt64
  /-- The budget of elapsed time; zero is to try forever. -/
  elapsedSeconds : Option UInt64

namespace BackoffSettings

/-- Nothing is said. -/
def unset : BackoffSettings := ⟨none, none, none, none⟩

/-- The budget of elapsed time. -/
def budget (s : BackoffSettings) : Option Duration :=
  match s.elapsedSeconds with
  | some seconds => if seconds = 0 then none else some (.ofSeconds seconds)
  | none => Backoff.default.maxElapsed

/-- The policy with these settings, and the usual ones where nothing is said. -/
def toBackoff (s : BackoffSettings) : Backoff :=
  .new ((s.initialMillis.map .ofMillis).getD Backoff.default.initial)
    (s.multiplier.getD Backoff.default.multiplier)
    ((s.maxSeconds.map .ofSeconds).getD Backoff.default.maxInterval) s.budget

end BackoffSettings

/-- What a tunnels file says. -/
structure TunnelsFile where
  tunnels : NameMap Declaration
  backoff : BackoffSettings

namespace TunnelsFile

open Yaml

/-- Why a text is no tunnels file. -/
inductive Fault where
  | yaml (fault : ReadFault)
  | noTunnels
  deriving DecidableEq

/-- The wording of a fault. -/
def Fault.message : Fault → String
  | .yaml fault => fault.message
  | .noTunnels => "no tunnels declared"

/-- Reads a text. -/
def readText (s : Site) (n : Node) : Except ReadFault String := s.text n "a string"

/-- Reads a protocol by its name. -/
def readProtocol (s : Site) (n : Node) : Except ReadFault Protocol :=
  s.alternative ["http", "tcp", "tcp4", "tcp6", "unix", "sni"] Protocol.ofName? n

/-- The keys of a declaration. Other keys are passed over. -/
def declarationKind : Site.RecordKind := ⟨"struct TunnelDeclaration", Declaration.fieldNames, true⟩

/-- Reads a declaration. -/
def readDeclaration (s : Site) (n : Node) : Except ReadFault Declaration := do
  let fields ← s.fields declarationKind n
  let protocol ← s.field n fields "protocol" readProtocol
  let host ← s.fieldOr fields "host" readText ""
  let localAddress ← s.field n fields "local_address" readText
  let remoteAddress ← s.fieldOr fields "remote_address" readText ""
  let auth ← s.fieldOr fields "auth_token" (fun s n => s.optional readText n) none
  return { protocol, host, localAddress, remoteAddress, auth }

/-- The keys of the settings of the reconnect policy. -/
def backoffKind : Site.RecordKind :=
  ⟨"struct BackoffSettings",
    ["initial_interval_ms", "multiplier", "max_interval_secs", "max_elapsed_secs"], false⟩

/-- Reads the settings of the reconnect policy. -/
def readBackoff (s : Site) (n : Node) : Except ReadFault BackoffSettings := do
  let fields ← s.fields backoffKind n
  let number := fun (s : Site) (n : Node) => s.optional Site.unsigned64 n
  let initialMillis ← s.fieldOr fields "initial_interval_ms" number none
  let multiplier ← s.fieldOr fields "multiplier" (fun s n => s.optional Site.binary64 n) none
  let maxSeconds ← s.fieldOr fields "max_interval_secs" number none
  let elapsedSeconds ← s.fieldOr fields "max_elapsed_secs" number none
  return { initialMillis, multiplier, maxSeconds, elapsedSeconds }

/-- The keys of a tunnels file. -/
def fileKind : Site.RecordKind := ⟨"struct TunnelsFile", ["tunnels", "backoff"], false⟩

/-- Reads the root of a tunnels file. -/
def readFile (s : Site) (n : Node) : Except ReadFault TunnelsFile := do
  let fields ← s.fields fileKind n
  let tunnels ← s.field n fields "tunnels" fun s n => s.nameMap readDeclaration n
  let backoff ← s.fieldOr fields "backoff" readBackoff .unset
  return { tunnels, backoff }

/-- The tunnels file that a text holds. -/
def parse (text : String) : Except Fault TunnelsFile := do
  let document ← (Document.parse text).mapError fun e => .yaml (.document e)
  let file ← (readFile ⟨document, []⟩ document.root).mapError .yaml
  if file.tunnels.isEmpty then throw .noTunnels
  return file

end TunnelsFile

end ReverseTunnel
