import ReverseTunnel.Bytes
import ReverseTunnel.Text.Ascii

/-!
# The server name of a ClientHello

A TLS stream opens with a record that holds a ClientHello. The server name
stands in the first extension of type 0, in the first entry of name type 0. All
lengths are checked against the bytes that are there; what follows the record or
the extensions does not count.
-/

namespace ReverseTunnel.ClientHello

/-- Why a record gives no server name. -/
inductive Fault where
  | notClientHello
  | truncated
  | missing
  | invalidEncoding
  | emptyName
  deriving DecidableEq

/-- The wording of a fault. -/
def Fault.message : Fault → String
  | .notClientHello => "Not a TLS ClientHello"
  | .truncated => "Truncated ClientHello"
  | .missing => "ClientHello carries no server name"
  | .invalidEncoding => "Invalid SNI hostname: Invalid UTF-8 in hostname"
  | .emptyName => "Invalid SNI hostname: Empty hostname"

/-- The length of the first record with its header, once the header is there. -/
def recordLength? : Bytes → Option Nat
  | _ :: _ :: _ :: high :: low :: _ => some (5 + be16 high low)
  | _ => none

/-- The first `n` bytes and the rest. -/
def take (n : Nat) (bytes : Bytes) : Except Fault (Bytes × Bytes) :=
  if n ≤ bytes.length then .ok (bytes.take n, bytes.drop n) else .error .truncated

/-- The bytes after the first `n`. -/
def skip (n : Nat) (bytes : Bytes) : Except Fault Bytes :=
  if n ≤ bytes.length then .ok (bytes.drop n) else .error .truncated

/-- A byte and the rest. -/
def byte : Bytes → Except Fault (UInt8 × Bytes)
  | b :: rest => .ok (b, rest)
  | [] => .error .truncated

/-- A 16-bit number and the rest. -/
def word : Bytes → Except Fault (Nat × Bytes)
  | high :: low :: rest => .ok (be16 high low, rest)
  | _ => .error .truncated

/-- A block with an 8-bit length in front, and the rest. -/
def block8 (bytes : Bytes) : Except Fault (Bytes × Bytes) := do
  let (n, bytes) ← byte bytes
  take n.toNat bytes

/-- A block with a 16-bit length in front, and the rest. -/
def block16 (bytes : Bytes) : Except Fault (Bytes × Bytes) := do
  let (n, bytes) ← word bytes
  take n bytes

/-- The host name of a name entry. -/
def hostName (name : Bytes) : Except Fault String :=
  match text? name with
  | none => .error .invalidEncoding
  | some s => if name.isEmpty then .error .emptyName else .ok (Text.lower s)

/-- The first entry of name type 0 in a list of names. -/
def firstHostName : Bytes → Except Fault String
  | [] => .error .missing
  | kind :: high :: low :: rest =>
    if be16 high low ≤ rest.length then
      if kind = 0 then hostName (rest.take (be16 high low))
      else firstHostName (rest.drop (be16 high low))
    else .error .truncated
  | _ => .error .truncated
termination_by bytes => bytes.length
decreasing_by
  simp only [List.length_drop, List.length_cons]
  omega

/-- The host name in the data of a server name extension. -/
def serverNameData (data : Bytes) : Except Fault String := do
  let (list, _) ← block16 data
  firstHostName list

/-- The host name in the first extension of type 0. -/
def firstServerName : Bytes → Except Fault String
  | [] => .error .missing
  | typeHigh :: typeLow :: high :: low :: rest =>
    if be16 high low ≤ rest.length then
      if be16 typeHigh typeLow = 0 then serverNameData (rest.take (be16 high low))
      else firstServerName (rest.drop (be16 high low))
    else .error .truncated
  | _ => .error .truncated
termination_by bytes => bytes.length
decreasing_by
  simp only [List.length_drop, List.length_cons]
  omega

/-- The server name of the record after its header. -/
def serverNameOfRecord (record : Bytes) : Except Fault String := do
  let (kind, record) ← byte record
  if kind ≠ 1 then throw .notClientHello
  -- length, version and random
  let record ← skip 3 record
  let record ← skip 2 record
  let record ← skip 32 record
  let (_session, record) ← block8 record
  let (_suites, record) ← block16 record
  let (_methods, record) ← block8 record
  if record.isEmpty then throw .missing
  let (extensions, _) ← block16 record
  firstServerName extensions

/-- The server name of the ClientHello that the bytes open with, in lower case. -/
def serverName (bytes : Bytes) : Except Fault String := do
  let (kind, bytes) ← byte bytes
  if kind ≠ 0x16 then throw .notClientHello
  let bytes ← skip 2 bytes
  let (record, _) ← block16 bytes
  serverNameOfRecord record

/-- The largest first record, with its header, in which a name is looked for. -/
def maxRecord : Nat := 16389

/-- How reading the first record of a stream ends. -/
inductive Reading where
  /-- The bytes read, and the reads that were not made. -/
  | complete (bytes : Bytes) (unread : List Bytes)
  | tooLarge
  | ended
  deriving DecidableEq

/-- Reads until the first record is there. Every element of the list is what one
read brings; an empty one, like the end of the list, is the end of the stream. -/
def readRecord (buffered : Bytes) (reads : List Bytes) : Reading :=
  match recordLength? buffered with
  | some needed =>
    if needed > maxRecord then .tooLarge
    else if needed ≤ buffered.length then .complete buffered reads
    else next
  | none => next
where
  next : Reading :=
    match reads with
    | [] => .ended
    | chunk :: rest => if chunk.isEmpty then .ended else readRecord (buffered ++ chunk) rest

end ReverseTunnel.ClientHello
