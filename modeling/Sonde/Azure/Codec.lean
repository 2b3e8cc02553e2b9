import Sonde.Gateway.Pairing

/-!
# The connector codec of the cloud handler

`decode_connector_message` reads what the gateway reports; `encode_desired_state` and `encode_gateway_desired_state` write
the answers. A text is its UTF-8 bytes.
-/

namespace Sonde.Azure
open Lib Protocol Gateway

def msgTypeDesiredState : Nat := 0x01
def msgTypeActualState : Nat := 0x02
def msgTypeAppData : Nat := 0x03

inductive HandlerError where
  | decode (message : String)
  | store (message : String)
  | http (message : String)
  deriving DecidableEq, Repr

-- One byte for each character, which is not UTF-8: for ASCII literals only.
def ascii (s : String) : Bytes := s.toList.map fun c => BitVec.ofNat 8 c.toNat

structure ActualStateMessage where
  entityKind : Bytes
  entityId : Bytes
  currentProgramHash : Option Bytes
  assignedProgramHash : Option Bytes
  batteryMv : Option Nat
  wakeRssiDbm : Option (BitVec 8)
  firmwareAbiVersion : Option Nat
  firmwareVersion : Option Bytes
  timestampMs : BitVec 64
  scheduleIntervalS : Option Nat
  encryptedPsk : Option Bytes
  escrowKeyHint : Option Nat
  nodeMasterKeyId : Option Bytes
  channel : Option Nat
  gatewayMasterKeyId : Option Bytes
  masterKeyEpoch : Option Nat
  x25519PublicKey : Option Bytes
  fingerprintWords : Option (List Bytes)
  missingKeyHints : Option (List Nat)
  gatewayVersion : Option Bytes
  gatewayCommit : Option Bytes
  modemFirmwareVersion : Option Bytes
  modemFirmwareCommit : Option Bytes
  rotationInProgress : Option Bool
  deriving DecidableEq, Repr

structure AppDataMessage where
  nodeId : Bytes
  programHash : Bytes
  payload : Bytes
  timestampMs : BitVec 64
  readings : Option (List (Bytes × Int))
  deriving DecidableEq, Repr

inductive ConnectorMessage where
  | actualState (message : ActualStateMessage)
  | appData (message : AppDataMessage)
  | unsupported (msgType : Nat)
  deriving DecidableEq, Repr

/-! ## Fields -/

abbrev CborMap := List (Cbor × Cbor)

def decodeMap (reader : Cbor.Reader) (bytes : Bytes) : Except HandlerError CborMap :=
  match reader.fromReader bytes with
  | .error e => .error (.decode s!"failed to decode connector CBOR: {e}")
  | .ok (.map entries) => .ok entries
  | .ok _ => .error (.decode "connector payload must be a CBOR map")

def mapGet (map : CborMap) (key : Nat) : Option Cbor := (map.find? fun entry => asU64 entry.1 = some key).map (·.2)

section
variable {α : Type} (map : CborMap) (key : Nat) (field : String)

def required (view : Cbor → Option α) (kind : String) : Except HandlerError α :=
  match mapGet map key with
  | none => .error (.decode s!"missing `{field}`")
  | some value =>
    match view value with
    | some a => .ok a
    | none => .error (.decode s!"`{field}` must be {kind}")

def requiredU64 : Except HandlerError Nat := required map key field asU64 "uint"

def requiredText : Except HandlerError Bytes := required map key field asText "text"

def requiredBytes : Except HandlerError Bytes := required map key field asBytes "bstr"

def validateBytesLength (bytes : Bytes) (expected : Nat) : Except HandlerError Unit :=
  let length := bytes.length
  if length = expected then .ok () else .error (.decode s!"`{field}` must be exactly {expected} bytes, got {length}")

def requiredProgramHash : Except HandlerError Bytes := do
  let bytes ← requiredBytes map key field
  validateBytesLength field bytes 32
  .ok bytes

def optional (view : Cbor → Option α) (kind : String) : Except HandlerError (Option α) :=
  match mapGet map key with
  | some .null | none => .ok none
  | some value =>
    match view value with
    | some a => .ok (some a)
    | none => .error (.decode s!"`{field}` must be {kind} or null")

def optionalU32Field : Except HandlerError (Option Nat) := optional map key field (asNatBelow (2 ^ 32)) "uint"

def optionalI8Field : Except HandlerError (Option (BitVec 8)) := optional map key field asI8 "int (-128..127)"

def optionalTextField : Except HandlerError (Option Bytes) := optional map key field asText "text"

def optionalU64Field : Except HandlerError (Option Nat) := optional map key field asU64 "uint"

def optionalU16Field : Except HandlerError (Option Nat) := optional map key field (asNatBelow (2 ^ 16)) "uint16"

def asBool : Cbor → Option Bool
  | .bool b => some b
  | _ => none

def optionalBoolField : Except HandlerError (Option Bool) := optional map key field asBool "bool"

-- Unlike the other fields, an empty one is read as absent.
def optionalBytesField : Except HandlerError (Option Bytes) := do
  let value ← optional map key field asBytes "bstr"
  .ok (value.filter (· ≠ []))

def optionalFixedBytesField (expectedLen : Nat) : Except HandlerError (Option Bytes) := do
  let value ← optionalBytesField map key field
  match value with
  | some bytes => do
    validateBytesLength field bytes expectedLen
    .ok (some bytes)
  | none => .ok none

def optionalProgramHashField : Except HandlerError (Option Bytes) := optionalFixedBytesField map key field 32

def optionalArray (view : Cbor → Option α) (kind : String) : Except HandlerError (Option (List α)) :=
  match mapGet map key with
  | some .null | none => .ok none
  | some (.array items) =>
    match items.mapM view with
    | some values => .ok (some values)
    | none => .error (.decode s!"{field} array entries must be {kind}")
  | some _ => .error (.decode s!"`{field}` must be an array or null")

end

def asI64 (value : Cbor) : Option Int := (asInteger value).filter fun i => -2 ^ 63 ≤ i ∧ i < 2 ^ 63

def insertReading (readings : List (Bytes × Int)) (name : Bytes) (value : Int) : List (Bytes × Int) :=
  readings.filter (·.1 < name) ++ (name, value) :: readings.filter (name < ·.1)

def collectReadings (readings : List (Bytes × Int)) : CborMap → Except HandlerError (List (Bytes × Int))
  | [] => .ok readings
  | (k, v) :: entries =>
    match asText k with
    | none => .error (.decode "readings map key must be text")
    | some name =>
      match asI64 v with
      | some value => collectReadings (insertReading readings name value) entries
      | none =>
        let shown := textString name
        .error (.decode s!"readings value for `{shown}` must be a signed integer")

def decodeOptionalReadings (map : CborMap) (key : Nat) : Except HandlerError (Option (List (Bytes × Int))) :=
  match mapGet map key with
  | some .null | none => .ok none
  | some (.map entries) => do
    let readings ← collectReadings [] entries
    .ok (some readings)
  | some _ => .error (.decode "`readings` (key 16) must be a CBOR map or null")

def decodeActualState (map : CborMap) : Except HandlerError ActualStateMessage := do
  let entityKind ← requiredText map 2 "entity_kind"
  let entityId ← requiredText map 3 "entity_id"
  let currentProgramHash ← optionalProgramHashField map 4 "current_program_hash"
  let assignedProgramHash ← optionalProgramHashField map 5 "assigned_program_hash"
  let batteryMv ← optionalU32Field map 6 "battery_mv"
  let wakeRssiDbm ← optionalI8Field map 28 "wake_rssi_dbm"
  let firmwareAbiVersion ← optionalU32Field map 7 "firmware_abi_version"
  let firmwareVersion ← optionalTextField map 8 "firmware_version"
  let timestampMs ← requiredU64 map 9 "timestamp_ms"
  let scheduleIntervalS ← optionalU32Field map 11 "schedule_interval_s"
  let encryptedPsk ← optionalFixedBytesField map 12 "encrypted_psk" 60
  let escrowKeyHint ← optionalU16Field map 13 "escrow_key_hint"
  let nodeMasterKeyId ← optionalFixedBytesField map 14 "node_master_key_id" 32
  let channel ← optionalU32Field map 15 "channel"
  let gatewayMasterKeyId ← optionalFixedBytesField map 16 "gateway_master_key_id" 32
  let masterKeyEpoch ← optionalU64Field map 17 "master_key_epoch"
  let x25519PublicKey ← optionalFixedBytesField map 18 "x25519_public_key" 32
  let fingerprintWords ← optionalArray map 19 "fingerprint_words" asText "text"
  let missingKeyHints ← optionalArray map 20 "missing_key_hints" asU64 "uint"
  let gatewayVersion ← optionalTextField map 23 "gateway_version"
  let gatewayCommit ← optionalTextField map 24 "gateway_commit"
  let modemFirmwareVersion ← optionalTextField map 25 "modem_firmware_version"
  let modemFirmwareCommit ← optionalTextField map 26 "modem_firmware_commit"
  let rotationInProgress ← optionalBoolField map 27 "rotation_in_progress"
  .ok {
    entityKind, entityId, currentProgramHash, assignedProgramHash, batteryMv, wakeRssiDbm, firmwareAbiVersion,
    firmwareVersion, timestampMs := BitVec.ofNat 64 timestampMs, scheduleIntervalS, encryptedPsk, escrowKeyHint,
    nodeMasterKeyId, channel, gatewayMasterKeyId, masterKeyEpoch, x25519PublicKey, fingerprintWords, missingKeyHints,
    gatewayVersion, gatewayCommit, modemFirmwareVersion, modemFirmwareCommit, rotationInProgress }

def decodeAppData (map : CborMap) : Except HandlerError AppDataMessage := do
  let nodeId ← requiredText map 2 "node_id"
  let programHash ← requiredProgramHash map 3 "program_hash"
  let payload ← requiredBytes map 4 "payload"
  let timestampMs ← requiredU64 map 5 "timestamp_ms"
  let readings ← decodeOptionalReadings map 16
  .ok ⟨nodeId, programHash, payload, BitVec.ofNat 64 timestampMs, readings⟩

def decodeConnectorMessage (reader : Cbor.Reader) (bytes : Bytes) : Except HandlerError ConnectorMessage := do
  let map ← decodeMap reader bytes
  let msgType ← requiredU64 map 1 "msg_type"
  if msgType = msgTypeActualState then do
    let message ← decodeActualState map
    .ok (.actualState message)
  else if msgType = msgTypeAppData then do
    let message ← decodeAppData map
    .ok (.appData message)
  else .ok (.unsupported msgType)

structure DesiredStateRow where
  rowKey : List Char
  nodeId : Bytes
  desiredAssignedProgramHash : Option Bytes
  desiredScheduleIntervalS : Option Nat
  timestampMs : BitVec 64
  nodeId_utf8 : Cbor.isUtf8 nodeId = true
  interval_lt : ∀ interval ∈ desiredScheduleIntervalS, interval < 2 ^ 32
  deriving DecidableEq, Repr

structure ProgramImageRow where
  elfImage : Bytes
  sourceFilename : Option Bytes
  abiVersion : Option Nat
  verificationProfile : Bytes
  filename_utf8 : ∀ filename ∈ sourceFilename, Cbor.isUtf8 filename = true
  abiVersion_lt : ∀ abi ∈ abiVersion, abi < 2 ^ 32
  profile_utf8 : Cbor.isUtf8 verificationProfile = true

structure NodeEscrowRecord where
  entityId : Bytes
  keyHint : Nat
  encryptedPsk : Bytes
  masterKeyId : Bytes

def optBytesValue : Option Bytes → Cbor
  | some data => .bytes data
  | none => .null

def optU32Value : Option Nat → Cbor
  | some n => .unsigned n
  | none => .null

def fieldMap (fields : Fields) : Cbor := .map (fields.map fun (k, v) => (.unsigned k, v))

def ProgramImageRow.entries (program : ProgramImageRow) : Fields :=
  if program.elfImage = [] then []
  else
    [(5, .bytes program.elfImage), (6, .text program.verificationProfile)] ++
    (program.sourceFilename.toList.map fun filename => (7, .text filename)) ++
    (program.abiVersion.toList.map fun abi => (8, .unsigned abi))

def desiredStateEntries (row : DesiredStateRow) (program : Option ProgramImageRow) : Fields :=
  [(1, optBytesValue row.desiredAssignedProgramHash), (2, optU32Value row.desiredScheduleIntervalS)] ++
  program.toList.flatMap (·.entries)

def desiredStateMessage (entityKind entityId : Bytes) (desiredState : Fields) : Fields :=
  [(1, .unsigned msgTypeDesiredState), (2, .text entityKind), (3, .text entityId), (4, fieldMap desiredState)]

def encodeDesiredState (row : DesiredStateRow) (program : Option ProgramImageRow) : Bytes :=
  cborEncodeMap (desiredStateMessage (ascii "node") row.nodeId (desiredStateEntries row program))

def NodeEscrowRecord.entries (record : NodeEscrowRecord) : Fields :=
  [(1, .text record.entityId), (2, .unsigned record.keyHint), (3, .bytes record.encryptedPsk),
    (4, .bytes record.masterKeyId)]

def gatewayDesiredStateEntries (rotationPayload : Option Bytes) (recoveredPsks : List NodeEscrowRecord) : Fields :=
  (rotationPayload.toList.map fun payload => (28, .bytes payload)) ++
  if recoveredPsks = [] then [] else [(29, .array (recoveredPsks.map fun record => fieldMap record.entries))]

def encodeGatewayDesiredState (gatewayId : Bytes) (rotationPayload : Option Bytes)
    (recoveredPsks : List NodeEscrowRecord) : Bytes :=
  cborEncodeMap (desiredStateMessage (ascii "gateway") gatewayId (gatewayDesiredStateEntries rotationPayload recoveredPsks))

end Sonde.Azure
