import Sonde.Gateway.Admin

/-!
# Connector messages

What the engine reports to the cloud for a frame, in the encoding of `connector.rs`, and how a message from the cloud is
read up to its desired-state map.
-/

namespace Sonde.Engine
open Lib Protocol Sonde.Gateway

def msgTypeDesiredState : Nat := 0x01
def msgTypeActualState : Nat := 0x02
def msgTypeAppData : Nat := 0x03

def ConnectorPayloadOrigin.asStr : ConnectorPayloadOrigin → Bytes
  | .appData => stringBytes "app_data"
  | .wakeBlob => stringBytes "wake_blob"

structure ActualState where
  entityKind : Bytes
  entityId : Bytes
  currentProgramHash : Option Bytes
  assignedProgramHash : Option Bytes
  scheduleIntervalS : Option Nat
  batteryMv : Option Nat
  firmwareAbiVersion : Option Nat
  firmwareVersion : Option Bytes
  timestampMs : BitVec 64
  encryptedPskEscrow : Option Bytes
  escrowKeyHint : Option (BitVec 16)
  masterKeyId : Option Bytes
  wakeRssiDbm : Option (BitVec 8)

inductive ConnectorOutboundMessage where
  | actualState (message : ActualState)
  | appData (message : AppData)

def optBytesValue : Option Bytes → Cbor
  | some data => .bytes data
  | none => .null

def optU32Value : Option Nat → Cbor
  | some n => .unsigned n
  | none => .null

def optTextValue : Option Bytes → Cbor
  | some utf8 => .text utf8
  | none => .null

def ActualState.pairs (message : ActualState) : Fields :=
  [(1, .unsigned msgTypeActualState), (2, .text message.entityKind), (3, .text message.entityId),
    (4, optBytesValue message.currentProgramHash), (5, optBytesValue message.assignedProgramHash),
    (6, optU32Value message.batteryMv), (7, optU32Value message.firmwareAbiVersion),
    (8, optTextValue message.firmwareVersion), (9, .unsigned message.timestampMs.toNat), (10, .map []),
    (11, optU32Value message.scheduleIntervalS), (12, optBytesValue message.encryptedPskEscrow),
    (13, optU32Value (message.escrowKeyHint.map (·.toNat))), (14, optBytesValue message.masterKeyId),
    (28, (message.wakeRssiDbm.map fun rssi => intVal rssi.toInt).getD .null)]

def ReadingMap.value (readings : ReadingMap) : Cbor :=
  .map (readings.entries.map fun entry => (.text entry.1, intVal entry.2))

def AppData.pairs (message : AppData) : Fields :=
  [(1, .unsigned msgTypeAppData), (2, .text message.nodeId), (3, .bytes message.programHash),
    (4, .bytes message.payload), (5, .unsigned message.timestampMs.toNat), (6, .text message.payloadOrigin.asStr)] ++
  message.readings.toList.map fun readings => (16, readings.value)

def ConnectorOutboundMessage.pairs : ConnectorOutboundMessage → Fields
  | .actualState message => message.pairs
  | .appData message => message.pairs

def ConnectorOutboundMessage.encode (message : ConnectorOutboundMessage) : Bytes := cborEncodeMap message.pairs

structure NodeEscrowRecord where
  keyHint : BitVec 16
  encryptedPsk : Bytes
  masterKeyId : Bytes

abbrev EscrowFields := Option Bytes × Option (BitVec 16) × Option Bytes

-- Step 4a of `handle_wake_core`.
def storedEscrow : Option NodeEscrowRecord → EscrowFields
  | none => (none, none, none)
  | some escrow =>
    if escrow.masterKeyId = [] then (none, none, none)
    else (some escrow.encryptedPsk, some escrow.keyHint, some escrow.masterKeyId)

def checkedEscrow : EscrowFields → EscrowFields
  | (some blob, some keyHint, some keyId) =>
    if blob.length ≠ 60 ∨ keyId.length ≠ 32 then (none, none, none) else (some blob, some keyHint, some keyId)
  | _ => (none, none, none)

def emitActualStateForNodeWithEscrow (nodeId currentProgramHash : Bytes) (assignedProgramHash : Option Bytes)
    (scheduleIntervalS batteryMv firmwareAbiVersion : Nat) (firmwareVersion : Bytes) (timestampMs : BitVec 64)
    (escrow : EscrowFields) (wakeRssiDbm : Option (BitVec 8)) : ConnectorOutboundMessage :=
  let escrow := checkedEscrow escrow
  .actualState {
    entityKind := stringBytes "node"
    entityId := nodeId
    currentProgramHash := some currentProgramHash
    assignedProgramHash := assignedProgramHash
    scheduleIntervalS := some scheduleIntervalS
    batteryMv := some batteryMv
    firmwareAbiVersion := some firmwareAbiVersion
    firmwareVersion := some firmwareVersion
    timestampMs := timestampMs
    encryptedPskEscrow := escrow.1
    escrowKeyHint := escrow.2.1
    masterKeyId := escrow.2.2
    wakeRssiDbm := wakeRssiDbm }

def wakeActualState (node : NodeRecord) (wake : WakeFields) (timestampMs : BitVec 64) (escrow : Option NodeEscrowRecord)
    (rssi : Option (BitVec 8)) : ConnectorOutboundMessage :=
  emitActualStateForNodeWithEscrow (stringBytes node.nodeId) wake.programHash node.assignedProgramHash
    node.scheduleIntervalS wake.batteryMv wake.firmwareAbiVersion wake.firmwareVersion timestampMs (storedEscrow escrow)
    rssi

def wakeMessages (node : NodeRecord) (wake : WakeFields) (timestampMs : BitVec 64) (escrow : Option NodeEscrowRecord)
    (rssi : Option (BitVec 8)) (readings : Option ReadingMap) : List ConnectorOutboundMessage :=
  wakeActualState node wake timestampMs escrow rssi ::
    match wake.blob with
    | none => []
    | some data =>
      if data = [] ∨ wake.programHash = [] then []
      else [.appData ⟨stringBytes node.nodeId, wake.programHash, data, timestampMs, .wakeBlob, readings⟩]

def appDataMessages (node : NodeRecord) (blob : Bytes) (timestampMs : BitVec 64) (readings : Option ReadingMap) :
    List ConnectorOutboundMessage :=
  node.currentProgramHash.toList.map fun programHash =>
    .appData ⟨stringBytes node.nodeId, programHash, blob, timestampMs, .appData, readings⟩

def frameMessages (node : NodeRecord) (message : NodeMessage) (timestampMs : BitVec 64) (escrow : Option NodeEscrowRecord)
    (rssi : Option (BitVec 8)) (readings : Option ReadingMap) : List ConnectorOutboundMessage :=
  match message with
  | .wake firmwareAbiVersion programHash batteryMv firmwareVersion blob =>
    wakeMessages node ⟨firmwareAbiVersion, programHash, batteryMv, firmwareVersion, blob⟩ timestampMs escrow rssi readings
  | .appData blob => appDataMessages node blob timestampMs readings
  | _ => []

def decodeMap (reader : Cbor.Reader) (bytes : Bytes) : Except String DesiredState :=
  match reader.fromReader bytes with
  | .error e => .error s!"failed to decode connector CBOR: {e}"
  | .ok (.map entries) => .ok entries
  | .ok _ => .error "connector payload must be a CBOR map"

def required {α : Type} (view : Cbor → Option α) (kind : String) (map : DesiredState) (key : Nat) (field : String) :
    Except String α :=
  match mapGet map key with
  | none => .error s!"missing `{field}`"
  | some value =>
    match view value with
    | some a => .ok a
    | none => .error s!"`{field}` must be {kind}"

def requiredU64 : DesiredState → Nat → String → Except String Nat := required asU64 "uint"

def requiredText : DesiredState → Nat → String → Except String Bytes := required asText "text"

def requiredMap : DesiredState → Nat → String → Except String DesiredState := required asMap "a map"

inductive InboundMessage where
  | gateway (entityId : Bytes) (desiredState : DesiredState)
  | node (entityId : Bytes) (desiredState : DesiredState)

-- `handle_inbound_message` up to the call that applies the desired state.
def readInboundMessage (reader : Cbor.Reader) (bytes : Bytes) : Except String InboundMessage := do
  let map ← decodeMap reader bytes
  let msgType ← requiredU64 map 1 "msg_type"
  if msgType = msgTypeDesiredState then
    let entityKind ← requiredText map 2 "entity_kind"
    let entityId ← requiredText map 3 "entity_id"
    let desiredState ← requiredMap map 4 "desired_state"
    if entityKind = stringBytes "gateway" then .ok (.gateway entityId desiredState)
    else if entityKind = stringBytes "node" then .ok (.node entityId desiredState)
    else
      let other := textString entityKind
      .error s!"unknown entity_kind `{other}`"
  else
    let hex := String.ofList (Nat.toDigits 16 msgType)
    .error s!"unsupported inbound connector msg_type `0x{hex}`"

end Sonde.Engine
