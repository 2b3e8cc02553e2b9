import Mathlib
import Sonde.Lib.Program
import Sonde.Protocol.BoardLayout
import Sonde.Protocol.Frame

/-!
# Provisioning a node from the phone

The second phase of pairing: the phone draws the node's key, seals the pairing request for the gateway, and gives both to
the node over BLE.
-/

namespace Sonde.Phone
open Lib Protocol Board Program

structure Text where
  utf8 : Bytes
  valid : Cbor.isUtf8 utf8 = true
  deriving Repr

inductive NodeAckStatus where
  | success
  | alreadyPaired
  | storageError
  | unknown (byte : BitVec 8)
  deriving DecidableEq, Repr

def NodeAckStatus.fromByte (byte : BitVec 8) : NodeAckStatus :=
  if byte = 0x00 then .success else if byte = 0x01 then .alreadyPaired else if byte = 0x02 then .storageError else .unknown byte

-- The errors of `provision_node`; those of the radio stack come with their text.
inductive PairingError where
  | invalidNodeId (reason : String)
  | invalidBoardLayout (reason : String)
  | rngFailed
  | timestampUnavailable
  | encryptionFailed (reason : String)
  | mtuTooLow (negotiated required : Nat)
  | payloadTooLarge (size max : Nat)
  | transport (reason : String)
  | invalidResponse (msgType : BitVec 8) (reason : String)
  | nodeErrorResponse (status : BitVec 8) (message : Bytes)
  | nodeProvisionFailed (status : NodeAckStatus)
  deriving DecidableEq, Repr

def chars (utf8 : Bytes) : List Bytes := utf8.splitBy fun _ byte => Cbor.within 0x80 0xbf byte

-- The characters with the property White_Space.
def whitespace : List Bytes :=
  [[0x09], [0x0a], [0x0b], [0x0c], [0x0d], [0x20], [0xc2, 0x85], [0xc2, 0xa0], [0xe1, 0x9a, 0x80], [0xe2, 0x80, 0x80],
    [0xe2, 0x80, 0x81], [0xe2, 0x80, 0x82], [0xe2, 0x80, 0x83], [0xe2, 0x80, 0x84], [0xe2, 0x80, 0x85], [0xe2, 0x80, 0x86],
    [0xe2, 0x80, 0x87], [0xe2, 0x80, 0x88], [0xe2, 0x80, 0x89], [0xe2, 0x80, 0x8a], [0xe2, 0x80, 0xa8], [0xe2, 0x80, 0xa9],
    [0xe2, 0x80, 0xaf], [0xe2, 0x81, 0x9f], [0xe3, 0x80, 0x80]]

def trim (utf8 : Bytes) : Bytes :=
  (((chars utf8).dropWhile (whitespace.contains ·)).rdropWhile (whitespace.contains ·)).flatten

def validateNodeId (id : Text) : Except PairingError Unit :=
  let trimmed := trim id.utf8
  if trimmed = [] then .error (.invalidNodeId "node ID must not be empty")
  else if trimmed.length > 64 then
    .error (.invalidNodeId ("node ID must be at most 64 bytes, got " ++ toString trimmed.length))
  else .ok ()

def validateSupportedBatteryAdc (layout : Layout) : Except PairingError Unit :=
  match layout.batteryAdc with
  | none => .ok ()
  | some pin =>
    if pin ≤ 4 then .ok ()
    else .error (.invalidBoardLayout ("battery_adc GPIO " ++ toString pin ++
      " is not ADC-capable on ESP32-C3; use GPIO 0-4 or leave it unassigned"))

def validateBoardLayout : Option Layout → Except PairingError Unit
  | none => .ok ()
  | some layout => do
    layout.validate.mapError .invalidBoardLayout
    validateSupportedBatteryAdc layout

structure SensorDescriptor where
  sensorType : BitVec 8
  sensorId : BitVec 8
  label : Option Text
  deriving Repr

structure PairingArtifacts where
  phonePsk : Bytes32
  rfChannel : BitVec 8

structure Draws where
  nodePsk : Option Bytes32
  innerNonce : Option (BitVec 96)
  frameNonce : Option (BitVec 64)
  unixS : Option Nat

def SensorDescriptor.pairs (sensor : SensorDescriptor) : Fields :=
  [(1, .unsigned sensor.sensorType.toNat), (2, .unsigned sensor.sensorId.toNat)] ++
    (sensor.label.map fun label => (3, Cbor.text label.utf8)).toList

def SensorDescriptor.value (sensor : SensorDescriptor) : Cbor := .map (sensor.pairs.map fun (k, v) => (.unsigned k, v))

def computeKeyHint : Provider → Bytes32 → BitVec 16 := keyHintFromPsk

def pairingPairs (provider : Provider) (nodeId : Text) (nodePsk : Bytes32) (rfChannel : BitVec 8)
    (sensors : List SensorDescriptor) (timestamp : Nat) : Fields :=
  [(1, .text nodeId.utf8), (2, .unsigned (computeKeyHint provider nodePsk).toNat), (3, .bytes (pskBytes nodePsk)),
    (4, .unsigned rfChannel.toNat), (5, .array (sensors.map (·.value))), (6, .unsigned timestamp)]

def encodePairingRequest (provider : Provider) (nodeId : Text) (nodePsk : Bytes32) (rfChannel : BitVec 8)
    (sensors : List SensorDescriptor) (timestamp : Nat) : Bytes :=
  cborEncodeMap (pairingPairs provider nodeId nodePsk rfChannel sensors timestamp)

def pairingRequestAad : Bytes := "sonde-pairing-v2".toList.map fun c => BitVec.ofNat 8 c.toNat
def peerReqKeyPayload : Nat := 1

def drawn {α : Type} : Option α → Except PairingError α
  | some a => .ok a
  | none => .error .rngFailed

def innerPayload (provider : Provider) (phonePsk : Bytes32) (innerNonce : BitVec 96) (pairingRequestCbor : Bytes) : Bytes :=
  let nonce := toBigEndian 12 innerNonce.toNat
  nonce ++ provider.encrypt phonePsk nonce pairingRequestAad pairingRequestCbor

def encryptPairingRequest (provider : Provider) (draws : Draws) (phonePsk : Bytes32) (pairingRequestCbor : Bytes) :
    Except PairingError Bytes := do
  let innerNonce ← drawn draws.innerNonce
  let encryptedPayload := innerPayload provider phonePsk innerNonce pairingRequestCbor
  let cborBuf := cborEncodeMap [(peerReqKeyPayload, .bytes encryptedPayload)]
  let frameNonce ← drawn draws.frameNonce
  let header : FrameHeader := ⟨keyHintFromPsk provider phonePsk, msgPeerRequest, frameNonce⟩
  (encodeFrame provider header cborBuf phonePsk).mapError fun _ => .encryptionFailed "frame encode failed"

def hexByte (byte : BitVec 8) : String :=
  "0x" ++ String.ofList [Nat.digitChar (byte.toNat / 16), Nat.digitChar (byte.toNat % 16)]

def buildEnvelope : BitVec 8 → Bytes → Option Bytes := encodeBleEnvelope

def parseEnvelope (data : Bytes) : Except PairingError (BitVec 8 × Bytes) :=
  if data.length < 3 then
    .error (.invalidResponse (data.headD 0) "envelope too short (need at least 3 bytes)")
  else
    let msgType := data.headD 0
    let len := ofBigEndian ((data.drop 1).take 2)
    if data.length ≠ 3 + len then
      .error (.invalidResponse msgType ("envelope length field says " ++ toString len ++ " but body is " ++
        toString (data.length - 3) ++ " bytes"))
    else .ok (msgType, data.drop 3)

def parseNodeAck (payload : Bytes) : Except PairingError (BitVec 8) :=
  match payload with
  | [status] => .ok status
  | _ => .error (.invalidResponse 0x81 ("expected 1 byte, got " ++ toString payload.length))

def parseErrorBody (payload : Bytes) : BitVec 8 × Bytes := (payload.headD 0, payload.tail)

def nodeProvision : BitVec 8 := 0x01
def nodeAck : BitVec 8 := 0x81
def msgError : BitVec 8 := 0xff
def bleMtuMin : Nat := 247
def peerPayloadMaxLen : Nat := 202

structure BleTransport (σ : Type) where
  connect : Program σ PairingError Nat
  writeCharacteristic : Bytes → Program σ PairingError Unit
  readIndication : Program σ PairingError Bytes
  disconnect : σ → σ

section
variable {σ : Type} (transport : BleTransport σ)

def encodeLayout : Option Layout → Except PairingError Bytes
  | none => .ok []
  | some layout => (encodeBoardLayoutCbor layout).mapError .invalidBoardLayout

def provisionPayload (nodeKeyHint : BitVec 16) (nodePsk : Bytes32) (rfChannel : BitVec 8) (encryptedFrame layoutCbor : Bytes) :
    Bytes :=
  toBigEndian 2 nodeKeyHint.toNat ++ pskBytes nodePsk ++ rfChannel :: toBigEndian 2 encryptedFrame.length ++
    encryptedFrame ++ layoutCbor

def provisionMessage (nodeKeyHint : BitVec 16) (nodePsk : Bytes32) (rfChannel : BitVec 8) (encryptedFrame : Bytes)
    (boardLayout : Option Layout) : Except PairingError Bytes :=
  if encryptedFrame.length > peerPayloadMaxLen then .error (.payloadTooLarge encryptedFrame.length peerPayloadMaxLen)
  else do
    let layoutCbor ← encodeLayout boardLayout
    let payload := provisionPayload nodeKeyHint nodePsk rfChannel encryptedFrame layoutCbor
    match buildEnvelope nodeProvision payload with
    | some message => .ok message
    | none => .error (.payloadTooLarge payload.length (2 ^ 16 - 1))

def readAck (response : Bytes) : Except PairingError NodeAckStatus := do
  let (msgType, payload) ← parseEnvelope response
  if msgType = msgError then
    let (status, message) := parseErrorBody payload
    .error (.nodeErrorResponse status message)
  else if msgType ≠ nodeAck then
    .error (.invalidResponse msgType ("expected NODE_ACK (" ++ hexByte nodeAck ++ "), got " ++ hexByte msgType))
  else do
    let statusByte ← parseNodeAck payload
    match NodeAckStatus.fromByte statusByte with
    | .success => .ok .success
    | status => .error (.nodeProvisionFailed status)

def doProvisionNode (nodeKeyHint : BitVec 16) (nodePsk : Bytes32) (rfChannel : BitVec 8) (encryptedFrame : Bytes)
    (boardLayout : Option Layout) : Program σ PairingError NodeAckStatus := do
  let message ← ofExcept (provisionMessage nodeKeyHint nodePsk rfChannel encryptedFrame boardLayout)
  transport.writeCharacteristic message
  let response ← transport.readIndication
  ofExcept (readAck response)

def sealRequest (provider : Provider) (artifacts : PairingArtifacts) (draws : Draws) (nodeId : Text)
    (sensors : List SensorDescriptor) (boardLayout : Option Layout) : Except PairingError (Bytes32 × Bytes) := do
  validateNodeId nodeId
  validateBoardLayout boardLayout
  let nodePsk ← drawn draws.nodePsk
  match draws.unixS.filter (· < 2 ^ 63) with
  | none => .error .timestampUnavailable
  | some timestamp => do
    let cbor := encodePairingRequest provider nodeId nodePsk artifacts.rfChannel sensors timestamp
    let encryptedFrame ← encryptPairingRequest provider draws artifacts.phonePsk cbor
    return (nodePsk, encryptedFrame)

def provisionNode (provider : Provider) (artifacts : PairingArtifacts) (draws : Draws) (nodeId : Text)
    (sensors : List SensorDescriptor) (boardLayout : Option Layout) : Program σ PairingError NodeAckStatus := do
  let (nodePsk, encryptedFrame) ← ofExcept (sealRequest provider artifacts draws nodeId sensors boardLayout)
  let mtu ← transport.connect
  if mtu < bleMtuMin then do
    update transport.disconnect
    stop (.mtuTooLow mtu bleMtuMin)
  else do
    let result ← attempt (doProvisionNode transport (computeKeyHint provider nodePsk) nodePsk artifacts.rfChannel
      encryptedFrame boardLayout)
    update transport.disconnect
    ofExcept result

end

end Sonde.Phone
