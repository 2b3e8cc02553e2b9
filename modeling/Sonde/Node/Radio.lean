import Sonde.Lib.Program
import Sonde.Protocol.Frame
import Sonde.Protocol.Chunk

/-!
# The node's radio exchanges

The world outside the node is a state of some type `τ`: a call to the transport or to the clock may change it. A wait
that the source ends by the clock is also ended here after `Link.patience` frames.
-/

namespace Sonde.Node
open Lib Protocol Program

inductive NodeError where
  | authFailure
  | responseBindingMismatch
  | unexpectedMsgType (msgType : BitVec 8)
  | malformedPayload (reason : String)
  | transport (reason : String)
  | programHashMismatch
  | programDecodeFailed (reason : String)
  | mapBudgetExceeded (required available : Nat)
  | mapKeyOutOfBounds (key maxEntries : Nat)
  | mapValueSizeMismatch (expected actual : Nat)
  | chunkTransferFailed (chunkIndex : Nat)
  | wakeRetriesExhausted
  | timeout
  | storageError (reason : String)
  | chunkIndexMismatch (expected received : Nat)
  deriving DecidableEq, Repr

structure NodeIdentity where
  keyHint : BitVec 16
  psk : Bytes32
  deriving DecidableEq, Repr

structure Transport (τ : Type) where
  send : Bytes → τ → Except NodeError Unit × τ
  recv : Nat → τ → Except NodeError (Option Bytes) × τ

structure Clock (τ : Type) where
  elapsedMs : τ → Nat × τ
  delayMs : Nat → τ → τ
  delayUs : Nat → τ → τ

structure Link (τ : Type) extends Transport τ, Clock τ where
  patience : Nat

structure Passed where
  header : FrameHeader
  payload : Bytes
  accepted : Bool

structure Radio (τ : Type) where
  world : τ
  currentSeq : BitVec 64
  startingSeq : Option (BitVec 64)
  passed : List Passed

abbrev Exchange (τ α : Type) := Program (Radio τ) NodeError α

def maxRetries : Nat := 3
def retryDelayMs : Nat := 400
def responseTimeoutMs : Nat := 200
def peerAckTimeoutMs : Nat := 10000
def firmwareAbiVersion : Nat := 2
-- `0.8.0`
def firmwareVersion : Bytes := [0x30, 0x2e, 0x38, 0x2e, 0x30]
def peerAckKeyStatus : Nat := 1
def peerAckStatusOk : Nat := 0

def saturatingAdd (a b : Nat) : Nat := min (a + b) (2 ^ 64 - 1)

section
variable {τ : Type} (link : Link τ)

def transmit (header : FrameHeader) (payload frame : Bytes) : Exchange τ Unit := fun radio =>
  let (result, world) := link.send frame radio.world
  (result, { radio with world := world, passed := ⟨header, payload, result.isOk⟩ :: radio.passed })

def receive (timeoutMs : Nat) : Exchange τ (Option Bytes) := fun radio =>
  let (result, world) := link.recv timeoutMs radio.world
  (result, { radio with world := world })

def elapsedMs : Exchange τ Nat := fun radio =>
  let (now, world) := link.elapsedMs radio.world
  (.ok now, { radio with world := world })

def delayMs (ms : Nat) : Exchange τ Unit := update fun radio => { radio with world := link.delayMs ms radio.world }

end

section
variable {τ : Type} (link : Link τ) (provider : Provider) (reader : Cbor.Reader) (identity : NodeIdentity)

def openReceived (failure : String) (raw : Bytes) : Except NodeError (FrameHeader × Bytes) :=
  match decodeFrame raw with
  | .error _ => .error (.malformedPayload failure)
  | .ok decoded =>
    match openFrame provider decoded identity.psk with
    | .error _ => .error .authFailure
    | .ok payload => .ok (decoded.header, payload)

def decodeVerifyFrame (raw : Bytes) : Except NodeError (FrameHeader × Bytes) :=
  openReceived provider identity "frame decode failed" raw

def sendFrame (msgType : BitVec 8) (nonce : BitVec 64) (payload : Bytes) : Exchange τ Unit := do
  let header : FrameHeader := ⟨identity.keyHint, msgType, nonce⟩
  match encodeFrame provider header payload identity.psk with
  | .error _ => stop (.malformedPayload "frame encode failed")
  | .ok frame => transmit link header payload frame

-- A message of the session: `current_seq` is its nonce and advances once the transport has taken the frame.
def sendInSequence (message : NodeMessage) : Exchange τ (BitVec 64) := do
  let seq ← read Radio.currentSeq
  sendFrame link provider identity message.msgType seq message.encode
  update fun radio => { radio with currentSeq := radio.currentSeq + 1 }
  return seq

structure Command where
  startingSeq : BitVec 64
  timestampMs : BitVec 64
  payload : CommandPayload
  blob : Option Bytes
  deriving DecidableEq, Repr

-- The last of several entries for a key counts, also when its value is not a `u64`.
def lastU64 (key : Nat) (entries : List (Cbor × Cbor)) : Option Nat :=
  entries.foldl (fun found entry => if asU64 entry.1 = some key then asU64 entry.2 else found) none

def decodeCommandAsNop (payload : Bytes) : Except NodeError Command :=
  match reader.fromReader payload with
  | .error _ => .error (.malformedPayload "CBOR decode failed")
  | .ok (.map entries) =>
    match lastU64 keyStartingSeq entries with
    | none => .error (.malformedPayload "missing starting_seq in unknown command")
    | some startingSeq =>
      match lastU64 keyTimestampMs entries with
      | none => .error (.malformedPayload "missing timestamp_ms in unknown command")
      | some timestampMs => .ok ⟨BitVec.ofNat 64 startingSeq, BitVec.ofNat 64 timestampMs, .nop, none⟩
  | .ok _ => .error (.malformedPayload "expected CBOR map")

def verifyAndDecodeCommand (raw : Bytes) (expectedNonce : BitVec 64) : Except NodeError Command := do
  let (header, payload) ← decodeVerifyFrame provider identity raw
  if header.msgType ≠ msgCommand then .error (.unexpectedMsgType header.msgType)
  else if header.nonce ≠ expectedNonce then .error .responseBindingMismatch
  else
    match GatewayMessage.decode reader header.msgType payload with
    | .error (.invalidCommandType _) => decodeCommandAsNop reader payload
    | .error _ => .error (.malformedPayload "COMMAND payload decode failed")
    | .ok (.command startingSeq timestampMs payload blob) => .ok ⟨startingSeq, timestampMs, payload, blob⟩
    | .ok _ => .error (.unexpectedMsgType header.msgType)

def wakeAttempts (nonce : BitVec 64) (payload : Bytes) : Nat → Exchange τ Command
  | 0 => stop .wakeRetriesExhausted
  | left + 1 => do
    onlyIf (left < maxRetries) (delayMs link retryDelayMs)
    sendFrame link provider identity msgWake nonce payload
    let response ← receive link responseTimeoutMs
    match response with
    | none => wakeAttempts nonce payload left
    | some raw =>
      match verifyAndDecodeCommand provider reader identity raw nonce with
      | .ok command => return command
      | .error _ => wakeAttempts nonce payload left

def wakeMessage (programHash : Bytes) (batteryMv : Nat) (blob : Option Bytes) : NodeMessage :=
  .wake firmwareAbiVersion programHash batteryMv firmwareVersion blob

def wakeCommandExchange (wakeNonce : BitVec 64) (programHash : Bytes) (batteryMv : Nat) (wakeBlob : Option Bytes) :
    Exchange τ Command :=
  wakeAttempts link provider reader identity wakeNonce (wakeMessage programHash batteryMv wakeBlob).encode (maxRetries + 1)

def checkBlob (blob : Bytes) : Except NodeError Unit :=
  if blob.length > maxPayloadSize then .error (.malformedPayload "APP_DATA blob exceeds frame payload budget")
  else if (NodeMessage.appData blob).encode.length > maxPayloadSize then
    .error (.malformedPayload "APP_DATA payload exceeds frame payload budget")
  else .ok ()

def sendAppData (blob : Bytes) : Exchange τ Unit := do
  ofExcept (checkBlob blob)
  let _ ← sendInSequence link provider identity (.appData blob)
  return ()

def appDataReply (raw : Bytes) (seq : BitVec 64) : Option Bytes :=
  match decodeVerifyFrame provider identity raw with
  | .error _ => none
  | .ok (header, payload) =>
    if header.msgType ≠ msgAppDataReply then none
    else if header.nonce ≠ seq then none
    else
      match GatewayMessage.decode reader header.msgType payload with
      | .ok (.appDataReply blob) => some blob
      | _ => none

def awaitReply (deadline : Nat) (seq : BitVec 64) : Nat → Exchange τ Bytes
  | 0 => stop .timeout
  | patience + 1 => do
    let now ← elapsedMs link
    if now ≥ deadline then stop .timeout
    else do
      let response ← receive link (deadline - now)
      match response with
      | none => stop .timeout
      | some raw =>
        match appDataReply provider reader identity raw seq with
        | some blob => return blob
        | none => awaitReply deadline seq patience

def sendRecvAppData (blob : Bytes) (timeoutMs : Nat) : Exchange τ Bytes := do
  ofExcept (checkBlob blob)
  let seq ← sendInSequence link provider identity (.appData blob)
  let now ← elapsedMs link
  awaitReply link provider reader identity (saturatingAdd now timeoutMs) seq link.patience

def sendProgramAck (programHash : Bytes) : Exchange τ Unit := do
  let _ ← sendInSequence link provider identity (.programAck programHash)
  return ()

def verifyAndDecodeChunk (raw : Bytes) (expectedSeq : BitVec 64) (expectedIndex : Nat) : Except NodeError Bytes := do
  let (header, payload) ← decodeVerifyFrame provider identity raw
  if header.msgType ≠ msgChunk then .error (.unexpectedMsgType header.msgType)
  else if header.nonce ≠ expectedSeq then .error .responseBindingMismatch
  else
    match GatewayMessage.decode reader header.msgType payload with
    | .error _ => .error (.malformedPayload "CHUNK payload decode failed")
    | .ok (.chunk chunkIndex chunkData) =>
      if chunkIndex ≠ expectedIndex then .error (.chunkIndexMismatch expectedIndex chunkIndex) else .ok chunkData
    | .ok _ => .error (.unexpectedMsgType header.msgType)

-- The inner loop; `none` is its `break`.
def awaitChunk (deadline : Nat) (seq : BitVec 64) (chunkIndex : Nat) : Nat → Exchange τ (Option Bytes)
  | 0 => return none
  | patience + 1 => do
    let now ← elapsedMs link
    if now ≥ deadline then return none
    else do
      let response ← receive link (deadline - now)
      match response with
      | none => return none
      | some raw =>
        match verifyAndDecodeChunk provider reader identity raw seq chunkIndex with
        | .ok data => return some data
        -- A frame of another exchange does not use up the attempt.
        | .error (.unexpectedMsgType _) => awaitChunk deadline seq chunkIndex patience
        | .error _ => return none

def chunkAttempts (chunkIndex : Nat) : Nat → Exchange τ Bytes
  | 0 => stop (.chunkTransferFailed chunkIndex)
  | left + 1 => do
    onlyIf (left < maxRetries) (delayMs link retryDelayMs)
    let seq ← sendInSequence link provider identity (.getChunk chunkIndex)
    let now ← elapsedMs link
    let response ← awaitChunk link provider reader identity (saturatingAdd now responseTimeoutMs) seq chunkIndex
      link.patience
    match response with
    | some data => return data
    | none => chunkAttempts chunkIndex left

def getChunkWithRetry (chunkIndex : Nat) : Exchange τ Bytes :=
  chunkAttempts link provider reader identity chunkIndex (maxRetries + 1)

def receiveChunks (programSize chunkSize : Nat) (ci : Nat) (image : Bytes) : Nat → Exchange τ Bytes
  | 0 =>
    if image.length ≠ programSize then
      stop (.malformedPayload "assembled program size does not match declared program_size")
    else return image
  | left + 1 => do
    let chunkData ← getChunkWithRetry link provider reader identity ci
    if chunkData.length > chunkSize then
      stop (.malformedPayload "received chunk larger than declared chunk_size")
    else if image.length + chunkData.length > programSize then
      stop (.malformedPayload "received data exceeds declared program_size")
    else receiveChunks programSize chunkSize (ci + 1) (image ++ chunkData) left

def chunkedTransfer (programSize chunkSize count maxImageSize : Nat) : Exchange τ Bytes :=
  if programSize > maxImageSize then stop (.malformedPayload "program_size exceeds maximum image size")
  else if chunkSize = 0 then stop (.malformedPayload "chunk_size is zero")
  else if chunkCount programSize chunkSize ≠ some count then
    stop (.malformedPayload "chunk_count does not match program_size / chunk_size")
  else receiveChunks link provider reader identity programSize chunkSize 0 [] count

def buildPeerRequestFrame (completeFrame : Bytes) : Except NodeError DecodedFrame :=
  match decodeFrame completeFrame with
  | .error _ => .error (.malformedPayload "PEER_REQUEST frame is not a valid AEAD frame")
  | .ok decoded =>
    if decoded.header.msgType ≠ msgPeerRequest then .error (.unexpectedMsgType decoded.header.msgType)
    else .ok decoded

def verifyPeerAck (raw : Bytes) (expectedNonce : BitVec 64) : Except NodeError Unit := do
  let (header, payload) ← openReceived provider identity "PEER_ACK decode failed" raw
  if header.msgType ≠ msgPeerAck then .error (.unexpectedMsgType header.msgType)
  else if header.nonce ≠ expectedNonce then .error .responseBindingMismatch
  else
    match reader.fromReader payload with
    | .error _ => .error (.malformedPayload "PEER_ACK CBOR decode failed")
    | .ok (.map entries) =>
      if entries.any fun entry => (asU64 entry.1).isNone then .error (.malformedPayload "PEER_ACK non-integer key")
      else
        match lastU64 peerAckKeyStatus entries with
        | none => .error (.malformedPayload "PEER_ACK missing status field")
        | some status =>
          if status ≠ peerAckStatusOk then .error (.malformedPayload "PEER_ACK status is not registered") else .ok ()
    | .ok _ => .error (.malformedPayload "PEER_ACK payload is not a map")

def awaitPeerAck (startMs : Nat) (nonce : BitVec 64) : Nat → Exchange τ Bool
  | 0 => return false
  | patience + 1 => do
    let now ← elapsedMs link
    let elapsed := now - startMs
    if elapsed ≥ peerAckTimeoutMs then return false
    else do
      let response ← receive link (min (peerAckTimeoutMs - elapsed) 500)
      match response with
      | none => awaitPeerAck startMs nonce patience
      | some raw =>
        match verifyPeerAck provider reader identity raw nonce with
        | .ok () => return true
        | .error _ => awaitPeerAck startMs nonce patience

-- The caller stores `reg_complete` when the answer is `true`.
def peerRequestExchange (completeFrame : Bytes) : Exchange τ Bool := do
  let decoded ← ofExcept (buildPeerRequestFrame completeFrame)
  transmit link decoded.header decoded.ciphertextAndTag completeFrame
  let startMs ← elapsedMs link
  awaitPeerAck link provider reader identity startMs decoded.header.nonce link.patience

end

end Sonde.Node
