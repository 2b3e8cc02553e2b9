import Sonde.Gateway.Pairing
import Sonde.Gateway.Session
import Sonde.Lib.Program
import Sonde.Lib.Table
import Sonde.Protocol.Chunk
import Sonde.Protocol.Frame

namespace Sonde.Engine
open Lib Protocol Sonde.Gateway Program

inductive PendingCommand where
  | runEphemeral (programHash : Bytes)
  | updateSchedule (intervalS : Nat)
  | reboot
  deriving DecidableEq, Repr

inductive ProgramMatcher where
  | hash (programHash : Bytes)
  | any
  deriving DecidableEq, Repr

structure ReadingMap where
  entries : List (Bytes × Int)
  sorted : entries.Pairwise fun a b => a.1 < b.1
  utf8 : ∀ entry ∈ entries, Cbor.isUtf8 entry.1 = true
  range : ∀ entry ∈ entries, -2 ^ 63 ≤ entry.2 ∧ entry.2 < 2 ^ 63

inductive HandlerMessage where
  | data (requestId : BitVec 64) (nodeId : String) (programHash data : Bytes) (timestamp : Nat)
      (readings : Option ReadingMap)
  | event (nodeId eventType : String) (details : List (String × Cbor)) (timestamp : Nat)

/-- A row of `pending_recovery`, with what `decrypt_psk_with_master_key` makes of its escrowed key. -/
structure PendingRecoveryRecord where
  keyHint : BitVec 16
  nodeId : String
  masterKeyId : Bytes32
  psk : Option Bytes32

-- The task `handle_wake_core` spawns for a WAKE blob.
structure WakeBlobTask where
  handler : Nat
  message : HandlerMessage
  nodeId : String

structure Sealed where
  psk : Bytes32
  header : FrameHeader
  plaintext : Bytes
  session : Option Nat

inductive ConnectorPayloadOrigin where
  | appData | wakeBlob

structure AppData where
  nodeId : Bytes
  programHash : Bytes
  payload : Bytes
  timestampMs : BitVec 64
  payloadOrigin : ConnectorPayloadOrigin
  readings : Option ReadingMap

/-- The messages that handlers have got, and those of `emit_app_data` to the connector. -/
structure Outputs where
  handlerInputs : List (Nat × HandlerMessage)
  emitted : List AppData

/-- `sealed` and `outputs` record what went out; the source reads neither. -/
structure Gateway where
  nodes : Table String NodeRecord
  phonePsks : List PhonePskRecord
  programs : Bytes → Option ProgramRecord
  sqliteStorage : Bool
  pendingRecovery : List PendingRecoveryRecord
  cachedMasterKeyId : Option Bytes32
  sessionManager : SessionManager
  pendingCommands : String → List PendingCommand
  handlers : List (List ProgramMatcher)
  deferredReplies : String → Option Bytes
  wakeBlobTasks : List WakeBlobTask
  outputs : Outputs
  sealed : List Sealed

structure Libraries where
  provider : Provider
  reader : Cbor.Reader

inductive StorageCall where
  | nodesByKeyHint | phonePsksByKeyHint | insertNode | existingNode | pendingRecovery | promoteNode
  | deletePendingRecovery | ephemeralProgram | assignedProgram | wakeMetadata | reconcile | wakeBlobProgram
  | chunkProgram | confirmProgram | appDataProgram

/-- What one call of `process_frame_with_rssi` meets: the clocks, the random bytes, the modem's metadata, the
handlers' answers, the decoder's readings and the storage calls that fail. -/
structure Inputs where
  unixMs : Option Nat
  instant : Nat
  random : Option (BitVec 64)
  peer : Bytes
  rssi : Option (BitVec 8)
  sendData : Nat → HandlerMessage → Option (Bytes × BitVec 8)
  decoder : Bytes → Bytes → Option ReadingMap
  fault : StorageCall → Bool

variable (lib : Libraries) (inputs : Inputs)

def Inputs.timestampMs : Nat := inputs.unixMs.getD 0

inductive Discarded where
  | discarded

abbrev Processing := Program Gateway Discarded

def discard {α : Type} : Processing α := stop .discarded

def orDiscard {α : Type} : Option α → Processing α
  | some a => pure a
  | none => discard

def guardFault (call : StorageCall) : Processing Unit := if inputs.fault call then discard else pure ()

def findHandler (handlers : List (List ProgramMatcher)) (programHash : Bytes) : Option Nat :=
  match handlers.findIdx? fun matchers => matchers.any (· = .hash programHash) with
  | some i => some i
  | none => handlers.findIdx? fun matchers => matchers.any (· = .any)

def Gateway.tell (g : Gateway) (inputs : List (Nat × HandlerMessage)) : Gateway :=
  { g with outputs := { g.outputs with handlerInputs := g.outputs.handlerInputs ++ inputs } }

-- One byte for each character, which is not UTF-8: it gives the bytes of the text where that is ASCII.
def stringBytes (s : String) : Bytes := s.toList.map fun c => BitVec.ofNat 8 c.toNat

def Gateway.emitAppData (g : Gateway) (inputs : Inputs) (nodeId : String) (programHash payload : Bytes)
    (payloadOrigin : ConnectorPayloadOrigin) (readings : Option ReadingMap) : Gateway :=
  let message : AppData :=
    ⟨stringBytes nodeId, programHash, payload, BitVec.ofNat 64 inputs.timestampMs, payloadOrigin, readings⟩
  { g with outputs := { g.outputs with emitted := g.outputs.emitted ++ [message] } }

def broadcast (message : HandlerMessage) : Processing Unit :=
  update fun g => g.tell ((List.range g.handlers.length).map (·, message))

def decoderReadings (call : StorageCall) (programHash blob : Bytes) (g : Gateway) : Option ReadingMap := do
  let program ← if inputs.fault call then none else g.programs programHash
  let image ← program.decoderImage
  inputs.decoder image blob

def encodeResponse (header : FrameHeader) (cbor : Bytes) (psk : Bytes32) (session : Option Nat) : Processing Bytes :=
  match encodeFrame lib.provider header cbor psk with
  | .error _ => discard
  | .ok frame => do
    update fun g => { g with sealed := ⟨psk, header, cbor, session⟩ :: g.sealed }
    pure frame

def defaultChunkSize : Nat := 128
def maxEphemeralSize : Nat := 2048

def ephemeralHash : PendingCommand → Option Bytes
  | .runEphemeral programHash => some programHash
  | _ => none

def scheduleInterval : PendingCommand → Option Nat
  | .updateSchedule intervalS => some intervalS
  | _ => none

def abiMismatch (program : ProgramRecord) (firmwareAbiVersion : Nat) : Bool :=
  match program.abiVersion with
  | some programAbi => programAbi ≠ firmwareAbiVersion
  | none => false

-- Priority 1. `none` falls through to the lower priorities, with the queue as it then stands.
def selectEphemeral (lookup : Bytes → Option ProgramRecord) (firmwareAbiVersion : Nat) (cmds : List PendingCommand) :
    Option CommandPayload × List PendingCommand :=
  match cmds.findSome? ephemeralHash with
  | none => (none, cmds)
  | some programHash =>
    match lookup programHash with
    | none => (none, cmds)
    | some program =>
      if abiMismatch program firmwareAbiVersion then (none, cmds.eraseP (· = .runEphemeral program.hash))
      else if program.size > maxEphemeralSize then (none, cmds.filter (· ≠ .runEphemeral program.hash))
      else
        match chunkCount program.image.length defaultChunkSize with
        | some count =>
          (some (.runEphemeral program.hash program.size defaultChunkSize count),
            cmds.eraseP (· = .runEphemeral program.hash))
        | none => (none, cmds)

-- Priority 2.
def selectUpdate (lookup : Bytes → Option ProgramRecord) (assigned : Option Bytes) (nodeProgramHash : Bytes)
    (firmwareAbiVersion : Nat) : Option CommandPayload := do
  let assignedHash ← assigned
  if assignedHash = nodeProgramHash then none
  else do
    let program ← lookup assignedHash
    if abiMismatch program firmwareAbiVersion then none
    else do
      let count ← chunkCount program.image.length defaultChunkSize
      some (.updateProgram program.hash program.size defaultChunkSize count)

-- Priorities 3 to 5.
def selectQueued (cmds : List PendingCommand) : CommandPayload × List PendingCommand :=
  match cmds.findSome? scheduleInterval with
  | some intervalS => (.updateSchedule intervalS, cmds.eraseP fun c => (scheduleInterval c).isSome)
  | none =>
    if PendingCommand.reboot ∈ cmds then (.reboot, cmds.eraseP (· = .reboot))
    else (.nop, cmds)

def selectFrom (ephemeral assigned : Bytes → Option ProgramRecord) (assignedHash : Option Bytes)
    (nodeProgramHash : Bytes) (firmwareAbiVersion : Nat) (cmds : List PendingCommand) :
    CommandPayload × List PendingCommand :=
  match selectEphemeral ephemeral firmwareAbiVersion cmds with
  | (some command, cmds) => (command, cmds)
  | (none, cmds) =>
    match selectUpdate assigned assignedHash nodeProgramHash firmwareAbiVersion with
    | some command => (command, cmds)
    | none => selectQueued cmds

-- `get_program` with its failures, which every caller here treats as a missing program.
def visibleProgram (call : StorageCall) (g : Gateway) (programHash : Bytes) : Option ProgramRecord :=
  if inputs.fault call then none else g.programs programHash

def selectCommand (node : NodeRecord) (nodeProgramHash : Bytes) (firmwareAbiVersion : Nat) :
    Processing CommandPayload := fun g =>
  let selected := selectFrom (visibleProgram inputs .ephemeralProgram g) (visibleProgram inputs .assignedProgram g)
    node.assignedProgramHash nodeProgramHash firmwareAbiVersion (g.pendingCommands node.nodeId)
  (.ok selected.1, { g with pendingCommands := Function.update g.pendingCommands node.nodeId selected.2 })

/-! ## WAKE -/

structure WakeFields where
  firmwareAbiVersion : Nat
  programHash : Bytes
  batteryMv : Nat
  firmwareVersion : Bytes
  blob : Option Bytes

def decodeWake (payload : Bytes) : Option WakeFields :=
  match NodeMessage.decode lib.reader msgWake payload with
  | .ok (.wake firmwareAbiVersion programHash batteryMv firmwareVersion blob) =>
    some ⟨firmwareAbiVersion, programHash, batteryMv, firmwareVersion, blob⟩
  | _ => none

-- The `reuse_chunked` branch: a retry of the WAKE that opened the transfer gets the session's own command again.
def retriedCommand (wakeNonce : BitVec 64) (session : Session) : Option (BitVec 64 × CommandPayload) :=
  match session.state with
  | .chunkedTransfer programHash programSize chunkSize chunkCount isEphemeral =>
    if session.wakeNonce = wakeNonce then
      some (session.nextExpectedSeq,
        if isEphemeral then .runEphemeral programHash programSize chunkSize chunkCount
        else .updateProgram programHash programSize chunkSize chunkCount)
    else none
  | _ => none

def modifySessions (f : SessionManager → SessionManager) : Processing Unit :=
  update fun g => { g with sessionManager := f g.sessionManager }

def wakeCommand (node : NodeRecord) (nonce : BitVec 64) (wake : WakeFields) :
    Processing (BitVec 64 × CommandPayload) := do
  let existing ← read fun g => g.sessionManager.getSession node.nodeId
  match existing.bind (retriedCommand nonce) with
  | some retried => pure retried
  | none => do
    let seq ← orDiscard inputs.random
    modifySessions (·.createSession inputs.instant node.nodeId inputs.peer nonce seq)
    let command ← selectCommand inputs node wake.programHash wake.firmwareAbiVersion
    pure (seq, command)

def transferState : CommandPayload → Option SessionState
  | .updateProgram programHash programSize chunkSize chunkCount =>
    some (.chunkedTransfer programHash programSize chunkSize chunkCount false)
  | .runEphemeral programHash programSize chunkSize chunkCount =>
    some (.chunkedTransfer programHash programSize chunkSize chunkCount true)
  | _ => none

def enterTransfer (nodeId : String) (command : CommandPayload) : Processing Unit :=
  match transferState command with
  | some state => modifySessions (·.setState nodeId state)
  | none => pure ()

def modifyNode (nodeId : String) (f : NodeRecord → NodeRecord) : Processing Unit :=
  update fun g => { g with nodes := g.nodes.update nodeId f }

def updateNodeWakeMetadata (nodeId : String) (wake : WakeFields) : Processing Unit :=
  onlyIf (inputs.fault .wakeMetadata = false) (modifyNode nodeId fun record =>
    { record with
      firmwareAbiVersion := some wake.firmwareAbiVersion
      firmwareVersion := some (textString wake.firmwareVersion) })

def nodeOnline (nodeId : String) (wake : WakeFields) : HandlerMessage :=
  .event nodeId "node_online"
    [("battery_mv", .unsigned wake.batteryMv), ("firmware_abi_version", .unsigned wake.firmwareAbiVersion),
      ("firmware_version", .text wake.firmwareVersion)]
    (inputs.timestampMs / 1000)

def reconcileCurrentProgramHash (programHash : Bytes) (record : NodeRecord) : NodeRecord :=
  if record.assignedProgramHash = some programHash then { record with currentProgramHash := some programHash }
  else record

-- A lost PROGRAM_ACK: the node already runs what it was assigned.
def reconcile (node : NodeRecord) (programHash : Bytes) : Processing Unit :=
  onlyIf (node.assignedProgramHash = some programHash ∧ node.currentProgramHash ≠ some programHash ∧
      inputs.fault .reconcile = false)
    (modifyNode node.nodeId (reconcileCurrentProgramHash programHash))

def routeWakeBlob (nodeId : String) (nonce : BitVec 64) (wake : WakeFields) : Processing Unit :=
  update fun g =>
    match wake.blob with
    | none => g
    | some data =>
      if data = [] ∨ wake.programHash = [] then g
      else
        let readings := decoderReadings inputs .wakeBlobProgram wake.programHash data g
        let emitted := g.emitAppData inputs nodeId wake.programHash data .wakeBlob readings
        match findHandler g.handlers wake.programHash with
        | none => emitted
        | some handler =>
          let message := .data nonce nodeId wake.programHash data (inputs.timestampMs / 1000) readings
          { emitted with wakeBlobTasks := g.wakeBlobTasks ++ [⟨handler, message, nodeId⟩] }

def handleWakeCore (node : NodeRecord) (header : FrameHeader) (payload : Bytes) :
    Processing (FrameHeader × Bytes × Bool) := do
  let wake ← orDiscard (decodeWake lib payload)
  let (startingSeq, command) ← wakeCommand inputs node header.nonce wake
  enterTransfer node.nodeId command
  updateNodeWakeMetadata inputs node.nodeId wake
  broadcast (nodeOnline inputs node.nodeId wake)
  reconcile inputs node wake.programHash
  let deferred ← read fun g => g.deferredReplies node.nodeId
  let blob := if command = .nop then deferred else none
  let response := GatewayMessage.command startingSeq (BitVec.ofNat 64 inputs.timestampMs) command blob
  routeWakeBlob inputs node.nodeId header.nonce wake
  pure (⟨node.keyHint, msgCommand, header.nonce⟩, response.encode, blob.isSome)

def handleWake (node : NodeRecord) (header : FrameHeader) (payload : Bytes) : Processing Bytes := do
  let (responseHeader, responseCbor, deferredDelivered) ← handleWakeCore lib inputs node header payload
  let frame ← encodeResponse lib responseHeader responseCbor node.psk none
  onlyIf (deferredDelivered = true)
    (update fun g => { g with deferredReplies := Function.update g.deferredReplies node.nodeId none })
  pure frame

-- The spawned task: the handler's reply waits for the node's next WAKE.
def runWakeBlobTask (task : WakeBlobTask) (g : Gateway) : Gateway :=
  let g := g.tell [(task.handler, task.message)]
  match inputs.sendData task.handler task.message with
  | none => g
  | some (data, _) =>
    if data ≠ [] ∧ data.length ≤ maxCommandBlobSize then
      { g with deferredReplies := Function.update g.deferredReplies task.nodeId (some data) }
    else g

/-! ## After WAKE -/

def handleGetChunkCore (node : NodeRecord) (header : FrameHeader) (chunkIndex : Nat) :
    Processing (FrameHeader × Bytes) := do
  let found ← read fun g => g.sessionManager.getSession node.nodeId
  let session ← orDiscard found
  match session.state with
  | .chunkedTransfer programHash _ chunkSize _ _ => do
    let found ← read fun g => visibleProgram inputs .chunkProgram g programHash
    let program ← orDiscard found
    let chunkData ← orDiscard (getChunk program.image chunkIndex chunkSize)
    pure (⟨node.keyHint, msgChunk, header.nonce⟩, (GatewayMessage.chunk chunkIndex chunkData).encode)
  | _ => discard

def upsertNode (record : NodeRecord) : Processing Unit :=
  update fun g => { g with nodes := g.nodes.insert record.nodeId record }

def programUpdated (nodeId : String) (programHash : Bytes) : HandlerMessage :=
  .event nodeId "program_updated" [("program_hash", .bytes programHash)] (inputs.timestampMs / 1000)

def acknowledges (programHash : Bytes) (session : Session) : Bool :=
  match session.state with
  | .chunkedTransfer expected .. => expected = programHash
  | _ => false

def handleProgramAck (node : NodeRecord) (programHash : Bytes) : Processing Unit := do
  let found ← read fun g => g.sessionManager.getSession node.nodeId
  onlyIf (found.any (acknowledges programHash) = true) do
    onlyIf (inputs.fault .confirmProgram = false) (upsertNode { node with currentProgramHash := some programHash })
    broadcast (programUpdated inputs node.nodeId programHash)
    modifySessions (·.setState node.nodeId .bpfExecuting)

def handleAppDataCore (node : NodeRecord) (header : FrameHeader) (blob : Bytes) : Processing (FrameHeader × Bytes) := do
  let programHash ← orDiscard node.currentProgramHash
  let readings ← read fun g => decoderReadings inputs .appDataProgram programHash blob g
  let found ← read fun g => findHandler g.handlers programHash
  update (·.emitAppData inputs node.nodeId programHash blob .appData readings)
  let handler ← orDiscard found
  let message := HandlerMessage.data header.nonce node.nodeId programHash blob (inputs.timestampMs / 1000) readings
  update (·.tell [(handler, message)])
  let (data, delivery) ← orDiscard (inputs.sendData handler message)
  if data = [] then discard
  else if delivery = 1 then do
    onlyIf (data.length ≤ maxCommandBlobSize)
      (update fun g => { g with deferredReplies := Function.update g.deferredReplies node.nodeId (some data) })
    discard
  else pure (⟨node.keyHint, msgAppDataReply, header.nonce⟩, (GatewayMessage.appDataReply data).encode)

def verifyAndAdvanceSeq (nodeId : String) (receivedSeq : BitVec 64) : Processing Unit := fun g =>
  let (result, sessionManager) := g.sessionManager.verifyAndAdvanceSeq inputs.instant nodeId receivedSeq
  (result.mapError fun _ => .discarded, { g with sessionManager })

-- `number` is the session the answer belongs to.
def answerInSession (node : NodeRecord) (core : Processing (FrameHeader × Bytes)) : Processing Bytes := do
  let (responseHeader, responseCbor) ← core
  let session ← read fun g => g.sessionManager.getSession node.nodeId
  encodeResponse lib responseHeader responseCbor node.psk (session.map (·.number))

def handlePostWake (node : NodeRecord) (header : FrameHeader) (payload : Bytes) : Processing Bytes := do
  let message ← orDiscard (NodeMessage.decode lib.reader header.msgType payload).toOption
  verifyAndAdvanceSeq inputs node.nodeId header.nonce
  match message with
  | .getChunk chunkIndex => answerInSession lib node (handleGetChunkCore inputs node header chunkIndex)
  | .programAck programHash => do
    handleProgramAck inputs node programHash
    discard
  | .appData blob => answerInSession lib node (handleAppDataCore inputs node header blob)
  | _ => discard

def openingPhone (decoded : DecodedFrame) (phones : List PhonePskRecord) : Option (PhonePskRecord × Bytes) :=
  phones.findSome? fun phone =>
    if phone.status = .revoked then none
    else (openFrame lib.provider decoded phone.psk).toOption.map (phone, ·)

def authenticatePhone (decoded : DecodedFrame) : Processing (PhonePskRecord × Bytes) := do
  guardFault inputs .phonePsksByKeyHint
  let phones ← read fun g => g.phonePsks.filter (·.phoneKeyHint = decoded.header.keyHint)
  orDiscard (openingPhone lib decoded phones)

def handleDiagRequest (decoded : DecodedFrame) : Processing Bytes := do
  let (phone, payload) ← authenticatePhone lib inputs decoded
  match NodeMessage.decode lib.reader msgDiagRequest payload with
  | .ok (.diagRequest diagnosticType) =>
    if diagnosticType ≠ diagTypeRssi then discard
    else
      let reply := GatewayMessage.diagReply diagnosticType (inputs.rssi.getD 0)
      encodeResponse lib ⟨decoded.header.keyHint, msgDiagReply, decoded.header.nonce⟩ reply.encode phone.psk none
  | _ => discard

def peerReqKeyPayload : Nat := 1
def peerAckKeyStatus : Nat := 1
def pairingAad : Bytes := "sonde-pairing-v2".toList.map fun c => BitVec.ofNat 8 c.toNat
def maxTimestampDriftS : Nat := 86400

def absDiff (a b : Nat) : Nat := (a - b) + (b - a)

-- The last entry with the key counts, and one that is not bytes clears it.
def encryptedPayload (entries : List (Cbor × Cbor)) : Option Bytes :=
  entries.foldl (fun found entry => if asU64 entry.1 = some peerReqKeyPayload then asBytes entry.2 else found) none

def openPairingRequest (psk : Bytes32) (cborPayload : Bytes) : Option PairingRequestFields := do
  let cbor ← (lib.reader.fromReader cborPayload).toOption
  let entries ← asMap cbor
  let encrypted ← encryptedPayload entries
  if encrypted.length < 12 + 16 then none
  else do
    let plaintext ← lib.provider.decrypt psk (encrypted.take 12) pairingAad (encrypted.drop 12)
    parsePairingRequest lib.reader plaintext

def peerAckCbor : Bytes := (Cbor.map [(.unsigned peerAckKeyStatus, .unsigned 0)]).encode

def registerPeer (record : NodeRecord) : Processing Unit := do
  guardFault inputs .insertNode
  let existing ← read fun g => g.nodes.lookup record.nodeId
  match existing with
  | none => upsertNode record
  | some existing =>
    if inputs.fault .existingNode then discard
    else if existing.psk ≠ record.psk then discard
    else pure ()

def handlePeerRequest (decoded : DecodedFrame) : Processing Bytes := do
  let (phone, cborPayload) ← authenticatePhone lib inputs decoded
  let request ← orDiscard (openPairingRequest lib phone.psk cborPayload)
  let now ← orDiscard inputs.unixMs
  if absDiff (now / 1000) request.timestamp > maxTimestampDriftS then discard
  else if request.nodeKeyHint ≠ keyHintFromPsk lib.provider request.nodePsk then discard
  else do
    let record : NodeRecord :=
      { NodeRecord.new (textString request.nodeId) request.nodeKeyHint request.nodePsk with
        rfChannel := some request.rfChannel
        sensors := request.sensors
        registeredByPhoneId := some phone.phoneId }
    registerPeer inputs record
    encodeResponse lib ⟨record.keyHint, msgPeerAck, decoded.header.nonce⟩ peerAckCbor record.psk none

def maxTrialCandidates : Nat := 8

def openingNode (decoded : DecodedFrame) (candidates : List NodeRecord) : Option (NodeRecord × Bytes) :=
  candidates.findSome? fun candidate => (openFrame lib.provider decoded candidate.psk).toOption.map (candidate, ·)

def recoveryCandidates (decoded : DecodedFrame) (keyId : Bytes32) (g : Gateway) : List NodeRecord :=
  let rows := g.pendingRecovery.filter fun row => row.keyHint = decoded.header.keyHint ∧ row.masterKeyId = keyId
  (rows.take maxTrialCandidates).filterMap fun row => row.psk.map (NodeRecord.new row.nodeId decoded.header.keyHint)

def tryRecoveryAuth (decoded : DecodedFrame) : Processing (NodeRecord × Bytes) := do
  let available ← read fun g => if g.sqliteStorage then g.cachedMasterKeyId else none
  let keyId ← orDiscard available
  guardFault inputs .pendingRecovery
  let candidates ← read (recoveryCandidates decoded keyId)
  let (node, payload) ← orDiscard (openingNode lib decoded candidates)
  guardFault inputs .promoteNode
  upsertNode node
  onlyIf (inputs.fault .deletePendingRecovery = false) (update fun g =>
    { g with
      pendingRecovery := g.pendingRecovery.filter fun row =>
        ¬(row.keyHint = decoded.header.keyHint ∧ row.nodeId = node.nodeId) })
  pure (node, payload)

def nodesByKeyHint (keyHint : BitVec 16) (g : Gateway) : List NodeRecord :=
  (g.nodes.entries.map (·.2)).filter (·.keyHint = keyHint)

def authenticateNode (decoded : DecodedFrame) : Processing (NodeRecord × Bytes) := do
  guardFault inputs .nodesByKeyHint
  let candidates ← read (nodesByKeyHint decoded.header.keyHint)
  if candidates = [] then tryRecoveryAuth lib inputs decoded
  else orDiscard (openingNode lib decoded candidates)

def handleNodeFrame (decoded : DecodedFrame) : Processing Bytes := do
  let (node, payload) ← authenticateNode lib inputs decoded
  if decoded.header.msgType = msgWake then handleWake lib inputs node decoded.header payload
  else if decoded.header.msgType = msgGetChunk ∨ decoded.header.msgType = msgProgramAck ∨
      decoded.header.msgType = msgAppData then handlePostWake lib inputs node decoded.header payload
  else discard

def processFrame (raw : Bytes) : Processing Bytes := do
  let decoded ← orDiscard (decodeFrame raw).toOption
  if decoded.header.msgType = msgPeerRequest then handlePeerRequest lib inputs decoded
  else if decoded.header.msgType = msgDiagRequest then handleDiagRequest lib inputs decoded
  else handleNodeFrame lib inputs decoded

def plainLib : Libraries := ⟨plainProvider, .definite⟩

def smallInputs : Inputs where
  unixMs := some 1000
  instant := 0
  random := some 5
  peer := []
  rssi := none
  sendData _ _ := some ([1], 0)
  decoder _ _ := none
  fault _ := false

def smallNode : NodeRecord := { NodeRecord.new "n" 0 7 with currentProgramHash := some [9] }

def smallPhone : PhonePskRecord :=
  { phoneId := 1, psk := 8, phoneKeyHint := 0, label := "p", issuedAt := 0, status := .active, keyVersion := 0 }

def smallGateway : Gateway where
  nodes := (∅ : Table String NodeRecord).insert "n" smallNode
  phonePsks := [smallPhone]
  programs _ := none
  sqliteStorage := false
  pendingRecovery := []
  cachedMasterKeyId := none
  sessionManager := ⟨fun _ => none, 30000, 0⟩
  pendingCommands _ := []
  handlers := [[.any]]
  deferredReplies _ := none
  wakeBlobTasks := []
  outputs := ⟨[], []⟩
  sealed := []

def smallFrame (nonce : BitVec 64) (message : NodeMessage) (psk : Bytes32) : Bytes :=
  ((encodeFrame plainProvider ⟨0, message.msgType, nonce⟩ message.encode psk).toOption).getD []

def smallWake (nonce : BitVec 64) : Bytes := smallFrame nonce (.wake 1 [9] 3000 [0x31] none) 7

end Sonde.Engine
