import Sonde.Gateway.Engine
import Sonde.Lib.Task

namespace Sonde.Engine
open Lib Protocol Sonde.Gateway

inductive FieldUpdate where
  | assignedProgramHash (programHash : Option Bytes)
  | desiredScheduleIntervalS (intervalS : Option Nat)
  | scheduleIntervalS (intervalS : Nat)
  | currentProgramHash (programHash : Bytes)
  | firmwareMetadata (firmwareAbiVersion : Nat) (firmwareVersion : String)
  deriving DecidableEq, Repr

def FieldUpdate.apply (record : NodeRecord) : FieldUpdate → NodeRecord
  | .assignedProgramHash programHash => { record with assignedProgramHash := programHash }
  | .desiredScheduleIntervalS intervalS => { record with desiredScheduleIntervalS := intervalS }
  | .scheduleIntervalS intervalS => { record with scheduleIntervalS := intervalS }
  | .currentProgramHash programHash => { record with currentProgramHash := some programHash }
  | .firmwareMetadata firmwareAbiVersion firmwareVersion =>
    { record with firmwareAbiVersion := some firmwareAbiVersion, firmwareVersion := some firmwareVersion }

/-- A call, and what it writes of a node's record. `upsertNode` is that of an operation which changes fields of a record
it has read; `registerNode` writes a new record. -/
inductive Access where
  | other
  | upsertNode (snapshot : NodeRecord) (updates : List FieldUpdate)
  | updateNodeWakeMetadata (nodeId : String) (firmwareAbiVersion : Nat) (firmwareVersion : String)
  | reconcileCurrentProgramHash (nodeId : String) (programHash : Bytes)
  | insertNodeIfNotExists (record : NodeRecord)
  | registerNode (record : NodeRecord)
  | deleteNode (nodeId : String)
  | removeSession (nodeId : String)

structure Label where
  holds : Option String
  access : Access

abbrev Steps := Task Gateway Label Discarded

namespace Concurrent

def call {α : Type} (holds : Option String) (m : Processing α) : Steps α := .atomic ⟨holds, .other⟩ m

def orDiscard {α : Type} : Option α → Steps α
  | some a => pure a
  | none => .stop .discarded

def editQueue (nodeId : String) (edit : List PendingCommand → List PendingCommand) : Processing Unit :=
  Program.update fun g =>
    { g with pendingCommands := Function.update g.pendingCommands nodeId (edit (g.pendingCommands nodeId)) }

section
variable (lib : Libraries) (inputs : Inputs)

def selectEphemeral (nodeId : String) (firmwareAbiVersion : Nat) : Steps (Option CommandPayload) := do
  let found ← call (some nodeId) (Program.read fun g => (g.pendingCommands nodeId).findSome? ephemeralHash)
  match found with
  | none => pure none
  | some programHash => do
    let found ← call (some nodeId) (Program.read fun g => visibleProgram inputs .ephemeralProgram g programHash)
    match found with
    | none => pure none
    | some program =>
      if abiMismatch program firmwareAbiVersion then do
        call (some nodeId) (editQueue nodeId (·.eraseP (· = .runEphemeral program.hash)))
        pure none
      else if program.size > maxEphemeralSize then do
        call (some nodeId) (editQueue nodeId (·.filter (· ≠ .runEphemeral program.hash)))
        pure none
      else
        match chunkCount program.image.length defaultChunkSize with
        | some count => do
          call (some nodeId) (editQueue nodeId (·.eraseP (· = .runEphemeral program.hash)))
          pure (some (.runEphemeral program.hash program.size defaultChunkSize count))
        | none => pure none

def selectUpdate (node : NodeRecord) (nodeProgramHash : Bytes) (firmwareAbiVersion : Nat) :
    Steps (Option CommandPayload) :=
  match node.assignedProgramHash with
  | none => pure none
  | some assignedHash =>
    if assignedHash = nodeProgramHash then pure none
    else do
      let found ← call (some node.nodeId) (Program.read fun g => visibleProgram inputs .assignedProgram g assignedHash)
      match found with
      | none => pure none
      | some program =>
        if abiMismatch program firmwareAbiVersion then pure none
        else
          pure ((chunkCount program.image.length defaultChunkSize).map
            (.updateProgram program.hash program.size defaultChunkSize ·))

def takeSchedule (nodeId : String) : Processing (Option Nat) := do
  let found ← Program.read fun g => (g.pendingCommands nodeId).findSome? scheduleInterval
  editQueue nodeId (·.eraseP fun c => (scheduleInterval c).isSome)
  pure found

def takeReboot (nodeId : String) : Processing Bool := do
  let found ← Program.read fun g => decide (PendingCommand.reboot ∈ g.pendingCommands nodeId)
  editQueue nodeId (·.eraseP (· = .reboot))
  pure found

def selectQueued (nodeId : String) : Steps CommandPayload := do
  let scheduled ← call (some nodeId) (takeSchedule nodeId)
  match scheduled with
  | some intervalS => pure (.updateSchedule intervalS)
  | none => do
    let reboots ← call (some nodeId) (takeReboot nodeId)
    pure (if reboots then .reboot else .nop)

def selectCommand (node : NodeRecord) (nodeProgramHash : Bytes) (firmwareAbiVersion : Nat) : Steps CommandPayload := do
  let ephemeral ← selectEphemeral inputs node.nodeId firmwareAbiVersion
  match ephemeral with
  | some command => pure command
  | none => do
    let update ← selectUpdate inputs node nodeProgramHash firmwareAbiVersion
    match update with
    | some command => pure command
    | none => selectQueued node.nodeId

def wakeCommand (node : NodeRecord) (nonce : BitVec 64) (wake : WakeFields) : Steps (BitVec 64 × CommandPayload) := do
  let existing ← call (some node.nodeId) (Program.read fun g => g.sessionManager.getSession node.nodeId)
  match existing.bind (retriedCommand nonce) with
  | some retried => pure retried
  | none => do
    let seq ← orDiscard inputs.random
    call (some node.nodeId) (modifySessions (·.createSession inputs.instant node.nodeId inputs.peer nonce seq))
    let command ← selectCommand inputs node wake.programHash wake.firmwareAbiVersion
    pure (seq, command)

def handleWakeCore (node : NodeRecord) (header : FrameHeader) (payload : Bytes) :
    Steps (FrameHeader × Bytes × Bool) := do
  let wake ← orDiscard (decodeWake lib payload)
  let (startingSeq, command) ← wakeCommand inputs node header.nonce wake
  call (some node.nodeId) (enterTransfer node.nodeId command)
  Task.onlyIf (inputs.fault .wakeMetadata = false) (.atomic
    ⟨some node.nodeId, .updateNodeWakeMetadata node.nodeId wake.firmwareAbiVersion (textString wake.firmwareVersion)⟩
    (updateNodeWakeMetadata inputs node.nodeId wake))
  call (some node.nodeId) (broadcast (nodeOnline inputs node.nodeId wake))
  Task.onlyIf (node.assignedProgramHash = some wake.programHash ∧ node.currentProgramHash ≠ some wake.programHash ∧
      inputs.fault .reconcile = false) (.atomic
    ⟨some node.nodeId, .reconcileCurrentProgramHash node.nodeId wake.programHash⟩
    (modifyNode node.nodeId (reconcileCurrentProgramHash wake.programHash)))
  let deferred ← call (some node.nodeId) (Program.read fun g => g.deferredReplies node.nodeId)
  let blob := if command = .nop then deferred else none
  let response := GatewayMessage.command startingSeq (BitVec.ofNat 64 inputs.timestampMs) command blob
  call (some node.nodeId) (routeWakeBlob inputs node.nodeId header.nonce wake)
  pure (⟨node.keyHint, msgCommand, header.nonce⟩, response.encode, blob.isSome)

def handleWake (node : NodeRecord) (header : FrameHeader) (payload : Bytes) : Steps Bytes := do
  let (responseHeader, responseCbor, deferredDelivered) ← handleWakeCore lib inputs node header payload
  let frame ← call (some node.nodeId) (encodeResponse lib responseHeader responseCbor node.psk none)
  Task.onlyIf (deferredDelivered = true) (call (some node.nodeId)
    (Program.update fun g => { g with deferredReplies := Function.update g.deferredReplies node.nodeId none }))
  pure frame

def handleGetChunkCore (node : NodeRecord) (header : FrameHeader) (chunkIndex : Nat) : Steps (FrameHeader × Bytes) := do
  let found ← call (some node.nodeId) (Program.read fun g => g.sessionManager.getSession node.nodeId)
  let session ← orDiscard found
  match session.state with
  | .chunkedTransfer programHash _ chunkSize _ _ => do
    let found ← call (some node.nodeId) (Program.read fun g => visibleProgram inputs .chunkProgram g programHash)
    let program ← orDiscard found
    let chunkData ← orDiscard (getChunk program.image chunkIndex chunkSize)
    pure (⟨node.keyHint, msgChunk, header.nonce⟩, (GatewayMessage.chunk chunkIndex chunkData).encode)
  | _ => .stop .discarded

def handleProgramAck (node : NodeRecord) (programHash : Bytes) : Steps Unit := do
  let found ← call (some node.nodeId) (Program.read fun g => g.sessionManager.getSession node.nodeId)
  Task.onlyIf (found.any (acknowledges programHash) = true) do
    Task.onlyIf (inputs.fault .confirmProgram = false) (.atomic
      ⟨some node.nodeId, .upsertNode node [.currentProgramHash programHash]⟩
      (upsertNode { node with currentProgramHash := some programHash }))
    call (some node.nodeId) (broadcast (programUpdated inputs node.nodeId programHash))
    call (some node.nodeId) (modifySessions (·.setState node.nodeId .bpfExecuting))

def handleAppDataCore (node : NodeRecord) (header : FrameHeader) (blob : Bytes) : Steps (FrameHeader × Bytes) := do
  let programHash ← orDiscard node.currentProgramHash
  let readings ← call (some node.nodeId) (Program.read fun g => decoderReadings inputs .appDataProgram programHash blob g)
  let found ← call (some node.nodeId) (Program.read fun g => findHandler g.handlers programHash)
  call (some node.nodeId) (Program.update (·.emitAppData inputs node.nodeId programHash blob .appData readings))
  let handler ← orDiscard found
  let message := HandlerMessage.data header.nonce node.nodeId programHash blob (inputs.timestampMs / 1000) readings
  call (some node.nodeId) (Program.update (·.tell [(handler, message)]))
  let (data, delivery) ← orDiscard (inputs.sendData handler message)
  if data = [] then .stop .discarded
  else if delivery = 1 then do
    Task.onlyIf (data.length ≤ maxCommandBlobSize) (call (some node.nodeId)
      (Program.update fun g => { g with deferredReplies := Function.update g.deferredReplies node.nodeId (some data) }))
    .stop .discarded
  else pure (⟨node.keyHint, msgAppDataReply, header.nonce⟩, (GatewayMessage.appDataReply data).encode)

def answerInSession (node : NodeRecord) (core : Steps (FrameHeader × Bytes)) : Steps Bytes := do
  let answer ← core
  call (some node.nodeId) (Engine.answerInSession lib node (pure answer))

def handlePostWake (node : NodeRecord) (header : FrameHeader) (payload : Bytes) : Steps Bytes := do
  let message ← orDiscard (NodeMessage.decode lib.reader header.msgType payload).toOption
  call (some node.nodeId) (verifyAndAdvanceSeq inputs node.nodeId header.nonce)
  match message with
  | .getChunk chunkIndex => answerInSession lib node (handleGetChunkCore inputs node header chunkIndex)
  | .programAck programHash => do
    handleProgramAck inputs node programHash
    .stop .discarded
  | .appData blob => answerInSession lib node (handleAppDataCore inputs node header blob)
  | _ => .stop .discarded

def authenticatePhone (decoded : DecodedFrame) : Steps (PhonePskRecord × Bytes) :=
  call none (Engine.authenticatePhone lib inputs decoded)

def handleDiagRequest (decoded : DecodedFrame) : Steps Bytes := do
  let (phone, payload) ← authenticatePhone lib inputs decoded
  match NodeMessage.decode lib.reader msgDiagRequest payload with
  | .ok (.diagRequest diagnosticType) =>
    if diagnosticType ≠ diagTypeRssi then .stop .discarded
    else
      let reply := GatewayMessage.diagReply diagnosticType (inputs.rssi.getD 0)
      call none (encodeResponse lib ⟨decoded.header.keyHint, msgDiagReply, decoded.header.nonce⟩ reply.encode phone.psk
        none)
  | _ => .stop .discarded

def insertNodeIfNotExists (record : NodeRecord) : Processing Bool := do
  let existing ← Program.read fun g => g.nodes.lookup record.nodeId
  match existing with
  | none => do
    upsertNode record
    pure true
  | some _ => pure false

def existingNode (nodeId : String) : Processing (Option NodeRecord) := do
  guardFault inputs .existingNode
  Program.read fun g => g.nodes.lookup nodeId

def registerPeer (record : NodeRecord) : Steps Unit :=
  if inputs.fault .insertNode then .stop .discarded
  else do
    let inserted ← .atomic ⟨none, .insertNodeIfNotExists record⟩ (insertNodeIfNotExists record)
    if inserted then pure ()
    else do
      let found ← call none (existingNode inputs record.nodeId)
      let existing ← orDiscard found
      if existing.psk ≠ record.psk then .stop .discarded else pure ()

def handlePeerRequest (decoded : DecodedFrame) : Steps Bytes := do
  let (phone, cborPayload) ← authenticatePhone lib inputs decoded
  let request ← orDiscard (openPairingRequest lib phone.psk cborPayload)
  let now ← orDiscard inputs.unixMs
  if absDiff (now / 1000) request.timestamp > maxTimestampDriftS then .stop .discarded
  else if request.nodeKeyHint ≠ keyHintFromPsk lib.provider request.nodePsk then .stop .discarded
  else do
    let record : NodeRecord :=
      { NodeRecord.new (textString request.nodeId) request.nodeKeyHint request.nodePsk with
        rfChannel := some request.rfChannel
        sensors := request.sensors
        registeredByPhoneId := some phone.phoneId }
    registerPeer inputs record
    call none (encodeResponse lib ⟨record.keyHint, msgPeerAck, decoded.header.nonce⟩ peerAckCbor record.psk none)

def tryRecoveryAuth (decoded : DecodedFrame) : Steps (NodeRecord × Bytes) := do
  let available ← call none (Program.read fun g => if g.sqliteStorage then g.cachedMasterKeyId else none)
  let keyId ← orDiscard available
  let candidates ← call none (do
    guardFault inputs .pendingRecovery
    Program.read (recoveryCandidates decoded keyId))
  let (node, payload) ← orDiscard (openingNode lib decoded candidates)
  if inputs.fault .promoteNode then .stop .discarded
  else do
    .atomic ⟨none, .registerNode node⟩ (upsertNode node)
    Task.onlyIf (inputs.fault .deletePendingRecovery = false) (call (some node.nodeId) (Program.update fun g =>
      { g with
        pendingRecovery := g.pendingRecovery.filter fun row =>
          ¬(row.keyHint = decoded.header.keyHint ∧ row.nodeId = node.nodeId) }))
    pure (node, payload)

def authenticateNode (decoded : DecodedFrame) : Steps (NodeRecord × Bytes) := do
  let candidates ← call none (do
    guardFault inputs .nodesByKeyHint
    Program.read (nodesByKeyHint decoded.header.keyHint))
  if candidates = [] then tryRecoveryAuth lib inputs decoded
  else orDiscard (openingNode lib decoded candidates)

def handleNodeFrame (decoded : DecodedFrame) : Steps Bytes := do
  let (node, payload) ← authenticateNode lib inputs decoded
  if decoded.header.msgType = msgWake then handleWake lib inputs node decoded.header payload
  else if decoded.header.msgType = msgGetChunk ∨ decoded.header.msgType = msgProgramAck ∨
      decoded.header.msgType = msgAppData then handlePostWake lib inputs node decoded.header payload
  else .stop .discarded

def processFrame (raw : Bytes) : Steps Bytes := do
  let decoded ← orDiscard (decodeFrame raw).toOption
  if decoded.header.msgType = msgPeerRequest then handlePeerRequest lib inputs decoded
  else if decoded.header.msgType = msgDiagRequest then handleDiagRequest lib inputs decoded
  else handleNodeFrame lib inputs decoded

end

/-! ## One frame at a time -/

section
open Program Task

@[simp] theorem call_alone {α : Type} (holds : Option String) (m : Processing α) : (call holds m).alone = m := rfl

@[simp] theorem orDiscard_alone {α : Type} (a : Option α) : (orDiscard a).alone = Engine.orDiscard a := by
  cases a <;> rfl

variable {lib : Libraries} {inputs : Inputs} {node : NodeRecord} {header : FrameHeader} {payload : Bytes}
  {decoded : DecodedFrame}

theorem selectEphemeral_alone (nodeId : String) (firmwareAbiVersion : Nat) (g : Gateway) :
    (selectEphemeral inputs nodeId firmwareAbiVersion).alone g =
      let selected := Engine.selectEphemeral (visibleProgram inputs .ephemeralProgram g) firmwareAbiVersion
        (g.pendingCommands nodeId)
      (.ok selected.1, { g with pendingCommands := Function.update g.pendingCommands nodeId selected.2 }) := by
  simp only [selectEphemeral, Engine.selectEphemeral, bind_alone, call_alone, bind_run, read_run]
  cases (g.pendingCommands nodeId).findSome? ephemeralHash with
  | none => simp [pure_run]
  | some programHash =>
    simp only [bind_alone, call_alone, bind_run, read_run]
    cases visibleProgram inputs .ephemeralProgram g programHash with
    | none => simp [pure_run]
    | some program =>
      dsimp only
      split
      · rfl
      split
      · rfl
      cases chunkCount program.image.length defaultChunkSize with
      | none => simp [pure_run]
      | some count => rfl

theorem selectUpdate_alone (nodeProgramHash : Bytes) (firmwareAbiVersion : Nat) :
    (selectUpdate inputs node nodeProgramHash firmwareAbiVersion).alone =
      Program.read fun g => Engine.selectUpdate (visibleProgram inputs .assignedProgram g) node.assignedProgramHash
        nodeProgramHash firmwareAbiVersion := by
  funext g
  simp only [selectUpdate, Engine.selectUpdate, read_run]
  cases node.assignedProgramHash with
  | none => rfl
  | some assignedHash =>
    by_cases same : assignedHash = nodeProgramHash
    · simp [same, pure_run]
    simp only [same, if_false, bind_alone, call_alone, bind_run, read_run, Option.bind_eq_bind, Option.bind_some]
    cases visibleProgram inputs .assignedProgram g assignedHash with
    | none => rfl
    | some program =>
      dsimp only [Option.bind_some]
      split
      · rfl
      · cases chunkCount program.image.length defaultChunkSize <;> rfl

theorem selectQueued_alone (nodeId : String) (g : Gateway) : (selectQueued nodeId).alone g =
      let selected := Engine.selectQueued (g.pendingCommands nodeId)
      (.ok selected.1, { g with pendingCommands := Function.update g.pendingCommands nodeId selected.2 }) := by
  simp only [selectQueued, Engine.selectQueued, takeSchedule, takeReboot, editQueue, bind_alone, call_alone, bind_run,
    read_run, update_run]
  cases scheduled : (g.pendingCommands nodeId).findSome? scheduleInterval with
  | some intervalS => rfl
  | none =>
    have kept : (g.pendingCommands nodeId).eraseP (fun c => (scheduleInterval c).isSome) = g.pendingCommands nodeId := by
      refine List.eraseP_of_forall_not fun c member => ?_
      rw [List.findSome?_eq_none_iff.mp scheduled c member]
      simp
    by_cases reboots : PendingCommand.reboot ∈ g.pendingCommands nodeId
    · simp [bind_run, read_run, update_run, pure_run, kept, reboots]
    · have kept' : (g.pendingCommands nodeId).eraseP (· = .reboot) = g.pendingCommands nodeId := by
        refine List.eraseP_of_forall_not fun c member => ?_
        simpa using ne_of_mem_of_not_mem member reboots
      simp [bind_run, read_run, update_run, pure_run, kept, kept', reboots]

theorem selectCommand_alone (nodeProgramHash : Bytes) (firmwareAbiVersion : Nat) :
    (selectCommand inputs node nodeProgramHash firmwareAbiVersion).alone =
      Engine.selectCommand inputs node nodeProgramHash firmwareAbiVersion := by
  funext g
  simp only [selectCommand, Engine.selectCommand, selectFrom, bind_alone, bind_run, selectEphemeral_alone]
  cases Engine.selectEphemeral (visibleProgram inputs .ephemeralProgram g) firmwareAbiVersion
      (g.pendingCommands node.nodeId) with
  | mk ephemeral queue =>
    cases ephemeral with
    | some command => rfl
    | none =>
      simp only [bind_alone, bind_run, selectUpdate_alone, read_run]
      have programs : visibleProgram inputs .assignedProgram { g with
          pendingCommands := Function.update g.pendingCommands node.nodeId queue } =
          visibleProgram inputs .assignedProgram g := rfl
      rw [programs]
      cases Engine.selectUpdate (visibleProgram inputs .assignedProgram g) node.assignedProgramHash nodeProgramHash
          firmwareAbiVersion with
      | some command => rfl
      | none => simp [selectQueued_alone]

theorem wakeCommand_alone (nonce : BitVec 64) (wake : WakeFields) :
    (wakeCommand inputs node nonce wake).alone = Engine.wakeCommand inputs node nonce wake := by
  simp only [wakeCommand, Engine.wakeCommand, bind_alone, call_alone]
  congr! with existing
  cases existing.bind (retriedCommand nonce) with
  | some retried => rfl
  | none => simp [selectCommand_alone]

theorem handleWake_alone :
    (handleWake lib inputs node header payload).alone = Engine.handleWake lib inputs node header payload := by
  have twice {c : Prop} [Decidable c] (m : Processing Unit) : onlyIf c (onlyIf c m) = onlyIf c m := by
    by_cases h : c <;> simp [Program.onlyIf, h]
  simp [handleWake, handleWakeCore, Engine.handleWake, Engine.handleWakeCore, wakeCommand_alone, updateNodeWakeMetadata,
    twice, reconcile]

theorem handleGetChunkCore_alone (chunkIndex : Nat) :
    (handleGetChunkCore inputs node header chunkIndex).alone = Engine.handleGetChunkCore inputs node header chunkIndex := by
  simp only [handleGetChunkCore, Engine.handleGetChunkCore, bind_alone, call_alone, orDiscard_alone]
  congr! with found session
  cases session.state <;> simp [discard]

theorem handleProgramAck_alone (programHash : Bytes) :
    (handleProgramAck inputs node programHash).alone = Engine.handleProgramAck inputs node programHash := by
  simp [handleProgramAck, Engine.handleProgramAck]

theorem handleAppDataCore_alone (blob : Bytes) :
    (handleAppDataCore inputs node header blob).alone = Engine.handleAppDataCore inputs node header blob := by
  simp [handleAppDataCore, Engine.handleAppDataCore, discard]

theorem answerInSession_alone (core : Steps (FrameHeader × Bytes)) :
    (answerInSession lib node core).alone = Engine.answerInSession lib node core.alone := by
  simp only [answerInSession, bind_alone, call_alone]
  rfl

theorem handlePostWake_alone :
    (handlePostWake lib inputs node header payload).alone = Engine.handlePostWake lib inputs node header payload := by
  simp only [handlePostWake, Engine.handlePostWake, bind_alone, call_alone, orDiscard_alone]
  congr! with message
  cases message <;> simp [answerInSession_alone, handleGetChunkCore_alone, handleProgramAck_alone, handleAppDataCore_alone,
    discard]

theorem tryRecoveryAuth_alone :
    (tryRecoveryAuth lib inputs decoded).alone = Engine.tryRecoveryAuth lib inputs decoded := by
  have guarded {β : Type} (m : Processing β) : guardFault inputs .promoteNode >>= (fun _ => m) =
      if inputs.fault .promoteNode then Engine.discard else m := by
    unfold guardFault
    split <;> rfl
  simp [tryRecoveryAuth, Engine.tryRecoveryAuth, Program.bind_assoc, guarded, discard]

theorem handleNodeFrame_alone :
    (handleNodeFrame lib inputs decoded).alone = Engine.handleNodeFrame lib inputs decoded := by
  simp [handleNodeFrame, Engine.handleNodeFrame, authenticateNode, Engine.authenticateNode, Program.bind_assoc,
    tryRecoveryAuth_alone, handleWake_alone, handlePostWake_alone, discard]

theorem registerPeer_alone (record : NodeRecord) :
    (registerPeer inputs record).alone = Engine.registerPeer inputs record := by
  funext g
  simp only [registerPeer, Engine.registerPeer, guardFault, insertNodeIfNotExists, existingNode, ite_alone, bind_alone,
    stop_alone, call_alone, atomic_alone, orDiscard_alone, bind_run, ite_run, read_run]
  cases inputs.fault .insertNode <;> cases found : g.nodes.lookup record.nodeId <;> cases inputs.fault .existingNode <;>
    simp [found, upsertNode, Engine.orDiscard, discard, bind_run, pure_run, stop_run, ite_run, update_run]

theorem handlePeerRequest_alone :
    (handlePeerRequest lib inputs decoded).alone = Engine.handlePeerRequest lib inputs decoded := by
  simp [handlePeerRequest, Engine.handlePeerRequest, authenticatePhone, registerPeer_alone, discard]

theorem handleDiagRequest_alone :
    (handleDiagRequest lib inputs decoded).alone = Engine.handleDiagRequest lib inputs decoded := by
  simp only [handleDiagRequest, Engine.handleDiagRequest, authenticatePhone, bind_alone, call_alone]
  congr! with authentic
  cases NodeMessage.decode lib.reader msgDiagRequest authentic.2 with
  | error e => rfl
  | ok message => cases message <;> simp [discard]

theorem processFrame_alone (lib : Libraries) (inputs : Inputs) (raw : Bytes) :
    (processFrame lib inputs raw).alone = Engine.processFrame lib inputs raw := by
  simp [processFrame, Engine.processFrame, handlePeerRequest_alone, handleDiagRequest_alone, handleNodeFrame_alone]

end

end Concurrent

end Sonde.Engine
