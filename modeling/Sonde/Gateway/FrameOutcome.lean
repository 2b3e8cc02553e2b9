import Sonde.Gateway.Engine

namespace Sonde.Engine
open Lib Lib.Program Protocol Sonde.Gateway Program

/-- What the admin API, the connector and the maintenance tasks leave behind: new tables, queues and handlers, and
some sessions closed. -/
structure AdminAction where
  nodes : Table String NodeRecord
  phonePsks : List PhonePskRecord
  programs : Bytes → Option ProgramRecord
  pendingRecovery : List PendingRecoveryRecord
  cachedMasterKeyId : Option Bytes32
  pendingCommands : String → List PendingCommand
  handlers : List (List ProgramMatcher)
  deferredReplies : String → Option Bytes
  closes : String → Bool

def Gateway.administer (action : AdminAction) (g : Gateway) : Gateway :=
  { g with
    nodes := action.nodes
    phonePsks := action.phonePsks
    programs := action.programs
    pendingRecovery := action.pendingRecovery
    cachedMasterKeyId := action.cachedMasterKeyId
    pendingCommands := action.pendingCommands
    handlers := action.handlers
    deferredReplies := action.deferredReplies
    sessionManager := { g.sessionManager with
      sessions := fun nodeId => if action.closes nodeId then none else g.sessionManager.sessions nodeId } }

inductive Event where
  | frame (inputs : Inputs) (raw : Bytes)
  | wakeBlobReply (inputs : Inputs) (index : Nat)
  | admin (action : AdminAction)

def Gateway.step (lib : Libraries) (g : Gateway) : Event → Gateway
  | .frame inputs raw => (processFrame lib inputs raw g).2
  | .wakeBlobReply inputs index =>
    match g.wakeBlobTasks[index]? with
    | some task => { runWakeBlobTask inputs task g with wakeBlobTasks := g.wakeBlobTasks.eraseIdx index }
    | none => g
  | .admin action => g.administer action

def Gateway.run (lib : Libraries) (g : Gateway) (events : List Event) : Gateway := events.foldl (·.step lib) g

variable {inputs : Inputs}

theorem processFrame_node {lib : Libraries} {raw : Bytes} {decoded : DecodedFrame}
    (decodes : decodeFrame raw = .ok decoded)
    (fromNode : decoded.header.msgType ≠ msgPeerRequest ∧ decoded.header.msgType ≠ msgDiagRequest) :
    processFrame lib inputs raw = handleNodeFrame lib inputs decoded := by
  unfold processFrame
  rw [decodes]
  exact (if_neg fromNode.1).trans (if_neg fromNode.2)

variable {γ : Type} {view : Gateway → γ}

theorem wakeBlobReply_fixes (same : ∀ g deferredReplies wakeBlobTasks outputs,
      view { g with deferredReplies, wakeBlobTasks, outputs } = view g)
    (lib : Libraries) (inputs : Inputs) (index : Nat) (g : Gateway) :
    view (g.step lib (.wakeBlobReply inputs index)) = view g := by
  simp only [Gateway.step]
  cases g.wakeBlobTasks[index]? with
  | none => rfl
  | some task =>
    simp only [runWakeBlobTask]
    split
    · exact same g _ _ _
    split <;> exact same g _ _ _

/-! ## What a frame can do to the sessions and to the sealed frames -/

structure SessionStep (nodeId : String) (m m' : SessionManager) : Prop where
  created : m.created ≤ m'.created
  others : ∀ id, id ≠ nodeId → m'.sessions id = m.sessions id
  here : ∀ after, m'.sessions nodeId = some after →
    (∃ before, m.sessions nodeId = some before ∧ after.number = before.number ∧
      after.nextExpectedSeq = before.nextExpectedSeq) ∨
    (m.created ≤ after.number ∧ after.number < m'.created)

def Within (nodeId : String) (before g : Gateway) : Prop :=
  g.sealed = before.sealed ∧ SessionStep nodeId before.sessionManager g.sessionManager

def Same (before g : Gateway) : Prop := g.sealed = before.sealed ∧ g.sessionManager = before.sessionManager

theorem SessionStep.refl (nodeId : String) (m : SessionManager) : SessionStep nodeId m m :=
  ⟨le_refl _, fun _ _ => rfl, fun after found => .inl ⟨after, found, rfl, rfl⟩⟩

theorem Same.within {before g : Gateway} (same : Same before g) (nodeId : String) : Within nodeId before g :=
  ⟨same.1, same.2 ▸ SessionStep.refl nodeId _⟩

variable {α : Type} {core : Processing (FrameHeader × Bytes)}

section
variable {I : Gateway → Prop}

theorem orDiscard_keeps {a : Option α} : Keeps I (orDiscard a) fun b => a = some b := by
  cases a with
  | none => exact .stop
  | some b => exact .pure rfl

theorem orDiscard_fixes (a : Option α) : Fixes view (orDiscard a) := by
  cases a with
  | none => exact .stop _
  | some a => exact .pure a

theorem guardFault_fixes (inputs : Inputs) (call : StorageCall) : Fixes view (guardFault inputs call) :=
  .ite (.stop _) (.pure _)

theorem encodeResponse_fixes (same : ∀ g sealed, view { g with sealed } = view g)
    (lib : Libraries) (header : FrameHeader) (cbor : Bytes) (psk : Bytes32) (session : Option Nat) :
    Fixes view (encodeResponse lib header cbor psk session) := by
  unfold encodeResponse
  cases encodeFrame lib.provider header cbor psk with
  | error e => exact .stop _
  | ok frame => exact .bind (.update fun g => same g _) fun _ => .pure _

theorem routeWakeBlob_run (inputs : Inputs) (nodeId : String) (nonce : BitVec 64) (wake : WakeFields) (g : Gateway) :
    ∃ outputs wakeBlobTasks, routeWakeBlob inputs nodeId nonce wake g = (.ok (), { g with outputs, wakeBlobTasks }) := by
  unfold routeWakeBlob
  rw [update_run]
  cases wake.blob with
  | none => exact ⟨_, _, rfl⟩
  | some data =>
    dsimp only
    split
    · exact ⟨_, _, rfl⟩
    split
    · exact ⟨_, _, rfl⟩
    · exact ⟨_, _, rfl⟩

theorem registerPeer_fixes (same : ∀ g nodes, view { g with nodes } = view g)
    (inputs : Inputs) (record : NodeRecord) : Fixes view (registerPeer inputs record) := by
  refine .bind (guardFault_fixes _ _) fun _ => .bind (.read _) fun existing => ?_
  cases existing with
  | none => exact .update fun g => same g _
  | some existing => exact .ite (.stop _) (.ite (.stop _) (.pure _))

end

section
variable {before : Gateway} {lib : Libraries} {inputs : Inputs} {decoded : DecodedFrame}

theorem authenticatePhone_fixes : Fixes view (authenticatePhone lib inputs decoded) :=
  .bind (guardFault_fixes _ _) fun _ => .bind (.read _) fun _ => orDiscard_fixes _

theorem authenticateNode_fixes (same : ∀ g nodes pendingRecovery, view { g with nodes, pendingRecovery } = view g) :
    Fixes view (authenticateNode lib inputs decoded) := by
  refine .bind (guardFault_fixes _ _) fun _ => .bind (.read _) fun _ => .ite ?_ (orDiscard_fixes _)
  refine .bind (.read _) fun _ => .bind (orDiscard_fixes _) fun _ =>
    .bind (guardFault_fixes _ _) fun _ => .bind (.read _) fun _ =>
    .bind (orDiscard_fixes _) fun _ => .bind (guardFault_fixes _ _) fun _ => ?_
  exact .bind (.update fun g => same g _ _) fun _ => .bind (.onlyIf (.update fun g => same g _ _)) fun _ => .pure _

theorem handleDiagRequest_fixes (same : ∀ g sealed, view { g with sealed } = view g) :
    Fixes view (handleDiagRequest lib inputs decoded) := by
  refine .bind authenticatePhone_fixes fun ⟨phone, payload⟩ => ?_
  dsimp only
  split
  · exact .ite (.stop _) (encodeResponse_fixes same _ _ _ _ _)
  · exact .stop _

theorem same_keeps {m : Processing α} (fixed : Fixes (fun g => (g.sealed, g.sessionManager)) m) :
    Keeps (Same before) m fun _ => True :=
  Fixes.keeps (P := fun v : List Sealed × SessionManager => v.1 = before.sealed ∧ v.2 = before.sessionManager) fixed

end

section
variable {nodeId : String} {m m' : SessionManager}

theorem SessionStep.createSession (step : SessionStep nodeId m m') (now : Nat) (peer : Bytes)
    (nonce seq : BitVec 64) : SessionStep nodeId m (m'.createSession now nodeId peer nonce seq) where
  created := step.created.trans (Nat.le_succ _)
  others := by
    intro id other
    rw [← step.others id other]
    exact Function.update_of_ne other _ _
  here := by
    intro after found
    have same : m'.created = after.number := by
      simp only [SessionManager.createSession, Function.update_self, Option.some.injEq] at found
      rw [← found]
    exact .inr ⟨same ▸ step.created, same ▸ Nat.lt_succ_self _⟩

theorem SessionStep.setState (step : SessionStep nodeId m m') (state : SessionState) :
    SessionStep nodeId m (m'.setState nodeId state) where
  created := step.created
  others := by
    intro id other
    rw [← step.others id other]
    exact Function.update_of_ne other _ _
  here := by
    intro after found
    simp only [SessionManager.setState, Function.update_self, Option.map_eq_some_iff] at found
    obtain ⟨middle, found, rfl⟩ := found
    exact step.here middle found

end

/-! ## The run of `handle_wake` -/

def transferred (nodeId : String) (command : CommandPayload) (m : SessionManager) : SessionManager :=
  match transferState command with
  | some state => m.setState nodeId state
  | none => m

def wokenRecord (inputs : Inputs) (node : NodeRecord) (wake : WakeFields) (record : NodeRecord) : NodeRecord :=
  let seen := if inputs.fault .wakeMetadata = false then
    { record with
      firmwareAbiVersion := some wake.firmwareAbiVersion
      firmwareVersion := some (textString wake.firmwareVersion) } else record
  if node.assignedProgramHash = some wake.programHash ∧ node.currentProgramHash ≠ some wake.programHash ∧
      inputs.fault .reconcile = false then reconcileCurrentProgramHash wake.programHash seen
  else seen

def selection (inputs : Inputs) (node : NodeRecord) (wake : WakeFields) (g : Gateway) (cmds : List PendingCommand) :
    CommandPayload × List PendingCommand :=
  selectFrom (visibleProgram inputs .ephemeralProgram g) (visibleProgram inputs .assignedProgram g)
    node.assignedProgramHash wake.programHash wake.firmwareAbiVersion cmds

def reconciledState (inputs : Inputs) (node : NodeRecord) (wake : WakeFields) (command : CommandPayload) (g : Gateway) : Gateway :=
  let entered := (enterTransfer node.nodeId command g).2
  let seen := (updateNodeWakeMetadata inputs node.nodeId wake entered).2
  let told := (broadcast (nodeOnline inputs node.nodeId wake) seen).2
  (reconcile inputs node wake.programHash told).2

variable {payload : Bytes}

section
variable {lib : Libraries} {inputs : Inputs} {node : NodeRecord} {header : FrameHeader} {wake : WakeFields} {nonce : BitVec 64}
  {g t : Gateway} (nodeId : String) (command : CommandPayload)

theorem enterTransfer_run (g : Gateway) :
    enterTransfer nodeId command g = (.ok (), { g with sessionManager := transferred nodeId command g.sessionManager }) := by
  unfold enterTransfer transferred
  cases transferState command <;> rfl

theorem transferred_sessions (m : SessionManager) :
    (transferred nodeId command m).sessions nodeId = (m.sessions nodeId).map fun session =>
      { session with state := (transferState command).getD session.state } := by
  unfold transferred
  cases transferState command with
  | none => simp
  | some state => simp [SessionManager.setState]

theorem transferred_timeout (m : SessionManager) : (transferred nodeId command m).timeout = m.timeout := by
  unfold transferred
  split <;> rfl

theorem onlyIf_modifyNode {c : Prop} [Decidable c] (f : NodeRecord → NodeRecord) (g : Gateway) :
    onlyIf c (modifyNode nodeId f) g =
      (.ok (), { g with nodes := g.nodes.update nodeId fun record => if c then f record else record }) := by
  unfold onlyIf
  split
  · rfl
  · rw [Table.update_id]
    rfl

theorem reconciledState_eq (t : Gateway) : reconciledState inputs node wake command t =
    { t with
      nodes := t.nodes.update node.nodeId (wokenRecord inputs node wake)
      sessionManager := transferred node.nodeId command t.sessionManager
      outputs := (t.tell ((List.range t.handlers.length).map (·, nodeOnline inputs node.nodeId wake))).outputs } := by
  unfold reconciledState updateNodeWakeMetadata reconcile
  simp only [enterTransfer_run, onlyIf_modifyNode, broadcast, Gateway.tell, update_run, Table.update_update]
  rfl

theorem wakeCommand_eq (inputs : Inputs) (node : NodeRecord) (nonce : BitVec 64) (wake : WakeFields) (g : Gateway) :
    wakeCommand inputs node nonce wake g =
      match (g.sessionManager.getSession node.nodeId).bind (retriedCommand nonce), inputs.random with
      | some retried, _ => (.ok retried, g)
      | none, none => (.error .discarded, g)
      | none, some seq =>
        (.ok (seq, (selection inputs node wake g (g.pendingCommands node.nodeId)).1), { g with
          sessionManager := g.sessionManager.createSession inputs.instant node.nodeId inputs.peer nonce seq
          pendingCommands := Function.update g.pendingCommands node.nodeId
            (selection inputs node wake g (g.pendingCommands node.nodeId)).2 }) := by
  unfold wakeCommand
  rw [bind_run, read_run]
  dsimp only
  cases (g.sessionManager.getSession node.nodeId).bind (retriedCommand nonce) with
  | some retried => rfl
  | none => cases inputs.random <;> rfl

theorem wakeCommand_error {e : Discarded} (run : wakeCommand inputs node nonce wake g = (.error e, t)) : t = g := by
  rw [wakeCommand_eq] at run
  split at run <;> cases run
  rfl

variable (inputs node nonce g t) in
def Chose : Prop :=
  t = g ∨ ∃ seq commands, inputs.random = some seq ∧ t = { g with
    sessionManager := g.sessionManager.createSession inputs.instant node.nodeId inputs.peer nonce seq
    pendingCommands := Function.update g.pendingCommands node.nodeId commands }

theorem wakeCommand_state {chosen : BitVec 64 × CommandPayload}
    (run : wakeCommand inputs node nonce wake g = (.ok chosen, t)) : Chose inputs node nonce g t := by
  rw [wakeCommand_eq] at run
  split at run <;> cases run
  · exact .inl rfl
  · exact .inr ⟨_, _, ‹_›, rfl⟩

variable (lib inputs node header) in
theorem handleWake_cases (payload : Bytes) (g : Gateway) : handleWake lib inputs node header payload g = (.error .discarded, g) ∨
      ∃ wake seq command t, decodeWake lib payload = some wake ∧
        wakeCommand inputs node header.nonce wake g = (.ok (seq, command), t) := by
  unfold handleWake handleWakeCore
  cases decodeWake lib payload with
  | none => exact .inl rfl
  | some wake =>
    cases choice : wakeCommand inputs node header.nonce wake g with
    | mk result t =>
      cases result with
      | error e =>
        obtain rfl := wakeCommand_error choice
        refine .inl ?_
        simp only [bind_run, orDiscard, pure_run, choice]
      | ok chosen => exact .inr ⟨wake, chosen.1, chosen.2, t, rfl, choice⟩

variable (inputs node wake t) in
def Woken (nonce : BitVec 64) (command : CommandPayload) (g' : Gateway) : Prop :=
  ∃ outputs wakeBlobTasks sealed deferredReplies, g' = { t with
      nodes := t.nodes.update node.nodeId (wokenRecord inputs node wake)
      sessionManager := transferred node.nodeId command t.sessionManager
      outputs, wakeBlobTasks, sealed, deferredReplies } ∧
    (sealed = t.sealed ∨ ∃ cbor, sealed = ⟨node.psk, ⟨node.keyHint, msgCommand, nonce⟩, cbor, none⟩ :: t.sealed)

section
variable {seq : BitVec 64} {command : CommandPayload} (decodes : decodeWake lib payload = some wake)
  (choice : wakeCommand inputs node header.nonce wake g = (.ok (seq, command), t))
include decodes choice

theorem handleWakeCore_eq : handleWakeCore lib inputs node header payload g =
      let ready := reconciledState inputs node wake command t
      let blob := if command = .nop then ready.deferredReplies node.nodeId else none
      (.ok (⟨node.keyHint, msgCommand, header.nonce⟩,
        (GatewayMessage.command seq (BitVec.ofNat 64 inputs.timestampMs) command blob).encode, blob.isSome),
        (routeWakeBlob inputs node.nodeId header.nonce wake ready).2) := by
  unfold handleWakeCore updateNodeWakeMetadata reconcile
  rw [reconciledState_eq, decodes]
  simp only [orDiscard, bind_run, pure_run, choice, enterTransfer_run, onlyIf_modifyNode, broadcast, Gateway.tell,
    update_run, Table.update_update]
  rfl

theorem handleWake_eq : handleWake lib inputs node header payload g =
      let ready := reconciledState inputs node wake command t
      let blob := if command = .nop then ready.deferredReplies node.nodeId else none
      let message := (GatewayMessage.command seq (BitVec.ofNat 64 inputs.timestampMs) command blob).encode
      let routed := (routeWakeBlob inputs node.nodeId header.nonce wake ready).2
      match encodeFrame lib.provider ⟨node.keyHint, msgCommand, header.nonce⟩ message node.psk with
      | .error _ => (.error .discarded, routed)
      | .ok frame => (.ok frame, { routed with
          sealed := ⟨node.psk, ⟨node.keyHint, msgCommand, header.nonce⟩, message, none⟩ :: routed.sealed
          deferredReplies := if blob.isSome then Function.update routed.deferredReplies node.nodeId none
            else routed.deferredReplies }) := by
  unfold handleWake
  rw [bind_run, handleWakeCore_eq decodes choice]
  dsimp only
  generalize (if command = .nop then (reconciledState inputs node wake command t).deferredReplies node.nodeId else none) = blob
  unfold encodeResponse
  cases encodeFrame lib.provider ⟨node.keyHint, msgCommand, header.nonce⟩ _ node.psk with
  | error e => rfl
  | ok frame => cases blob <;> rfl

theorem handleWake_routes :
    let routed := (routeWakeBlob inputs node.nodeId header.nonce wake (reconciledState inputs node wake command t)).2
    let final := (handleWake lib inputs node header payload g).2
    final.outputs = routed.outputs ∧ final.wakeBlobTasks = routed.wakeBlobTasks := by
  rw [handleWake_eq decodes choice]
  dsimp only
  split <;> exact ⟨rfl, rfl⟩

theorem handleWake_answers : (handleWake lib inputs node header payload g).1 =
      (encodeFrame lib.provider ⟨node.keyHint, msgCommand, header.nonce⟩
        (GatewayMessage.command seq (BitVec.ofNat 64 inputs.timestampMs) command (if command = .nop then
          t.deferredReplies node.nodeId else none)).encode node.psk).mapError
        fun _ => .discarded := by
  rw [handleWake_eq decodes choice, reconciledState_eq]
  dsimp only
  split <;> rename_i sent <;> rw [sent] <;> rfl

theorem handleWake_state :
    Woken inputs node wake t header.nonce command (handleWake lib inputs node header payload g).2 := by
  obtain ⟨outputs, wakeBlobTasks, routed⟩ := routeWakeBlob_run inputs node.nodeId header.nonce wake
    (reconciledState inputs node wake command t)
  rw [handleWake_eq decodes choice]
  dsimp only
  rw [routed, reconciledState_eq]
  split
  · exact ⟨_, _, _, _, rfl, .inl rfl⟩
  · exact ⟨_, _, _, _, rfl, .inr ⟨_, rfl⟩⟩

end

variable (lib inputs node header) in
theorem handleWake_final (payload : Bytes) (g : Gateway) : (handleWake lib inputs node header payload g).2 = g ∨
      ∃ wake command t, Chose inputs node header.nonce g t ∧
        Woken inputs node wake t header.nonce command (handleWake lib inputs node header payload g).2 := by
  rcases handleWake_cases lib inputs node header payload g with stops | ⟨wake, seq, command, t, decodes, choice⟩
  · exact .inl (by rw [stops])
  · exact .inr ⟨wake, command, t, wakeCommand_state choice, handleWake_state decodes choice⟩

theorem handleWake_fixes
    (same : ∀ g nodes sessionManager pendingCommands outputs deferredReplies wakeBlobTasks sealed, view { g with
      nodes, sessionManager, pendingCommands, outputs, deferredReplies, wakeBlobTasks, sealed } = view g)
    (lib : Libraries) (inputs : Inputs) (node : NodeRecord) (header : FrameHeader) (payload : Bytes) :
    Fixes view (handleWake lib inputs node header payload) := by
  intro g
  rcases handleWake_final lib inputs node header payload g with
    unchanged | ⟨_, _, _, rfl | ⟨_, _, -, rfl⟩, _, _, _, _, after, -⟩
  · rw [unchanged]
  · rw [after]
    exact same _ _ _ _ _ _ _ _
  · rw [after]
    exact same g _ _ _ _ _ _ _

end

/-! ## The run after a WAKE -/

def Accepts (lib : Libraries) (inputs : Inputs) (node : NodeRecord) (header : FrameHeader) (payload : Bytes)
    (g : Gateway) : Prop :=
  (NodeMessage.decode lib.reader header.msgType payload).isOk ∧
    (verifyAndAdvanceSeq inputs node.nodeId header.nonce g).1.isOk

instance (lib : Libraries) (inputs : Inputs) (node : NodeRecord) (header : FrameHeader) (payload : Bytes) (g : Gateway) :
    Decidable (Accepts lib inputs node header payload g) := inferInstanceAs (Decidable (_ ∧ _))

/-- What a frame that the session does not accept leaves: at most the session of the node is dropped. -/
def Refused (inputs : Inputs) (nodeId : String) (g g' : Gateway) : Prop :=
  g' = g ∨ ∃ session, g.sessionManager.getSession nodeId = some session ∧
    inputs.instant - session.createdAt > g.sessionManager.timeout ∧
    g' = { g with sessionManager := g.sessionManager.removeSession nodeId }

def advanced (nodeId : String) (session : Session) (m : SessionManager) : SessionManager :=
  { m with
    sessions := Function.update m.sessions nodeId (some { session with nextExpectedSeq := session.nextExpectedSeq + 1 }) }

theorem advanced_here (nodeId : String) (session : Session) (m : SessionManager) :
    (advanced nodeId session m).getSession nodeId = some { session with nextExpectedSeq := session.nextExpectedSeq + 1 } :=
  Function.update_self ..

section
variable {lib : Libraries} {inputs : Inputs} {node : NodeRecord} {header : FrameHeader} {session : Session} {g : Gateway}

theorem verifyAndAdvanceSeq_cases (inputs : Inputs) (nodeId : String) (seq : BitVec 64) (g : Gateway) :
    (∃ g', verifyAndAdvanceSeq inputs nodeId seq g = (.error .discarded, g') ∧ Refused inputs nodeId g g') ∨
    ∃ session, g.sessionManager.getSession nodeId = some session ∧ session.nextExpectedSeq = seq ∧
      verifyAndAdvanceSeq inputs nodeId seq g =
        (.ok (), { g with sessionManager := advanced nodeId session g.sessionManager }) := by
  unfold verifyAndAdvanceSeq SessionManager.verifyAndAdvanceSeq
  cases found : g.sessionManager.sessions nodeId with
  | none => exact .inl ⟨_, rfl, .inl rfl⟩
  | some session =>
    dsimp only
    split
    · rename_i late
      exact .inl ⟨_, rfl, .inr ⟨session, found, late, rfl⟩⟩
    split
    · exact .inl ⟨_, rfl, .inl rfl⟩
    · rename_i wrong
      exact .inr ⟨session, found, (not_not.mp wrong).symm, rfl⟩

inductive PostWake (inputs : Inputs) (node : NodeRecord) (header : FrameHeader) (message : NodeMessage) (session : Session)
    (g : Gateway) : Gateway → Prop
  | replies {outputs : Outputs} {deferredReplies : String → Option Bytes} {sealed : List Sealed}
      (unconfirmed : ∀ programHash, message = .programAck programHash → acknowledges programHash session = false)
      (sealing : sealed = g.sealed ∨ ∃ response cbor, ((response.msgType = msgChunk ∨ response.msgType = msgAppDataReply) ∧
        response.nonce = header.nonce) ∧ sealed = ⟨node.psk, response, cbor, some session.number⟩ :: g.sealed) :
      PostWake inputs node header message session g
        { g with sessionManager := advanced node.nodeId session g.sessionManager, outputs, deferredReplies, sealed }
  | confirms {outputs : Outputs} (programHash : Bytes) (acks : message = .programAck programHash)
      (expected : acknowledges programHash session = true) : PostWake inputs node header message session g { g with
        nodes := if inputs.fault .confirmProgram = false then
          g.nodes.insert node.nodeId { node with currentProgramHash := some programHash } else g.nodes
        sessionManager := (advanced node.nodeId session g.sessionManager).setState node.nodeId .bpfExecuting
        outputs }

def Replies (header : FrameHeader) (result : Except Discarded (FrameHeader × Bytes)) : Prop :=
  ∀ response, result = .ok response →
    (response.1.msgType = msgChunk ∨ response.1.msgType = msgAppDataReply) ∧ response.1.nonce = header.nonce

theorem handleGetChunkCore_run (inputs : Inputs) (node : NodeRecord) (header : FrameHeader) (chunkIndex : Nat) (g : Gateway) :
    ∃ result, handleGetChunkCore inputs node header chunkIndex g = (result, g) ∧ Replies header result := by
  unfold handleGetChunkCore
  simp only [bind_run, read_run]
  cases g.sessionManager.getSession node.nodeId with
  | none => exact ⟨_, rfl, nofun⟩
  | some session =>
    dsimp only [orDiscard, pure_run]
    cases session.state with
    | awaitingPostWake => exact ⟨_, rfl, nofun⟩
    | bpfExecuting => exact ⟨_, rfl, nofun⟩
    | chunkedTransfer programHash programSize chunkSize chunkCount isEphemeral =>
      simp only [bind_run, read_run]
      cases visibleProgram inputs .chunkProgram g programHash with
      | none => exact ⟨_, rfl, nofun⟩
      | some program =>
        simp only [pure_run]
        cases getChunk program.image chunkIndex chunkSize with
        | none => exact ⟨_, rfl, nofun⟩
        | some chunk =>
          refine ⟨_, rfl, ?_⟩
          rintro _ ⟨⟩
          exact ⟨.inl rfl, rfl⟩

/-- What is out once APP_DATA has gone out as data of a program: its message to the connector, and the one to its handler. -/
def forwarded (inputs : Inputs) (nodeId : String) (nonce : BitVec 64) (programHash blob : Bytes) (g : Gateway) : Outputs :=
  let readings := decoderReadings inputs .appDataProgram programHash blob g
  let message := .data nonce nodeId programHash blob (inputs.timestampMs / 1000) readings
  ⟨g.outputs.handlerInputs ++ (findHandler g.handlers programHash).toList.map (·, message),
    g.outputs.emitted ++ [⟨stringBytes nodeId, programHash, blob, BitVec.ofNat 64 inputs.timestampMs, .appData, readings⟩]⟩

theorem handleAppDataCore_run (inputs : Inputs) (node : NodeRecord) (header : FrameHeader) (blob : Bytes) (g : Gateway) :
    ∃ result deferredReplies, handleAppDataCore inputs node header blob g = (result, { g with
        outputs := node.currentProgramHash.elim g.outputs (forwarded inputs node.nodeId header.nonce · blob g)
        deferredReplies }) ∧ Replies header result := by
  unfold handleAppDataCore forwarded
  cases node.currentProgramHash with
  | none => exact ⟨_, _, rfl, nofun⟩
  | some programHash =>
    simp only [bind_run, read_run, orDiscard, pure_run, update_run, Option.elim_some]
    cases findHandler g.handlers programHash with
    | none => exact ⟨.error .discarded, _, by rw [Option.toList_none, List.map_nil, List.append_nil]; rfl, nofun⟩
    | some handler =>
      simp only [pure_run]
      cases inputs.sendData handler _ with
      | none => exact ⟨_, _, rfl, nofun⟩
      | some reply =>
        dsimp only [pure_run]
        split
        · exact ⟨_, _, rfl, nofun⟩
        split
        · unfold onlyIf
          split
          · exact ⟨_, _, rfl, nofun⟩
          · exact ⟨_, _, rfl, nofun⟩
        · refine ⟨_, _, rfl, ?_⟩
          rintro _ ⟨⟩
          exact ⟨.inr rfl, rfl⟩

theorem onlyIf_upsertNode (condition : Prop) [Decidable condition] (record : NodeRecord) (g : Gateway) :
    onlyIf condition (upsertNode record) g =
      (.ok (), { g with nodes := if condition then g.nodes.insert record.nodeId record else g.nodes }) := by
  unfold onlyIf
  split
  · rfl
  · rfl

theorem answer_postWake {outputs : Outputs} {deferredReplies : String → Option Bytes}
    {message : NodeMessage} {t : Gateway} (isNext : t = { g with sessionManager := advanced node.nodeId session g.sessionManager })
    (other : ∀ programHash, message ≠ .programAck programHash) {result : Except Discarded (FrameHeader × Bytes)}
    (run : core t = (result, { t with outputs, deferredReplies })) (answers : Replies header result) :
    PostWake inputs node header message session g (answerInSession lib node core t).2 := by
  have unconfirmed : ∀ programHash, message = .programAck programHash → acknowledges programHash session = false :=
    fun programHash same => absurd same (other programHash)
  subst isNext
  unfold answerInSession
  rw [bind_run, run]
  cases result with
  | error e => exact .replies unconfirmed (.inl rfl)
  | ok response =>
    obtain ⟨response, cbor⟩ := response
    simp only [bind_run, read_run, advanced_here, Option.map_some, encodeResponse]
    cases encodeFrame lib.provider response cbor node.psk with
    | error e => exact .replies unconfirmed (.inl rfl)
    | ok frame => exact .replies unconfirmed (.inr ⟨response, cbor, answers _ rfl, rfl⟩)

variable (inputs node header session g) in
theorem programAck_postWake (programHash : Bytes) : ∃ g', handleProgramAck inputs node programHash
        { g with sessionManager := advanced node.nodeId session g.sessionManager } = (.ok (), g') ∧
      PostWake inputs node header (.programAck programHash) session g g' := by
  unfold handleProgramAck
  simp only [bind_run, read_run, advanced_here, Option.any_some]
  rw [onlyIf]
  split
  case isFalse refuses => exact ⟨_, rfl, .replies (by rintro _ ⟨⟩; exact eq_false_of_ne_true refuses) (.inl rfl)⟩
  case isTrue accepts =>
    rw [bind_run, onlyIf_upsertNode]
    exact ⟨_, rfl, .confirms programHash rfl accepts⟩

variable (lib inputs node header) in
theorem handlePostWake_cases (payload : Bytes) (g : Gateway) :
    (¬Accepts lib inputs node header payload g ∧ Refused inputs node.nodeId g (handlePostWake lib inputs node header payload g).2) ∨
    (Accepts lib inputs node header payload g ∧ ∃ message session,
      NodeMessage.decode lib.reader header.msgType payload = .ok message ∧
      g.sessionManager.getSession node.nodeId = some session ∧ session.nextExpectedSeq = header.nonce ∧
      verifyAndAdvanceSeq inputs node.nodeId header.nonce g =
        (.ok (), { g with sessionManager := advanced node.nodeId session g.sessionManager }) ∧
      PostWake inputs node header message session g (handlePostWake lib inputs node header payload g).2) := by
  unfold Accepts handlePostWake
  cases NodeMessage.decode lib.reader header.msgType payload with
  | error e => exact .inl ⟨fun accepted => Bool.noConfusion accepted.1, .inl rfl⟩
  | ok message =>
    rcases verifyAndAdvanceSeq_cases inputs node.nodeId header.nonce g with
      ⟨g', run, refused⟩ | ⟨session, found, expected, run⟩
    · refine .inl ⟨fun accepted => ?_, ?_⟩
      · rw [run] at accepted
        cases accepted.2
      · simpa only [Except.toOption, orDiscard, bind_run, pure_run, run] using refused
    · refine .inr ⟨⟨rfl, by rw [run]; rfl⟩, message, session, rfl, found, expected, run, ?_⟩
      simp only [Except.toOption, orDiscard, bind_run, pure_run, run]
      have other (apart : ∀ programHash, message ≠ .programAck programHash) :
          PostWake inputs node header message session g
            { g with sessionManager := advanced node.nodeId session g.sessionManager } :=
        .replies (fun programHash same => absurd same (apart programHash)) (.inl rfl)
      cases message with
      | getChunk chunkIndex =>
        obtain ⟨result, core, answers⟩ := handleGetChunkCore_run inputs node header chunkIndex
          { g with sessionManager := advanced node.nodeId session g.sessionManager }
        exact answer_postWake rfl (fun _ => NodeMessage.noConfusion) core answers
      | appData blob =>
        obtain ⟨result, deferredReplies, core, answers⟩ := handleAppDataCore_run inputs node header blob
          { g with sessionManager := advanced node.nodeId session g.sessionManager }
        exact answer_postWake rfl (fun _ => NodeMessage.noConfusion) core answers
      | programAck programHash =>
        obtain ⟨g', acked, outcome⟩ := programAck_postWake inputs node header session g programHash
        simp only [bind_run, acked]
        exact outcome
      | wake firmwareAbiVersion programHash batteryMv firmwareVersion blob => exact other nofun
      | diagRequest diagnosticType => exact other nofun

theorem handlePostWake_fixes (same : ∀ g nodes sessionManager outputs deferredReplies sealed,
      view { g with nodes, sessionManager, outputs, deferredReplies, sealed } = view g)
    (lib : Libraries) (inputs : Inputs) (node : NodeRecord) (header : FrameHeader) (payload : Bytes) :
    Fixes view (handlePostWake lib inputs node header payload) := by
  intro g
  rcases handlePostWake_cases lib inputs node header payload g with ⟨-, refused⟩ | ⟨-, message, session, -, -, -, -, outcome⟩
  · rcases refused with unchanged | ⟨session, -, -, removed⟩
    · rw [unchanged]
    · rw [removed]
      exact same g _ _ _ _ _
  · generalize (handlePostWake lib inputs node header payload g).2 = g' at outcome
    cases outcome with
    | replies => exact same g _ _ _ _ _
    | confirms => exact same g _ _ _ _ _

end

structure SessionAdvance (nodeId : String) (session : Session) (m m' : SessionManager) : Prop where
  created : m'.created = m.created
  others : ∀ id, id ≠ nodeId → m'.sessions id = m.sessions id
  here : ∃ after, m'.sessions nodeId = some after ∧ after.number = session.number ∧
    after.nextExpectedSeq = session.nextExpectedSeq + 1

def Accepted (nodeId : String) (session : Session) (before g : Gateway) : Prop :=
  g.sealed = before.sealed ∧ SessionAdvance nodeId session before.sessionManager g.sessionManager

section
variable {nodeId : String} {session : Session} {m m' : SessionManager}

theorem SessionStep.transferred (step : SessionStep nodeId m m') (command : CommandPayload) :
    SessionStep nodeId m (transferred nodeId command m') := by
  unfold Engine.transferred
  cases transferState command with
  | none => exact step
  | some state => exact step.setState state

theorem SessionStep.removeSession (nodeId : String) (m : SessionManager) : SessionStep nodeId m (m.removeSession nodeId) where
  created := le_refl _
  others := fun _ other => Function.update_of_ne other _ _
  here := by simp [SessionManager.removeSession]

theorem SessionAdvance.advanced (nodeId : String) (session : Session) (m : SessionManager) :
    SessionAdvance nodeId session m (advanced nodeId session m) where
  created := rfl
  others := fun _ other => Function.update_of_ne other _ _
  here := ⟨_, Function.update_self .., rfl, rfl⟩

theorem SessionAdvance.setState (advance : SessionAdvance nodeId session m m') (state : SessionState) :
    SessionAdvance nodeId session m (m'.setState nodeId state) where
  created := advance.created
  others := by
    intro id other
    rw [← advance.others id other]
    exact Function.update_of_ne other _ _
  here := by
    obtain ⟨after, found, number, next⟩ := advance.here
    refine ⟨{ after with state }, ?_, number, next⟩
    simp [SessionManager.setState, found]

theorem PostWake.advance {node : NodeRecord} {header : FrameHeader} {message : NodeMessage} {g g' : Gateway}
    (outcome : PostWake inputs node header message session g g') :
    SessionAdvance node.nodeId session g.sessionManager g'.sessionManager := by
  cases outcome with
  | replies => exact .advanced _ _ _
  | confirms => exact (SessionAdvance.advanced _ _ _).setState _

theorem Refused.within {g g' : Gateway} (refused : Refused inputs nodeId g g') : Within nodeId g g' := by
  rcases refused with rfl | ⟨session, -, -, rfl⟩
  · exact ⟨rfl, .refl _ _⟩
  · exact ⟨rfl, .removeSession _ _⟩

end

inductive Outcome (lib : Libraries) (inputs : Inputs) (decoded : DecodedFrame) (before g : Gateway) : Prop
  | silent (nodeId : String) (within : Within nodeId before g)
  | accepted (node : NodeRecord) (session : Session)
      (found : before.sessionManager.getSession node.nodeId = some session)
      (accepted : Accepted node.nodeId session before g)
  | peerAck (psk : Bytes32) (keyHint : BitVec 16) (sessions : g.sessionManager = before.sessionManager)
      (sealed : g.sealed = ⟨psk, ⟨keyHint, msgPeerAck, decoded.header.nonce⟩, peerAckCbor, none⟩ :: before.sealed)
  | diagReply (phone : PhonePskRecord) (payload : Bytes) (keyHint : BitVec 16)
      (request : decoded.header.msgType = msgDiagRequest)
      (authentic : (authenticatePhone lib inputs decoded before).1 = .ok (phone, payload))
      (sessions : g.sessionManager = before.sessionManager)
      (sealed : g.sealed = ⟨phone.psk, ⟨keyHint, msgDiagReply, decoded.header.nonce⟩,
        (GatewayMessage.diagReply diagTypeRssi (inputs.rssi.getD 0)).encode, none⟩ :: before.sealed)
  | command (node : NodeRecord) (payload : Bytes) (header : FrameHeader) (cbor : Bytes)
      (request : decoded.header.msgType = msgWake)
      (authentic : (authenticateNode lib inputs decoded before).1 = .ok (node, payload))
      (response : header.msgType = msgCommand ∧ header.nonce = decoded.header.nonce)
      (sessions : SessionStep node.nodeId before.sessionManager g.sessionManager)
      (sealed : g.sealed = ⟨node.psk, header, cbor, none⟩ :: before.sealed)
  | answer (node : NodeRecord) (payload : Bytes) (session : Session) (header : FrameHeader) (cbor : Bytes)
      (request : decoded.header.msgType ≠ msgWake)
      (authentic : (authenticateNode lib inputs decoded before).1 = .ok (node, payload))
      (found : before.sessionManager.getSession node.nodeId = some session)
      (expected : session.nextExpectedSeq = decoded.header.nonce)
      (response : (header.msgType = msgChunk ∨ header.msgType = msgAppDataReply) ∧ header.nonce = decoded.header.nonce)
      (sessions : SessionAdvance node.nodeId session before.sessionManager g.sessionManager)
      (sealed : g.sealed = ⟨node.psk, header, cbor, some session.number⟩ :: before.sealed)

section
variable {before g : Gateway} {lib : Libraries} {inputs : Inputs} {decoded : DecodedFrame} {node : NodeRecord}

theorem handleWake_outcome (request : decoded.header.msgType = msgWake)
    (authentic : (authenticateNode lib inputs decoded before).1 = .ok (node, payload)) (same : Same before g) :
    Outcome lib inputs decoded before (handleWake lib inputs node decoded.header payload g).2 := by
  rcases handleWake_final lib inputs node decoded.header payload g with
    unchanged | ⟨wake, command, t, chosen, _, _, sealed, _, after, sealing⟩
  · rw [unchanged]
    exact .silent node.nodeId (same.within _)
  · have opened : Within node.nodeId before t := by
      rcases chosen with rfl | ⟨seq, commands, -, rfl⟩
      · exact same.within _
      · exact ⟨same.1, (same.within _).2.createSession _ _ _ _⟩
    rw [after]
    rcases sealing with rfl | ⟨cbor, rfl⟩
    · exact .silent node.nodeId ⟨opened.1, opened.2.transferred command⟩
    · exact .command node payload ⟨node.keyHint, msgCommand, decoded.header.nonce⟩ cbor request authentic ⟨rfl, rfl⟩
        (opened.2.transferred command) (congrArg (_ :: ·) opened.1)

theorem handlePostWake_outcome (request : decoded.header.msgType ≠ msgWake)
    (authentic : (authenticateNode lib inputs decoded before).1 = .ok (node, payload)) (same : Same before g) :
    Outcome lib inputs decoded before (handlePostWake lib inputs node decoded.header payload g).2 := by
  obtain ⟨sealed, sessions⟩ := same
  rcases handlePostWake_cases lib inputs node decoded.header payload g with
    ⟨-, refused⟩ | ⟨-, message, session, -, found, expected, -, outcome⟩
  · exact .silent node.nodeId ⟨refused.within.1.trans sealed, sessions ▸ refused.within.2⟩
  · generalize (handlePostWake lib inputs node decoded.header payload g).2 = g' at outcome
    have advance := outcome.advance
    rw [sessions] at found advance
    cases outcome with
    | replies _ sealing =>
      rcases sealing with rfl | ⟨response, cbor, answers, rfl⟩
      · exact .accepted node session found ⟨sealed, advance⟩
      · exact .answer node payload session response cbor request authentic found expected answers advance
          (congrArg (_ :: ·) sealed)
    | confirms => exact .accepted node session found ⟨sealed, advance⟩

theorem handleNodeFrame_outcome : Outcome lib inputs decoded before (handleNodeFrame lib inputs decoded before).2 := by
  refine Keeps.bind_ends (same_keeps (authenticateNode_fixes fun _ _ _ => rfl)) ⟨rfl, rfl⟩ (fun _ same => .silent "" (same.within _)) ?_
  rintro ⟨node, payload⟩ g run same -
  have authentic : (authenticateNode lib inputs decoded before).1 = .ok (node, payload) := by rw [run]
  by_cases wake : decoded.header.msgType = msgWake
  · simpa only [if_pos wake] using handleWake_outcome wake authentic same
  · simp only [if_neg wake]
    split
    · exact handlePostWake_outcome wake authentic same
    · exact .silent "" (same.within _)

theorem handleDiagRequest_outcome (request : decoded.header.msgType = msgDiagRequest) :
    Outcome lib inputs decoded before (handleDiagRequest lib inputs decoded before).2 := by
  refine Keeps.bind_ends (same_keeps authenticatePhone_fixes) ⟨rfl, rfl⟩ (fun _ same => .silent "" (same.within _)) ?_
  rintro ⟨phone, payload⟩ g run same -
  have authentic : (authenticatePhone lib inputs decoded before).1 = .ok (phone, payload) := by rw [run]
  have quiet : Outcome lib inputs decoded before g := .silent "" (same.within _)
  dsimp only
  cases NodeMessage.decode lib.reader msgDiagRequest payload with
  | error e => exact quiet
  | ok message =>
    cases message with
    | diagRequest diagnosticType =>
      by_cases unknown : diagnosticType ≠ diagTypeRssi
      · simp only [if_pos unknown]
        exact quiet
      · simp only [if_neg unknown, encodeResponse]
        cases encodeFrame lib.provider _ _ phone.psk with
        | error e => exact quiet
        | ok frame =>
          refine .diagReply phone payload decoded.header.keyHint request authentic same.2 ?_
          rw [← same.1, ← not_not.mp unknown]
          rfl
    | _ => exact quiet

theorem handlePeerRequest_outcome : Outcome lib inputs decoded before (handlePeerRequest lib inputs decoded before).2 := by
  have quiet : ∀ g, Same before g → Outcome lib inputs decoded before g := fun _ same => .silent "" (same.within _)
  refine Keeps.bind_ends (same_keeps authenticatePhone_fixes) ⟨rfl, rfl⟩ quiet ?_
  rintro ⟨phone, payload⟩ g - same -
  refine Keeps.bind_ends orDiscard_keeps same quiet ?_
  rintro request g - same -
  refine Keeps.bind_ends orDiscard_keeps same quiet ?_
  rintro now g - same -
  split
  · exact quiet g same
  split
  · exact quiet g same
  refine Keeps.bind_ends (same_keeps (registerPeer_fixes (fun _ _ => rfl) _ _)) same quiet ?_
  rintro - g - same -
  simp only [encodeResponse]
  cases encodeFrame lib.provider _ _ _ with
  | error e => exact quiet g same
  | ok frame =>
    refine .peerAck request.nodePsk request.nodeKeyHint same.2 ?_
    rw [← same.1]
    rfl

theorem processFrame_outcome (lib : Libraries) (inputs : Inputs) (raw : Bytes) (before : Gateway) :
    (processFrame lib inputs raw before).2 = before ∨ ∃ decoded, decodeFrame raw = .ok decoded ∧
      Outcome lib inputs decoded before (processFrame lib inputs raw before).2 := by
  unfold processFrame
  cases decodes : decodeFrame raw with
  | error e => exact .inl rfl
  | ok decoded =>
    refine .inr ⟨decoded, rfl, ?_⟩
    change Outcome lib inputs decoded before ((if decoded.header.msgType = msgPeerRequest then _ else _ : Processing _)
      before).2
    split
    · exact handlePeerRequest_outcome
    split
    · next request => exact handleDiagRequest_outcome request
    · exact handleNodeFrame_outcome

end

/-! ## Answers in a run -/

def Event.nonce : Event → Option (BitVec 64)
  | .frame _ raw => (decodeFrame raw).toOption.map (·.header.nonce)
  | .wakeBlobReply .. | .admin _ => none

theorem step_sealed (lib : Libraries) (g : Gateway) (event : Event) : (g.step lib event).sealed = g.sealed ∨
    ∃ answer, event.nonce = some answer.header.nonce ∧ (g.step lib event).sealed = answer :: g.sealed := by
  cases event with
  | frame inputs raw =>
    rcases processFrame_outcome lib inputs raw g with same | ⟨decoded, decodes, outcome⟩
    · exact .inl (congrArg Gateway.sealed same)
    have own : (Event.frame inputs raw).nonce = some decoded.header.nonce := by
      rw [Event.nonce, decodes]
      rfl
    cases outcome with
    | silent _ within => exact .inl within.1
    | accepted _ _ _ accepted => exact .inl accepted.1
    | peerAck _ _ _ sealed | diagReply _ _ _ _ _ _ sealed => exact .inr ⟨_, own, sealed⟩
    | command _ _ _ _ _ _ response _ sealed | answer _ _ _ _ _ _ _ _ _ response _ sealed =>
      exact .inr ⟨_, own.trans (congrArg some response.2.symm), sealed⟩
  | wakeBlobReply inputs index => exact .inl (wakeBlobReply_fixes (fun _ _ _ _ => rfl) lib inputs index g)
  | admin action => exact .inl rfl

/-- No frame of the gateway is unsolicited: it answers frames in their order, each at most once and with its nonce. -/
theorem run_answers_received (lib : Libraries) (g : Gateway) (events : List Event) :
    ∃ answers : List Sealed, (g.run lib events).sealed = answers.reverse ++ g.sealed ∧
      (answers.map (·.header.nonce)).Sublist (events.filterMap Event.nonce) := by
  induction events generalizing g with
  | nil => exact ⟨[], rfl, .slnil⟩
  | cons event events ih =>
    obtain ⟨answers, sealed, received⟩ := ih (g.step lib event)
    change (g.run lib (event :: events)).sealed = _ at sealed
    rcases step_sealed lib g event with same | ⟨answer, own, added⟩
    · rw [same] at sealed
      refine ⟨answers, sealed, received.trans ?_⟩
      exact (List.sublist_cons_self event events).filterMap _
    · rw [added] at sealed
      refine ⟨answer :: answers, by simpa using sealed, ?_⟩
      rw [List.filterMap_cons, own]
      exact received.cons_cons _

end Sonde.Engine
