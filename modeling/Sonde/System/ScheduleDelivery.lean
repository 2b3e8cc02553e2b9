import Sonde.Gateway.Attribution
import Sonde.Gateway.CommandQueue
import Sonde.Lib.Run
import Sonde.Node.Installation

/-!
# The way of a schedule to the node

`set_schedule_impl` and `apply_node_desired_state` write the interval that a node should have into its record, and an
UPDATE_SCHEDULE into its queue. `select_command` takes it out for one COMMAND. The queue does not survive a restart of the
gateway, and nothing brings the interval back into it.
-/

namespace Sonde.System
open Lib Lib.Program Protocol Gateway Engine Node PendingCommand GatewayMessage

/-! ## The node -/

section
variable {τ ε α : Type} {platform : Platform τ} {provider : Provider} {reader : Cbor.Reader}
  {interpreter : BpfInterpreter (Host τ)} {space : AddressSpace} {board : BoardLayout} {identity : NodeIdentity}

def interval (device : Device τ) : Nat := device.storage.scheduleInterval

theorem still_interval {m : Program (Device τ) ε α} (fixed : Fixes Device.still m) : Fixes interval m :=
  fixed.comp Still.scheduleInterval

theorem transferProgram_interval (isEphemeral : Bool) (expectedHash : Bytes) (programSize chunkSize chunkCount : Nat) :
    Fixes interval (transferProgram platform provider reader board identity isEphemeral expectedHash programSize chunkSize
      chunkCount) := by
  refine .bind (still_interval (setQueue_still _)) fun _ => .bind (.read _) fun budget =>
    .bind (.attempt ?_) fun result => ?_
  · refine .bind (still_interval (onRadio_still _)) fun imageBytes => .bind ?_ fun program =>
      .bind (still_interval (onRadio_still _)) fun _ => .pure _
    exact .ite (.ofExcept _) ((installResident_spares _ _ _).comp Prod.fst)
  cases result with
  | error e => exact still_interval captureBatteryThenSleep_quiet.still
  | ok program => exact .bind (.onlyIf (still_interval (setSleepMgr_quiet _).still)) fun _ => .pure _

def Stores (platform : Platform τ) (command : Command) (device : Device τ) (intervalS : Nat) : Prop :=
  command.payload = .updateSchedule intervalS ∧
    (platform.fails .writeScheduleInterval (platform.elapsedMs device.host.radio.world).2).1 = false

theorem dispatchCommand_interval (command : CommandPayload) (device : Device τ) :
    interval (dispatchCommand platform provider reader board identity command device).2 =
      match command with
      | .updateSchedule intervalS =>
        if (platform.fails .writeScheduleInterval device.host.radio.world).1 then interval device else intervalS
      | _ => interval device := by
  cases command with
  | nop => exact Fixes.bind (still_interval drainQueue_still) (fun _ => Fixes.pure _) device
  | reboot => rfl
  | updateSchedule intervalS =>
    simp only [dispatchCommand, writeScheduleInterval, writeStorage, Program.attempt, bind_run, ask]
    cases (platform.fails .writeScheduleInterval device.host.radio.world).1 <;> rfl
  | updateProgram programHash programSize chunkSize chunkCount =>
    exact Fixes.bind (transferProgram_interval _ _ _ _ _) (fun _ => Fixes.pure _) device
  | runEphemeral programHash programSize chunkSize chunkCount =>
    exact Fixes.bind (transferProgram_interval _ _ _ _ _) (fun _ => Fixes.pure _) device

theorem obeyCommand_interval (accepted : Accepted) (device : Device τ) :
    (∀ intervalS, Stores platform accepted.command device intervalS →
      interval (obeyCommand platform provider reader interpreter space board accepted device).2 = intervalS) ∧
    ((∀ intervalS, ¬Stores platform accepted.command device intervalS) →
      interval (obeyCommand platform provider reader interpreter space board accepted device).2 = interval device) := by
  let heard : Device τ := (acceptCommand space accepted.command device).2
  let timed : Device τ := (ask platform.elapsedMs heard : Except Exit Nat × Device τ).2
  have executes : interval (obeyCommand platform provider reader interpreter space board accepted device).2 =
      interval (dispatchCommand platform provider reader board accepted.identity accepted.command.payload timed).2 :=
    Fixes.after (fun _ => (executeAndSleep_orders _ _ _ _).comp Prod.fst) timed
  rw [executes, dispatchCommand_interval]
  refine ⟨fun intervalS stores => ?_, fun unstored => ?_⟩
  · rw [stores.1]
    exact if_neg (by rw [show (platform.fails _ timed.host.radio.world).1 = false from stores.2]; decide)
  · cases payload : accepted.command.payload with
    | updateSchedule intervalS =>
      exact if_pos (Bool.not_eq_false _ |>.mp fun works => unstored intervalS ⟨payload, works⟩)
    | _ => rfl

end

/-! ## The gateway -/

def Wants (nodeId : String) (identity : NodeIdentity) (desired : Option Nat) (g : Gateway) : Prop :=
  ∃ node, g.nodes.lookup nodeId = some node ∧ node.nodeId = nodeId ∧ (⟨node.keyHint, node.psk⟩ : NodeIdentity) = identity ∧
    node.desiredScheduleIntervalS = desired

variable {intervalS : Nat}

section
variable {lib : Libraries} {inputs : Engine.Inputs} {nodeId : String} {identity : NodeIdentity} {desired : Option Nat}
  {node : NodeRecord} {header : FrameHeader} {payload : Bytes} {α : Type} {g : Gateway}

theorem wokenRecord_row (inputs : Engine.Inputs) (node : NodeRecord) (wake : WakeFields) (row : NodeRecord) :
    (wokenRecord inputs node wake row).nodeId = row.nodeId ∧ (wokenRecord inputs node wake row).keyHint = row.keyHint ∧
      (wokenRecord inputs node wake row).psk = row.psk ∧
      (wokenRecord inputs node wake row).desiredScheduleIntervalS = row.desiredScheduleIntervalS := by
  unfold wokenRecord reconcileCurrentProgramHash
  dsimp only
  repeat' split
  all_goals exact ⟨rfl, rfl, rfl, rfl⟩

theorem handleWake_wants (wants : Wants nodeId identity desired g) :
    Wants nodeId identity desired (handleWake lib inputs node header payload g).2 := by
  rcases handleWake_final lib inputs node header payload g with
    unchanged | ⟨wake, command, t, opened, _, _, _, _, after, -⟩
  · rwa [unchanged]
  have nodes : t.nodes = g.nodes := by rcases opened with rfl | ⟨_, _, -, rfl⟩ <;> rfl
  obtain ⟨row, found, id, key, wanted⟩ := wants
  rw [after]
  by_cases here : nodeId = node.nodeId
  · subst here
    obtain ⟨sameId, sameHint, samePsk, sameInterval⟩ := wokenRecord_row inputs node wake row
    refine ⟨wokenRecord inputs node wake row, by simp [nodes, found], sameId.trans id, ?_, sameInterval.trans wanted⟩
    rw [sameHint, samePsk]
    exact key
  · exact ⟨row, by simp [Table.lookup_update, nodes, here, found], id, key, wanted⟩

variable (nodeId identity desired node) in
def Snapshot : Prop :=
  node.nodeId = nodeId ∧ (⟨node.keyHint, node.psk⟩ : NodeIdentity) = identity ∧ node.desiredScheduleIntervalS = desired

theorem handlePostWake_wants (snapshot : Snapshot nodeId identity desired node) (wants : Wants nodeId identity desired g) :
    Wants nodeId identity desired (handlePostWake lib inputs node header payload g).2 := by
  rcases handlePostWake_cases lib inputs node header payload g with ⟨-, refused⟩ | ⟨-, message, session, -, -, -, -, outcome⟩
  · rcases refused with unchanged | ⟨session, -, -, removed⟩
    · rwa [unchanged]
    · rw [removed]
      exact wants
  generalize (handlePostWake lib inputs node header payload g).2 = g' at outcome
  cases outcome with
  | replies => exact wants
  | confirms programHash =>
    obtain ⟨id, key, wanted⟩ := snapshot
    cases inputs.fault .confirmProgram with
    | true => exact wants
    | false =>
      exact ⟨{ node with currentProgramHash := some programHash }, by rw [← id]; exact AList.lookup_insert _, id, key, wanted⟩

theorem selectFrom_schedule {ephemeral assigned : Bytes → Option ProgramRecord} {assignedHash : Option Bytes}
    {nodeProgramHash : Bytes} {abi : Nat} {cmds : List PendingCommand}
    (queued : updateSchedule intervalS ∈ cmds) :
    updateSchedule intervalS ∈ (selectFrom ephemeral assigned assignedHash nodeProgramHash abi cmds).2 ∨
      (selectFrom ephemeral assigned assignedHash nodeProgramHash abi cmds).1 = .updateSchedule intervalS := by
  have kept : updateSchedule intervalS ∈ (selectEphemeral ephemeral abi cmds).2 := by
    have count := selectEphemeral_countP (p := (· = .updateSchedule intervalS)) ephemeral abi cmds fun _ => rfl
    have some : 0 < cmds.countP (· = .updateSchedule intervalS) := List.countP_pos_iff.mpr ⟨_, queued, by simp⟩
    rw [← count] at some
    obtain ⟨command, member, same⟩ := List.countP_pos_iff.mp some
    exact of_decide_eq_true same ▸ member
  unfold selectFrom
  cases run : selectEphemeral ephemeral abi cmds with
  | mk result later =>
    rw [run] at kept
    cases result with
    | some command => exact .inl kept
    | none =>
      cases selectUpdate assigned assignedHash nodeProgramHash abi with
      | some command => exact .inl kept
      | none =>
        have delivers := (selectQueued_delivers ephemeral abi later).1.schedules
        have among : intervalS ∈ schedules later := List.mem_filterMap.mpr ⟨_, kept, rfl⟩
        rw [delivers, List.mem_append] at among
        rcases among with sent | stays
        · refine .inr ?_
          cases command : (selectQueued later).1 <;> simp [command, scheduleOf] at sent
          rw [sent]
        · obtain ⟨command, member, same⟩ := List.mem_filterMap.mp stays
          cases command <;> simp [scheduleInterval] at same
          exact .inl (same ▸ member)

variable (queued : updateSchedule intervalS ∈ g.pendingCommands node.nodeId)

include queued in
theorem handleWake_schedule :
    updateSchedule intervalS ∈ (handleWake lib inputs node header payload g).2.pendingCommands node.nodeId ∨
      ∃ raw nonce, (handleWake lib inputs node header payload g).1 = .ok raw ∧
        Carries lib (rowCore node) nonce raw (.updateSchedule intervalS) none := by
  rcases handleWake_cases lib inputs node header payload g with stops | ⟨wake, seq, command, t, decodes, choice⟩
  · rw [stops]
    exact .inl queued
  obtain ⟨picked, queue, -⟩ := wakeCommand_chosen choice
  obtain ⟨_, _, _, _, after, -⟩ := handleWake_state decodes choice
  have stays : updateSchedule intervalS ∈ (chosen inputs node header.nonce wake g).2 ∨
      (chosen inputs node header.nonce wake g).1 = .updateSchedule intervalS := by
    unfold chosen
    split
    · exact .inl queued
    · exact selectFrom_schedule queued
  rw [after, queue]
  refine stays.imp_right fun sent => ?_
  obtain rfl : command = .updateSchedule intervalS := picked.trans sent
  have fits := (schedule_length seq (BitVec.ofNat 64 inputs.timestampMs) intervalS none).trans
    (show 35 ≤ maxPayloadSize by decide)
  obtain ⟨raw, sealed⟩ : ∃ raw, encodeFrame lib.provider ⟨node.keyHint, msgCommand, header.nonce⟩
      (command seq (BitVec.ofNat 64 inputs.timestampMs) (.updateSchedule intervalS) none).encode
      node.psk = .ok raw := ⟨_, encodeFrame_ok.mpr ⟨fits, rfl⟩⟩
  refine ⟨raw, header.nonce, ?_, seq, _, sealed⟩
  rw [handleWake_answers decodes choice, if_neg nofun, sealed]
  rfl

theorem handleAs_wants (snapshot : Snapshot nodeId identity desired node) :
    Keeps (Wants nodeId identity desired) (handleAs lib inputs node header payload) fun _ => True :=
  .ite (fun _ _ wants => ⟨handleWake_wants wants, fun _ _ => trivial⟩) fun _ =>
    .ite (fun _ _ wants => ⟨handlePostWake_wants snapshot wants, fun _ _ => trivial⟩) fun _ => .stop

include queued in
theorem handleAs_schedule :
    updateSchedule intervalS ∈ (handleAs lib inputs node header payload g).2.pendingCommands node.nodeId ∨
      ∃ raw nonce, (handleAs lib inputs node header payload g).1 = .ok raw ∧
        Carries lib (rowCore node) nonce raw (.updateSchedule intervalS) none := by
  unfold handleAs
  split
  · exact handleWake_schedule queued
  split
  · have kept : Fixes Gateway.pendingCommands (handlePostWake lib inputs node header payload) :=
      handlePostWake_fixes (fun _ _ _ _ _ _ => rfl) _ _ _ _ _
    rw [kept g]
    exact .inl queued
  · exact .inl queued

end

def Owes (nodeId : String) (identity : NodeIdentity) (covered : Nat → Prop) (g : Gateway) : Prop :=
  ∃ desired, Wants nodeId identity desired g ∧ ∀ intervalS, desired = some intervalS →
    covered intervalS ∨ updateSchedule intervalS ∈ g.pendingCommands nodeId

section
variable {nodeId : String} {identity : NodeIdentity} {desired : Option Nat} {queue : List PendingCommand}
  {covered : Nat → Prop} {ε α : Type} {Q : α → Prop}

variable (nodeId identity desired queue) in
def WantsWith (g : Gateway) : Prop :=
  Wants nodeId identity desired g ∧ ∀ command ∈ queue, command ∈ g.pendingCommands nodeId

def recordsAndQueues (g : Gateway) : Table String NodeRecord × (String → List PendingCommand) := (g.nodes, g.pendingCommands)

theorem wantsWith_keeps {call : Program Gateway ε α} (fixed : Fixes recordsAndQueues call) :
    Keeps (WantsWith nodeId identity desired queue) call fun _ => True := by
  refine fun g wants => ⟨?_, fun _ _ => trivial⟩
  unfold WantsWith Wants
  rw [show (call g).2.nodes = g.nodes from congrArg Prod.fst (fixed g),
    show (call g).2.pendingCommands = g.pendingCommands from congrArg Prod.snd (fixed g)]
  exact wants

theorem getNode_wants (faults : AdminFaults) (failed : StorageError → ε) (missing : ε) :
    (Engine.getNode faults failed missing nodeId).Keeps (WantsWith nodeId identity desired queue)
      (Snapshot nodeId identity desired) := by
  refine .bind (storageCall_keeps fun g wants => ⟨wants, ?_⟩) fun found => foundOr_keeps
  intro found same node present
  obtain ⟨⟨row, stored, snapshot⟩, -⟩ := wants
  cases same
  cases stored.symm.trans present
  exact snapshot

theorem editPending_wants (holds : Option String) (added : PendingCommand) :
    (Task.atomic ⟨holds, .other⟩ (editPending nodeId (· ++ [added])) : Task Gateway Label ε Unit).Keeps
      (WantsWith nodeId identity desired queue) fun _ => True := by
  refine .atomic (.change fun g wants => ⟨wants.1, fun command member => ?_⟩)
  simp only [Function.update_self, List.mem_append]
  exact .inl (wants.2 command member)

theorem setScheduleImpl_cases (faults : AdminFaults) (intervalS : Nat) (g : Gateway) :
    ((setScheduleImpl faults nodeId intervalS).alone g).2 = g ∨
      ∃ node, g.nodes.lookup nodeId = some node ∧ ((setScheduleImpl faults nodeId intervalS).alone g).2 = { g with
        nodes := g.nodes.insert node.nodeId
          { node with desiredScheduleIntervalS := some intervalS, scheduleIntervalS := intervalS }
        pendingCommands := Function.update g.pendingCommands nodeId ((g.pendingCommands nodeId).filter
          (fun c => (scheduleInterval c).isNone) ++ [.updateSchedule intervalS]) } := by
  unfold setScheduleImpl Engine.getNode storageCall
  cases faults .getNode with
  | some e => exact .inl rfl
  | none =>
    change (((foundOr _ (g.nodes.lookup nodeId) >>= fun node => _ : AdminTask Unit)).alone g).2 = g ∨
      ∃ node, _ ∧ (((foundOr _ (g.nodes.lookup nodeId) >>= fun node => _ : AdminTask Unit)).alone g).2 = _
    cases g.nodes.lookup nodeId with
    | none => exact .inl rfl
    | some node =>
      cases faults .upsertNode with
      | some e => exact .inl rfl
      | none => exact .inr ⟨node, rfl, rfl⟩

variable {g : Gateway}

theorem Owes.of_wantsWith (wants : WantsWith nodeId identity desired queue g)
    (owes : ∀ intervalS, desired = some intervalS → covered intervalS ∨ updateSchedule intervalS ∈ queue) :
    Owes nodeId identity covered g :=
  ⟨desired, wants.1, fun intervalS same => (owes intervalS same).imp_right (wants.2 _)⟩

theorem setSchedule_owes {faults : AdminFaults} (owes : Owes nodeId identity covered g) :
    Owes nodeId identity covered ((setScheduleImpl faults nodeId intervalS).alone g).2 := by
  rcases setScheduleImpl_cases faults intervalS g with same | ⟨node, found, written⟩
  · rwa [same]
  · obtain ⟨desired, ⟨row, stored, id, key, wants⟩, -⟩ := owes
    cases stored.symm.trans found
    rw [written]
    refine ⟨some intervalS, ⟨{ node with desiredScheduleIntervalS := some intervalS, scheduleIntervalS := intervalS }, ?_, id,
      key, rfl⟩, fun other same => .inr ?_⟩
    · rw [← id]
      exact AList.lookup_insert _
    · cases same
      simp

theorem applyNodeDesiredState_owes {lib : ConnectorLibraries} {faults : AdminFaults} {desiredState : DesiredState}
    (owes : Owes nodeId identity covered g) :
    Owes nodeId identity covered ((applyNodeDesiredState lib faults nodeId desiredState).alone g).2 := by
  obtain ⟨written, stored, outcome⟩ := applyNodeDesiredState_cases lib faults nodeId desiredState g
  have same : written.nodes = g.nodes ∧ written.pendingCommands = g.pendingCommands := by
    rcases stored with rfl | ⟨record, rfl⟩
    · exact ⟨rfl, rfl⟩
    · exact ⟨rfl, rfl⟩
  rcases outcome with ⟨node, request, loads, -, run⟩ | ⟨e, run⟩
  · rw [run]
    obtain ⟨desired, ⟨row, found, id, key, wants⟩, -⟩ := owes
    cases found.symm.trans loads.2.2
    refine ⟨request.scheduleIntervalS, ⟨desiredRecord node request.assignedProgramHash request.scheduleIntervalS, ?_, ?_, ?_, ?_⟩,
      fun intervalS wanted => .inr ?_⟩
    · rw [← (desiredRecord_nodeId node request.assignedProgramHash request.scheduleIntervalS).trans id]
      exact AList.lookup_insert _
    · cases request.scheduleIntervalS <;> exact id
    · cases request.scheduleIntervalS <;> exact key
    · cases request.scheduleIntervalS <;> rfl
    · simp [Gateway.withRequest, desiredQueue, wanted]
  · rw [run]
    unfold Owes Wants
    rw [same.1, same.2]
    exact owes

theorem Setting.call_owes (lib : Libraries) (setting : Setting) (owes : Owes nodeId identity covered g) :
    Owes nodeId identity covered ((setting.call nodeId).run lib g) := by
  have kept {ε : Type} {t : Task Gateway Label ε Unit}
      (keeps : ∀ desired queue, t.Keeps (WantsWith nodeId identity desired queue) fun _ => True) :
      Owes nodeId identity covered (t.alone g).2 := by
    obtain ⟨desired, wants, covers⟩ := owes
    exact .of_wantsWith (Task.Keeps.alone (keeps desired (g.pendingCommands nodeId)) ⟨wants, fun _ member => member⟩) covers
  cases setting with
  | assignProgram faults programHash =>
    refine kept fun desired queue => .bind (fun _ _ => trivial) fun _ _ =>
      .bind (getNode_wants _ _ _) fun node snapshot => ?_
    refine .bind (storageCall_keeps (wantsWith_keeps (.read _))) fun _ _ =>
      .bind (foundOr_keeps fun _ _ => trivial) fun _ _ => ?_
    refine storageCall_keeps (.change fun g wants => ⟨?_, wants.2⟩)
    exact ⟨{ node with assignedProgramHash := some programHash }, by rw [← snapshot.1]; exact AList.lookup_insert _, snapshot⟩
  | setSchedule faults intervalS => exact setSchedule_owes owes
  | applyNodeDesiredState connector faults desiredState => exact applyNodeDesiredState_owes owes
  | queueReboot faults =>
    exact kept fun desired queue => .bind (getNode_wants _ _ _) fun _ _ => editPending_wants _ _
  | queueEphemeral faults programHash =>
    refine kept fun desired queue => .bind (fun _ _ => trivial) fun _ _ => .bind (getNode_wants _ _ _) fun _ _ => ?_
    refine .bind (storageCall_keeps (wantsWith_keeps (.read _))) fun _ _ =>
      .bind (foundOr_keeps fun _ _ => trivial) fun _ _ => ?_
    exact .ite (fun _ => .stop) fun _ => editPending_wants _ _
  | ingestProgram connector faults imageData profile abiVersion sourceFilename =>
    refine kept fun desired queue => .ite (fun _ => .stop) fun _ => ?_
    exact .bind (fun _ _ => trivial) fun _ _ => storageCall_keeps (wantsWith_keeps fun _ => rfl)
  | wakeBlobReply inputs index =>
    have fixed : Fixes recordsAndQueues
        (.update fun g => g.step lib (.wakeBlobReply inputs index) : Processing Unit) :=
      .update fun g => wakeBlobReply_fixes (fun _ _ _ _ => rfl) lib inputs index g
    obtain ⟨desired, wants, covers⟩ := owes
    exact .of_wantsWith (wantsWith_keeps fixed g ⟨wants, fun _ member => member⟩).1 covers

end

/-! ## Both -/

structure Pair (τ : Type) where
  gateway : Gateway
  device : Device τ
  air : List Bytes

/-- A frame of the node reaches the gateway; the operator sets something; the gateway restarts; an answer is lost. In
`waits` and `hears`, the node runs up to its COMMAND and, if it gets one for its nonce, on from there. -/
inductive PairEvent (τ : Type) where
  | frame (inputs : Engine.Inputs) (raw : Bytes) (decoded : DecodedFrame) (payload : Bytes)
  | configure (setting : Setting)
  | restart
  | lost (index : Nat)
  | waits (platform : Platform τ)
  | hears (platform : Platform τ) (nonce : BitVec 64) (programHash : Bytes) (residentImage : Option Bytes) (index : Nat)

open PairEvent

def restarted (g : Gateway) : Gateway :=
  { g with
    sessionManager := { g.sessionManager with sessions := fun _ => none }
    pendingCommands := fun _ => []
    deferredReplies := fun _ => none
    wakeBlobTasks := [] }

section
variable {τ : Type} (lib : Libraries) (reader : Cbor.Reader) (interpreter : BpfInterpreter (Host τ)) (space : AddressSpace)
  (board : BoardLayout) (nodeId : String)

def accepts (device : Device τ) (nonce : BitVec 64) (programHash : Bytes) (residentImage : Option Bytes) (raw : Bytes) :
    Option Accepted :=
  device.storage.key.bind fun identity =>
    (verifyAndDecodeCommand lib.provider reader identity raw nonce).toOption.map fun command =>
      ⟨identity, programHash, residentImage, command⟩

def PairEvent.step (s : Pair τ) : PairEvent τ → Pair τ
  | .frame inputs raw _ _ =>
    let (response, gateway) := processFrame lib inputs raw s.gateway
    { s with gateway, air := s.air ++ response.toOption.toList }
  | .configure setting => { s with gateway := (setting.call nodeId).run lib s.gateway }
  | .restart => { s with gateway := restarted s.gateway }
  | .lost index => { s with air := s.air.eraseIdx index }
  | .waits platform => { s with device := (awaitCommand platform lib.provider reader s.device).2 }
  | .hears platform nonce programHash residentImage index =>
    let device := match s.air[index]?.bind (accepts lib reader s.device nonce programHash residentImage) with
      | some accepted => (obeyCommand platform lib.provider reader interpreter space board accepted s.device).2
      | none => s.device
    { s with device, air := s.air.eraseIdx index }

def OnAir (identity : NodeIdentity) (air : List Bytes) (intervalS : Nat) : Prop :=
  ∃ raw ∈ air, ∃ nonce startingSeq timestampMs, encodeFrame lib.provider ⟨identity.keyHint, msgCommand, nonce⟩
    (command startingSeq timestampMs (.updateSchedule intervalS) none).encode identity.psk = .ok raw

def Desires (s : Pair τ) (identity : NodeIdentity) (intervalS : Nat) : Prop :=
  ∃ node, s.gateway.nodes.lookup nodeId = some node ∧ (⟨node.keyHint, node.psk⟩ : NodeIdentity) = identity ∧
    node.desiredScheduleIntervalS = some intervalS

def Queued (s : Pair τ) (intervalS : Nat) : Prop := updateSchedule intervalS ∈ s.gateway.pendingCommands nodeId

def Reflected (s : Pair τ) : Prop :=
  ∀ identity intervalS, Desires nodeId s identity intervalS →
    interval s.device = intervalS ∨ Queued nodeId s intervalS ∨ OnAir lib identity s.air intervalS

def Told (s : Pair τ) (platform : Platform τ) (nonce : BitVec 64) (index intervalS : Nat) : Prop :=
  ∃ raw identity command, s.air[index]? = some raw ∧ s.device.storage.key = some identity ∧
    verifyAndDecodeCommand lib.provider reader identity raw nonce = .ok command ∧ Stores platform command s.device intervalS

def PairEvent.Spares (s : Pair τ) : PairEvent τ → Prop
  | .frame .. | .configure _ | .waits _ => True
  | .restart => ∀ identity intervalS, Desires nodeId s identity intervalS →
      interval s.device = intervalS ∨ OnAir lib identity s.air intervalS
  | .lost index => ∀ identity intervalS, Desires nodeId s identity intervalS →
      interval s.device = intervalS ∨ Queued nodeId s intervalS ∨ OnAir lib identity (s.air.eraseIdx index) intervalS
  | .hears platform nonce _ _ index => ∀ identity intervalS, Desires nodeId s identity intervalS →
      Queued nodeId s intervalS ∨ OnAir lib identity (s.air.eraseIdx index) intervalS ∨
      Told lib reader s platform nonce index intervalS ∨
      (interval s.device = intervalS ∧ ∀ other, ¬Told lib reader s platform nonce index other)

def PairEvent.Genuine (s : Pair τ) : PairEvent τ → Prop
  | .frame _ raw decoded payload =>
    (decodeFrame raw = .ok decoded ∧ decoded.header.msgType ≠ msgPeerRequest ∧ decoded.header.msgType ≠ msgDiagRequest) ∧
    ∃ node, node.nodeId = nodeId ∧ Sends lib decoded node payload s.gateway
  | _ => True

end

section
variable {τ : Type} {lib : Libraries} {reader : Cbor.Reader} {interpreter : BpfInterpreter (Host τ)} {space : AddressSpace}
  {board : BoardLayout} {nodeId : String} {identity : NodeIdentity} {desired : Option Nat} {s : Pair τ}

theorem desires_iff (wants : Wants nodeId identity desired s.gateway) {other : NodeIdentity} :
    Desires nodeId s other intervalS ↔ other = identity ∧ desired = some intervalS := by
  obtain ⟨node, found, -, rfl, rfl⟩ := wants
  constructor
  · rintro ⟨row, stored, rfl, wanted⟩
    cases found.symm.trans stored
    exact ⟨rfl, wanted⟩
  · rintro ⟨rfl, wanted⟩
    exact ⟨node, found, rfl, wanted⟩

theorem OnAir.append {air more : List Bytes} (onAir : OnAir lib identity air intervalS) :
    OnAir lib identity (air ++ more) intervalS := by
  obtain ⟨raw, member, sealed⟩ := onAir
  exact ⟨raw, List.mem_append_left _ member, sealed⟩

variable (lib identity s) in
def Covered (intervalS : Nat) : Prop := interval s.device = intervalS ∨ OnAir lib identity s.air intervalS

theorem reflected_iff (wants : Wants nodeId identity desired s.gateway) :
    Reflected lib nodeId s ↔ ∀ intervalS, desired = some intervalS → Covered lib identity s intervalS ∨ Queued nodeId s intervalS := by
  constructor
  · intro reflected intervalS wanted
    rcases reflected identity intervalS ((desires_iff wants).mpr ⟨rfl, wanted⟩) with same | queued | onAir
    exacts [.inl (.inl same), .inr queued, .inl (.inr onAir)]
  · intro covers other intervalS desires
    obtain ⟨rfl, wanted⟩ := (desires_iff wants).mp desires
    rcases covers intervalS wanted with (same | onAir) | queued
    exacts [.inl same, .inr (.inr onAir), .inr (.inl queued)]

theorem Owes.reflected (owes : Owes nodeId identity (Covered lib identity s) s.gateway) : Reflected lib nodeId s := by
  obtain ⟨desired, wants, covers⟩ := owes
  exact (reflected_iff wants).mpr covers

theorem frame_owes {inputs : Engine.Inputs} {raw payload : Bytes} {decoded : DecodedFrame}
    (genuine : (frame inputs raw decoded payload : PairEvent τ).Genuine lib nodeId s)
    (wants : Wants nodeId identity desired s.gateway) (reflected : Reflected lib nodeId s) :
    Owes nodeId identity (Covered lib identity { s with
      gateway := (processFrame lib inputs raw s.gateway).2
      air := s.air ++ (processFrame lib inputs raw s.gateway).1.toOption.toList }) (processFrame lib inputs raw s.gateway).2 := by
  obtain ⟨⟨decodes, fromNode⟩, node, rfl, sends⟩ := genuine
  have covers := (reflected_iff wants).mp reflected
  cases answered : inputs.fault .nodesByKeyHint with
  | true =>
    rw [sends.processFrame_faulty decodes fromNode answered]
    exact ⟨desired, wants, fun intervalS wanted => (covers intervalS wanted).imp_left (Or.imp_right .append)⟩
  | false =>
    have snapshot : Snapshot node.nodeId identity desired node := by
      obtain ⟨row, found, id, key, wanted⟩ := wants
      cases sends.registered.symm.trans found
      exact ⟨id, key, wanted⟩
    rw [sends.processFrame_handleAs decodes fromNode answered]
    refine ⟨desired, (handleAs_wants snapshot _ wants).1, fun intervalS wanted => ?_⟩
    rcases covers intervalS wanted with (same | onAir) | queued
    · exact .inl (.inl same)
    · exact .inl (.inr onAir.append)
    · rcases handleAs_schedule queued with stays | ⟨answer, nonce, sent, carries⟩
      · exact .inr stays
      · refine .inl (.inr ⟨answer, List.mem_append_right _ ?_, nonce, ?_⟩)
        · rw [sent]
          exact List.mem_singleton_self _
        · obtain ⟨-, rfl, -⟩ := snapshot
          exact carries

theorem Stores.unique {platform : Platform τ} {command : Command} {device : Device τ} {other : Nat}
    (stores : Stores platform command device intervalS) (stores' : Stores platform command device other) :
    intervalS = other := by
  cases stores.1.symm.trans stores'.1
  rfl

theorem hears_interval (platform : Platform τ) (nonce : BitVec 64) (programHash : Bytes) (residentImage : Option Bytes)
    (index intervalS : Nat) :
    interval ((hears platform nonce programHash residentImage index).step lib reader interpreter space board nodeId
        s).device = intervalS ↔ Told lib reader s platform nonce index intervalS ∨
        (interval s.device = intervalS ∧ ∀ other, ¬Told lib reader s platform nonce index other) := by
  have told : ∀ other, Told lib reader s platform nonce index other ↔
      ∃ accepted, s.air[index]?.bind (accepts lib reader s.device nonce programHash residentImage) = some accepted ∧
        Stores platform accepted.command s.device other := by
    intro other
    unfold Told accepts
    constructor
    · rintro ⟨raw, identity, command, onAir, paired, verified, stores⟩
      exact ⟨⟨identity, programHash, residentImage, command⟩, by simp [onAir, paired, verified, Except.toOption], stores⟩
    · rintro ⟨accepted, taken, stores⟩
      obtain ⟨raw, onAir, taken⟩ := Option.bind_eq_some_iff.mp taken
      obtain ⟨identity, paired, taken⟩ := Option.bind_eq_some_iff.mp taken
      obtain ⟨command, verified, rfl⟩ := Option.map_eq_some_iff.mp taken
      refine ⟨raw, identity, command, onAir, paired, ?_, stores⟩
      cases outcome : verifyAndDecodeCommand lib.provider reader identity raw nonce with
      | error e => simp [outcome, Except.toOption] at verified
      | ok decoded =>
        rw [outcome] at verified
        cases verified
        rfl
  unfold step
  simp only [told]
  cases s.air[index]?.bind (accepts lib reader s.device nonce programHash residentImage) with
  | none => simp
  | some accepted =>
    simp only [Option.some.injEq, exists_eq_left']
    obtain ⟨stored, kept⟩ : _ ∧ _ := obeyCommand_interval accepted s.device
    by_cases stores : ∃ other, Stores platform accepted.command s.device other
    · obtain ⟨other, stores⟩ := stores
      rw [stored other stores]
      constructor
      · rintro rfl
        exact .inl stores
      · rintro (stores' | ⟨-, never⟩)
        · exact stores.unique stores'
        · exact absurd stores (never other)
    · rw [not_exists] at stores
      rw [kept stores]
      constructor
      · exact fun same => .inr ⟨same, stores⟩
      · rintro (stores' | ⟨same, -⟩)
        · exact absurd stores' (stores intervalS)
        · exact same

theorem PairEvent.step_reflected {event : PairEvent τ} (genuine : event.Genuine lib nodeId s)
    (wants : ∃ desired, Wants nodeId identity desired s.gateway) (reflected : Reflected lib nodeId s) :
    (∃ desired, Wants nodeId identity desired (event.step lib reader interpreter space board nodeId s).gateway) ∧
      (Reflected lib nodeId (event.step lib reader interpreter space board nodeId s) ↔ event.Spares lib reader nodeId s) := by
  obtain ⟨desired, wants⟩ := wants
  cases event with
  | frame inputs raw decoded payload =>
    have owes := frame_owes genuine wants reflected
    refine ⟨?_, iff_of_true owes.reflected trivial⟩
    obtain ⟨desired', wants', -⟩ := owes
    exact ⟨desired', wants'⟩
  | configure setting =>
    have owes : Owes nodeId identity (Covered lib identity s) s.gateway := ⟨desired, wants, (reflected_iff wants).mp reflected⟩
    have owes' := Setting.call_owes lib setting owes
    refine ⟨?_, iff_of_true (Owes.reflected owes') trivial⟩
    obtain ⟨desired', wants', -⟩ := owes'
    exact ⟨desired', wants'⟩
  | restart =>
    refine ⟨⟨desired, wants⟩, forall_congr' fun other => forall_congr' fun intervalS => imp_congr Iff.rfl ?_⟩
    simp [step, Queued, restarted]
  | lost index => exact ⟨⟨desired, wants⟩, Iff.rfl⟩
  | waits platform =>
    refine ⟨⟨desired, wants⟩, iff_of_true (fun other intervalS desires => ?_) trivial⟩
    refine (reflected other intervalS desires).imp_left fun same => ?_
    exact (still_interval awaitCommand_still s.device).trans same
  | hears platform nonce programHash residentImage index =>
    refine ⟨⟨desired, wants⟩, forall_congr' fun other => forall_congr' fun intervalS => imp_congr Iff.rfl ?_⟩
    rw [hears_interval]
    tauto

theorem schedule_reflected_iff {events : List (PairEvent τ)} (wants : ∃ desired, Wants nodeId identity desired s.gateway)
    (reflected : Reflected lib nodeId s)
    (genuine : Throughout (PairEvent.step lib reader interpreter space board nodeId) (PairEvent.Genuine lib nodeId) s events) :
    Always (PairEvent.step lib reader interpreter space board nodeId) (Reflected lib nodeId) s events ↔
      Throughout (PairEvent.step lib reader interpreter space board nodeId) (PairEvent.Spares lib reader nodeId) s events := by
  refine always_iff_throughout (K := fun s => ∃ desired, Wants nodeId identity desired s.gateway) ?_ ?_ wants reflected genuine
  · exact fun s event known holds genuine => (event.step_reflected genuine known holds).1
  · exact fun s event known holds genuine => (event.step_reflected genuine known holds).2

end

def smallPair : Pair Script where
  gateway := smallGateway
  device :=
    let device := smallDevice [] ⟨[], []⟩
    { device with storage := { device.storage with scheduleInterval := 60 } }
  air := []

def smallStep : Pair Script → PairEvent Script → Pair Script :=
  step plainLib .definite (sondeBpfInterpreter smallSpace true) smallSpace smallBoard "n"

def smallRun (events : List (PairEvent Script)) : Pair Script := events.foldl smallStep smallPair

def rescheduled (last : PairEvent Script) : List (PairEvent Script) :=
  [.configure (.setSchedule noFaults 120), .frame smallInputs (smallWake 1) smallDecoded smallPayload, last]

theorem smallPair_wants : ∃ desired, Wants "n" ⟨0, 7⟩ desired smallPair.gateway := ⟨some 60, smallNode, rfl, rfl, rfl, rfl⟩

theorem smallPair_reflected : Reflected plainLib "n" smallPair := by
  rintro identity intervalS ⟨node, found, -, wanted⟩
  cases found
  cases wanted
  exact .inl rfl

theorem rescheduled_genuine (last : PairEvent Script) (genuine : ∀ s, last.Genuine plainLib "n" s) :
    Throughout smallStep (Genuine plainLib "n") smallPair (rescheduled last) := by
  have opens : openFrame plainProvider smallDecoded 7 = .ok smallPayload := rfl
  exact ⟨trivial, ⟨⟨rfl, by decide⟩, { smallNode with desiredScheduleIntervalS := some 120, scheduleIntervalS := 120 }, rfl,
    ⟨rfl, rfl, opens, sole_of_only rfl⟩⟩, genuine _, trivial⟩

theorem rescheduled_desires {identity : NodeIdentity} (last : PairEvent Script)
    (desires : Desires "n" (smallRun ((rescheduled last).take 2)) identity intervalS) :
    identity = ⟨0, 7⟩ ∧ intervalS = 120 := by
  have wants : Wants "n" ⟨0, 7⟩ (some 120) (smallRun ((rescheduled last).take 2)).gateway := ⟨_, rfl, rfl, rfl, rfl⟩
  obtain ⟨rfl, same⟩ := (desires_iff wants).mp desires
  exact ⟨rfl, (Option.some_inj.mp same).symm⟩

theorem schedule_reflected_heard :
    interval (smallRun (rescheduled (.hears scriptedPlatform 1 [9] none 0))).device = 120 ∧
      Always smallStep (Reflected plainLib "n") smallPair (rescheduled (.hears scriptedPlatform 1 [9] none 0)) := by
  refine ⟨by decide +kernel, (schedule_reflected_iff smallPair_wants smallPair_reflected
    (rescheduled_genuine (.hears scriptedPlatform 1 [9] none 0) fun _ => trivial)).mpr ⟨trivial, trivial, fun identity intervalS desires => ?_, trivial⟩⟩
  obtain ⟨rfl, rfl⟩ := rescheduled_desires (.hears scriptedPlatform 1 [9] none 0) desires
  exact .inr (.inr (.inl ⟨_, ⟨0, 7⟩, ⟨5, 1000, .updateSchedule 120, none⟩, rfl, rfl, rfl, rfl, rfl⟩))

theorem lost_schedule_unreflected :
    (∃ desired, Wants "n" ⟨0, 7⟩ desired smallPair.gateway) ∧ Reflected plainLib "n" smallPair ∧
      Throughout smallStep (PairEvent.Genuine plainLib "n") smallPair (rescheduled (.lost 0)) ∧
      ¬Reflected plainLib "n" (smallRun (rescheduled (.lost 0))) := by
  refine ⟨smallPair_wants, smallPair_reflected, rescheduled_genuine (.lost 0) fun _ => trivial, fun reflected => ?_⟩
  rcases reflected ⟨0, 7⟩ 120 ⟨_, rfl, rfl, rfl⟩ with same | queued | ⟨raw, member, -⟩
  · exact absurd same (by decide)
  · cases queued
  · cases member

end Sonde.System
