import Sonde.Gateway.DesiredState
import Sonde.Gateway.Forgetting
import Sonde.Gateway.Recovery

/-!
# Which program APP_DATA comes from

`handle_app_data_core` decodes, routes and emits the data of a node under the `current_program_hash` of its record, which
the PROGRAM_ACKs of resident and of ephemeral transfers write, and the reconciliation of a WAKE under a condition.
-/

namespace Sonde.Engine
open Lib Lib.Program Protocol Sonde.Gateway NodeMessage Option

/-! ## Runs of one node -/

inductive Setting where
  | assignProgram (faults : AdminFaults) (programHash : Bytes)
  | setSchedule (faults : AdminFaults) (intervalS : Nat)
  | applyNodeDesiredState (connector : ConnectorLibraries) (faults : AdminFaults) (desiredState : DesiredState)
  | queueReboot (faults : AdminFaults)
  | queueEphemeral (faults : AdminFaults) (programHash : Bytes)
  | ingestProgram (connector : ConnectorLibraries) (faults : AdminFaults) (imageData : Bytes)
      (profile : VerificationProfile) (abiVersion : Option Nat) (sourceFilename : Option String)
  | wakeBlobReply (inputs : Inputs) (index : Nat)

def Setting.call (nodeId : String) : Setting → Call
  | .assignProgram faults programHash => .assignProgram faults nodeId programHash
  | .setSchedule faults intervalS => .setSchedule faults nodeId intervalS
  | .applyNodeDesiredState connector faults desiredState => .applyNodeDesiredState connector faults nodeId desiredState
  | .queueReboot faults => .queueReboot faults nodeId
  | .queueEphemeral faults programHash => .queueEphemeral faults nodeId programHash
  | .ingestProgram connector faults imageData profile abiVersion sourceFilename =>
    .ingestProgram connector faults imageData profile abiVersion sourceFilename
  | .wakeBlobReply inputs index => .wakeBlobReply inputs index

inductive NodeEvent where
  | frame (inputs : Inputs) (raw : Bytes) (decoded : DecodedFrame) (payload : Bytes)
  | configure (setting : Setting)

open NodeEvent

section
variable (lib : Libraries) (inputs : Inputs) (node : NodeRecord) (header : FrameHeader) (payload : Bytes) (g : Gateway)

def reported : Option Bytes :=
  if header.msgType = msgWake then
    (decodeWake lib payload).bind fun wake =>
      match (wakeCommand inputs node header.nonce wake g).1 with
      | .ok _ => some wake.programHash
      | .error _ => none
  else none

def confirmed : Option Bytes :=
  if header.msgType = msgProgramAck then
    match decode lib.reader msgProgramAck payload, verifyAndAdvanceSeq inputs node.nodeId header.nonce g with
    | .ok (.programAck programHash), (.ok (), g') =>
      if (g'.sessionManager.getSession node.nodeId).any (acknowledges programHash) then some programHash else none
    | _, _ => none
  else none

def RecordsHash : Prop :=
  (∀ programHash, reported lib inputs node header payload g = some programHash →
    node.currentProgramHash = some programHash ∨
      (node.assignedProgramHash = some programHash ∧ inputs.fault .reconcile = false)) ∧
  ∀ programHash, confirmed lib inputs node header payload g = some programHash →
    node.currentProgramHash = some programHash ∨ inputs.fault .confirmProgram = false

end

section
variable (lib : Libraries) (nodeId : String)

structure Tracked where
  gateway : Gateway
  program : Option Bytes

def NodeEvent.Genuine (g : Gateway) : NodeEvent → Prop
  | .frame inputs raw decoded payload =>
    (decodeFrame raw = .ok decoded ∧ decoded.header.msgType ≠ msgPeerRequest ∧ decoded.header.msgType ≠ msgDiagRequest) ∧
    inputs.fault .nodesByKeyHint = false ∧ ∃ node, node.nodeId = nodeId ∧ Sends lib decoded node payload g
  | .configure _ => True

def NodeEvent.step (s : Tracked) : NodeEvent → Tracked
  | .frame inputs raw decoded payload =>
    ⟨(processFrame lib inputs raw s.gateway).2,
      match s.gateway.nodes.lookup nodeId with
      | none => s.program
      | some node =>
        ((reported lib inputs node decoded.header payload s.gateway).or
          (confirmed lib inputs node decoded.header payload s.gateway)).or s.program⟩
  | .configure setting => ⟨(setting.call nodeId).run lib s.gateway, s.program⟩

def NodeEvent.Records (g : Gateway) : NodeEvent → Prop
  | .frame inputs _ decoded payload =>
    ∀ node, g.nodes.lookup nodeId = some node → RecordsHash lib inputs node decoded.header payload g
  | .configure _ => True

def Along (P : Gateway → NodeEvent → Prop) (s : Tracked) : List NodeEvent → Prop
  | [] => True
  | event :: events => P s.gateway event ∧ Along P (event.step lib nodeId s) events

def tracked (s : Tracked) (events : List NodeEvent) : Tracked := events.foldl (fun s e => e.step lib nodeId s) s

/-- APP_DATA of the node that is accepted is decoded, routed and emitted under the hash of the session's program, also by the
`process_frame` that gets it. -/
def AppDataAttributed (s : Tracked) : Prop :=
  ∀ (inputs : Inputs) (header : FrameHeader) payload blob node, header.msgType = msgAppData →
    decode lib.reader msgAppData payload = .ok (.appData blob) → s.gateway.nodes.lookup nodeId = some node →
    (verifyAndAdvanceSeq inputs nodeId header.nonce s.gateway).1 = .ok () →
    ∃ programHash, s.program = some programHash ∧
      (handleAs lib inputs node header payload s.gateway).2.outputs =
        forwarded inputs nodeId header.nonce programHash blob s.gateway ∧
      ∀ raw ciphertext, Genuine lib nodeId s.gateway (.frame inputs raw ⟨header, ciphertext⟩ payload) →
        (processFrame lib inputs raw s.gateway).2.outputs = forwarded inputs nodeId header.nonce programHash blob s.gateway

end

def Names (nodeId : String) (assigned current : Option Bytes) (g : Gateway) : Prop :=
  ∃ row, g.nodes.lookup nodeId = some row ∧ row.nodeId = nodeId ∧ row.assignedProgramHash = assigned ∧
    row.currentProgramHash = current

def NamesInSession (nodeId : String) (assigned current : Option Bytes) (g : Gateway) : Prop :=
  (g.sessionManager.sessions nodeId).isSome ∧ Names nodeId assigned current g

variable {lib : Libraries} {inputs : Inputs} {node : NodeRecord} {header : FrameHeader} {payload : Bytes} {wake : WakeFields}
  {g : Gateway}

def reconciled (inputs : Inputs) (node : NodeRecord) (programHash : Bytes) : Option Bytes :=
  if node.assignedProgramHash = some programHash ∧ node.currentProgramHash ≠ some programHash ∧
      inputs.fault .reconcile = false then some programHash
  else node.currentProgramHash

theorem reconciled_iff (programHash : Bytes) : reconciled inputs node programHash = some programHash ↔
    node.currentProgramHash = some programHash ∨
      (node.assignedProgramHash = some programHash ∧ inputs.fault .reconcile = false) := by
  unfold reconciled
  split
  · rename_i fires
    exact iff_of_true rfl (.inr ⟨fires.1, fires.2.2⟩)
  · rename_i idle
    refine ⟨.inl, fun either => either.elim id fun writes => ?_⟩
    by_contra stale
    exact idle ⟨writes.1, stale, writes.2⟩

variable {t : Gateway}

theorem wokenRecord_current {record : NodeRecord} (wake : WakeFields)
    (assigned : record.assignedProgramHash = node.assignedProgramHash)
    (current : record.currentProgramHash = node.currentProgramHash) :
    (wokenRecord inputs node wake record).currentProgramHash = reconciled inputs node wake.programHash := by
  unfold wokenRecord reconciled
  by_cases fires : node.assignedProgramHash = some wake.programHash ∧ node.currentProgramHash ≠ some wake.programHash ∧
      inputs.fault .reconcile = false
  · simp only [if_pos fires, reconcileCurrentProgramHash]
    split <;> simp [assigned, fires.1]
  · simp only [if_neg fires]
    split <;> exact current

theorem handleWake_names {chosen : BitVec 64 × CommandPayload} (decodes : decodeWake lib payload = some wake)
    (choice : wakeCommand inputs node header.nonce wake g = (.ok chosen, t))
    (found : g.nodes.lookup node.nodeId = some node) :
    NamesInSession node.nodeId node.assignedProgramHash (reconciled inputs node wake.programHash)
      (handleWake lib inputs node header payload g).2 := by
  obtain ⟨-, -, ⟨session, live, -⟩, nodes, -⟩ := wakeCommand_chosen choice
  obtain ⟨_, _, _, _, after, -⟩ := handleWake_state decodes choice
  rw [after]
  refine ⟨by simp [transferred_sessions, live], wokenRecord inputs node wake node, by simp [nodes, found], ?_⟩
  have core := rowCore_woken inputs node wake node
  exact ⟨congrArg RowCore.nodeId core, congrArg RowCore.assignedProgramHash core, wokenRecord_current wake rfl rfl⟩

theorem handleWake_unreported (request : header.msgType = msgWake)
    (none : reported lib inputs node header payload g = none) : (handleWake lib inputs node header payload g).2 = g := by
  rcases handleWake_cases lib inputs node header payload g with stops | ⟨wake, seq, command, t, decodes, choice⟩
  · rw [stops]
  · simp [reported, request, decodes, choice] at none

/-! ## After WAKE -/

structure Steady (nodeId : String) (g g' : Gateway) : Prop where
  nodes : g'.nodes = g.nodes
  session : (g'.sessionManager.sessions nodeId).isSome → (g.sessionManager.sessions nodeId).isSome

variable {nodeId : String} {α : Type} {programHash : Bytes}

theorem decode_programAck {reader : Cbor.Reader} {msgType : BitVec 8}
    (decodes : decode reader msgType payload = .ok (.programAck programHash)) : msgType = msgProgramAck := by
  by_contra other
  obtain ⟨fields, -, decodes⟩ := bind_eq_ok.mp decodes
  rw [if_neg other] at decodes
  split_ifs at decodes <;> simp [bind_eq_ok] at decodes

theorem confirmed_iff : confirmed lib inputs node header payload g = some programHash ↔ header.msgType = msgProgramAck ∧
      decode lib.reader msgProgramAck payload = .ok (.programAck programHash) ∧
      ∃ t, verifyAndAdvanceSeq inputs node.nodeId header.nonce g = (.ok (), t) ∧
        (t.sessionManager.getSession node.nodeId).any (acknowledges programHash) = true := by
  constructor
  · intro confirms
    unfold confirmed at confirms
    split at confirms
    · rename_i request
      split at confirms
      · rename_i decodes run
        split at confirms
        · rename_i accepts
          cases confirms
          exact ⟨request, decodes, _, run, accepts⟩
        · cases confirms
      · cases confirms
    · cases confirms
  · rintro ⟨request, decodes, t, run, accepts⟩
    simp [confirmed, request, decodes, run, accepts]

theorem handlePostWake_steady (unconfirmed : confirmed lib inputs node header payload g = none) :
    Steady node.nodeId g (handlePostWake lib inputs node header payload g).2 := by
  rcases handlePostWake_cases lib inputs node header payload g with
    ⟨-, refused⟩ | ⟨-, message, session, decodes, found, -, run, outcome⟩
  · rcases refused with unchanged | ⟨session, found, -, removed⟩
    · rw [unchanged]
      exact ⟨rfl, id⟩
    · rw [removed]
      exact ⟨rfl, fun _ => isSome_of_eq_some found⟩
  · generalize (handlePostWake lib inputs node header payload g).2 = g' at outcome
    cases outcome with
    | replies => exact ⟨rfl, fun _ => isSome_of_eq_some found⟩
    | confirms programHash acks expected =>
      subst acks
      have request := decode_programAck decodes
      have confirms := confirmed_iff.mpr ⟨request, request ▸ decodes, _, run, by rw [advanced_here]; exact expected⟩
      rw [unconfirmed] at confirms
      cases confirms

theorem handlePostWake_confirms (confirms : confirmed lib inputs node header payload g = some programHash)
    (found : g.nodes.lookup node.nodeId = some node) : NamesInSession node.nodeId node.assignedProgramHash
      (if inputs.fault .confirmProgram then node.currentProgramHash else some programHash)
      (handlePostWake lib inputs node header payload g).2 := by
  obtain ⟨request, decodes, t, run, accepts⟩ := confirmed_iff.mp confirms
  rw [← request] at decodes
  rcases handlePostWake_cases lib inputs node header payload g with
    ⟨rejects, -⟩ | ⟨-, message, session, reads, -, -, verified, outcome⟩
  · exact absurd ⟨by rw [decodes]; rfl, by rw [run]; rfl⟩ rejects
  cases decodes.symm.trans reads
  cases run.symm.trans verified
  rw [advanced_here] at accepts
  generalize (handlePostWake lib inputs node header payload g).2 = g' at outcome
  cases outcome with
  | replies unconfirmed => exact absurd accepts (ne_true_of_eq_false (unconfirmed programHash rfl))
  | confirms hash same _ =>
    cases same
    refine ⟨by simp [SessionManager.setState, advanced], ?_⟩
    cases inputs.fault .confirmProgram with
    | false => exact ⟨_, AList.lookup_insert _, rfl, rfl, rfl⟩
    | true => exact ⟨node, found, rfl, rfl, rfl⟩

theorem reported_cases (reports : reported lib inputs node header payload g = some programHash) :
    header.msgType = msgWake ∧ ∃ wake chosen t, decodeWake lib payload = some wake ∧
      wakeCommand inputs node header.nonce wake g = (.ok chosen, t) ∧ wake.programHash = programHash := by
  unfold reported at reports
  split at reports
  · rename_i request
    refine ⟨request, ?_⟩
    obtain ⟨wake, decodes, reports⟩ := bind_eq_some_iff.mp reports
    cases choice : wakeCommand inputs node header.nonce wake g with
    | mk result t =>
      rw [choice] at reports
      cases result with
      | ok chosen => exact ⟨wake, chosen, t, decodes, choice, some.inj reports⟩
      | error e => cases reports
  · cases reports

theorem handleAs_reported (reports : reported lib inputs node header payload g = some programHash)
    (found : g.nodes.lookup node.nodeId = some node) :
    NamesInSession node.nodeId node.assignedProgramHash (reconciled inputs node programHash)
      (handleAs lib inputs node header payload g).2 := by
  obtain ⟨request, wake, chosen, t, decodes, choice, rfl⟩ := reported_cases reports
  rw [handleAs, if_pos request]
  exact handleWake_names decodes choice found

theorem handleAs_confirmed (confirms : confirmed lib inputs node header payload g = some programHash)
    (found : g.nodes.lookup node.nodeId = some node) : NamesInSession node.nodeId node.assignedProgramHash
      (if inputs.fault .confirmProgram then node.currentProgramHash else some programHash)
      (handleAs lib inputs node header payload g).2 := by
  obtain ⟨request, -⟩ := confirmed_iff.mp confirms
  have handled : handleAs lib inputs node header payload = handlePostWake lib inputs node header payload :=
    (if_neg (by rw [request]; decide)).trans (if_pos (.inr (.inl request)))
  rw [handled]
  exact handlePostWake_confirms confirms found

theorem handleAs_steady (unreported : reported lib inputs node header payload g = none)
    (unconfirmed : confirmed lib inputs node header payload g = none) :
    Steady node.nodeId g (handleAs lib inputs node header payload g).2 := by
  unfold handleAs
  split
  · rename_i request
    rw [handleWake_unreported request unreported]
    exact ⟨rfl, id⟩
  split
  · exact handlePostWake_steady unconfirmed
  · exact ⟨rfl, id⟩

/-! ## Settings -/

def NamesWith (nodeId : String) (m : SessionManager) (current : Option Bytes) (g : Gateway) : Prop :=
  g.sessionManager = m ∧ ∃ assigned, Names nodeId assigned current g

variable {m : SessionManager} {current : Option Bytes} {ε : Type} {Q : α → Prop} {I : Gateway → Prop}

theorem storageCall_keeps {holds : Option String} {fault : Option StorageError}
    {failed : StorageError → ε} {access : Access} {call : Program Gateway ε α} (keeps : Keeps I call Q) :
    (storageCall holds fault failed access call).Keeps I Q := by
  cases fault with
  | none => exact .atomic keeps
  | some e => exact .stop

theorem foundOr_keeps {missing : ε} {found : Option α} (holds : ∀ a, found = some a → Q a) :
    (foundOr missing found).Keeps I Q := by
  cases found with
  | none => exact .stop
  | some a => exact .pure (holds a rfl)

theorem getNode_names (faults : AdminFaults) (failed : StorageError → ε) (missing : ε) :
    (getNode faults failed missing nodeId).Keeps (NamesWith nodeId m current) fun node =>
      node.nodeId = nodeId ∧ node.currentProgramHash = current := by
  refine .bind (storageCall_keeps fun g names => ⟨names, ?_⟩) fun found => foundOr_keeps
  intro found same node present
  obtain ⟨-, assigned, row, stored, id, -, here⟩ := names
  cases same
  cases stored.symm.trans present
  exact ⟨id, here⟩

theorem writeNode_names {record : NodeRecord} (id : record.nodeId = nodeId) (here : record.currentProgramHash = current) :
    Keeps (NamesWith nodeId m current) (writeNode record : Program Gateway ε Unit) fun _ => True := by
  subst id
  refine fun g names => ⟨⟨names.1, record.assignedProgramHash, record, AList.lookup_insert _, rfl, rfl, here⟩, ?_⟩
  exact fun _ _ => trivial

theorem desiredRecord_nodeId (node : NodeRecord) (assigned : Option Bytes) (intervalS : Option Nat) :
    (desiredRecord node assigned intervalS).nodeId = node.nodeId := by
  cases intervalS <;> rfl

theorem desiredRecord_current (node : NodeRecord) (assigned : Option Bytes) (intervalS : Option Nat) :
    (desiredRecord node assigned intervalS).currentProgramHash = node.currentProgramHash := by
  cases intervalS <;> rfl

theorem namesWith_keeps {call : Program Gateway ε α} (fixed : Fixes Gateway.registry call) :
    Keeps (NamesWith nodeId m current) call fun _ => True := by
  intro g names
  have same := fixed g
  refine ⟨?_, fun _ _ => trivial⟩
  unfold NamesWith Names
  rw [show (call g).2.nodes = g.nodes from congrArg Prod.fst same,
    show (call g).2.sessionManager = g.sessionManager from congrArg Prod.snd same]
  exact names

theorem editPending_names (holds : Option String) (edit : List PendingCommand → List PendingCommand) :
    (Task.atomic ⟨holds, .other⟩ (editPending nodeId edit) : Task Gateway Label ε Unit).Keeps (NamesWith nodeId m current)
      fun _ => True :=
  .atomic (namesWith_keeps fun _ => rfl)

theorem applyNodeDesiredState_names {lib : ConnectorLibraries} {faults : AdminFaults} {desiredState : DesiredState}
    (names : NamesWith nodeId m current g) :
    NamesWith nodeId m current ((applyNodeDesiredState lib faults nodeId desiredState).alone g).2 := by
  obtain ⟨written, stored, outcome⟩ := applyNodeDesiredState_cases lib faults nodeId desiredState g
  have kept : NamesWith nodeId m current written := by
    rcases stored with rfl | ⟨record, rfl⟩
    · exact names
    · exact names
  rcases outcome with ⟨node, request, loads, -, run⟩ | ⟨e, run⟩
  · rw [run]
    obtain ⟨-, assigned, row, found, id, -, here⟩ := names
    cases found.symm.trans loads.2.2
    exact (writeNode_names (ε := Status) ((desiredRecord_nodeId node _ _).trans id)
      ((desiredRecord_current node _ _).trans here) written kept).1
  · rw [run]
    exact kept

theorem Setting.call_names (lib : Libraries) (setting : Setting) (names : NamesWith nodeId m current g) :
    NamesWith nodeId m current ((setting.call nodeId).run lib g) := by
  have kept {ε : Type} {t : Task Gateway Label ε Unit} (keeps : t.Keeps (NamesWith nodeId m current) fun _ => True) :
      NamesWith nodeId m current (t.alone g).2 := keeps.alone names
  cases setting with
  | assignProgram faults programHash =>
    refine kept (.bind (fun _ _ => trivial) fun _ _ => .bind (getNode_names _ _ _) fun node found => ?_)
    refine .bind (storageCall_keeps (namesWith_keeps (.read _))) fun _ _ =>
      .bind (foundOr_keeps fun _ _ => trivial) fun _ _ => ?_
    exact storageCall_keeps (writeNode_names found.1 found.2)
  | setSchedule faults intervalS =>
    refine kept (.bind (getNode_names _ _ _) fun node found => ?_)
    exact .bind (storageCall_keeps (writeNode_names found.1 found.2)) fun _ _ => editPending_names _ _
  | applyNodeDesiredState connector faults desiredState => exact applyNodeDesiredState_names names
  | queueReboot faults => exact kept (.bind (getNode_names _ _ _) fun _ _ => editPending_names _ _)
  | queueEphemeral faults programHash =>
    refine kept (.bind (fun _ _ => trivial) fun _ _ => .bind (getNode_names _ _ _) fun _ _ => ?_)
    refine .bind (storageCall_keeps (namesWith_keeps (.read _))) fun _ _ =>
      .bind (foundOr_keeps fun _ _ => trivial) fun _ _ => ?_
    exact .ite (fun _ => .stop) fun _ => editPending_names _ _
  | ingestProgram connector faults imageData profile abiVersion sourceFilename =>
    refine kept (.ite (fun _ => .stop) fun _ => ?_)
    exact .bind (fun _ _ => trivial) fun _ _ => storageCall_keeps (namesWith_keeps fun _ => rfl)
  | wakeBlobReply inputs index =>
    have kept : Keeps (NamesWith nodeId m current)
        (.update fun g => g.step lib (.wakeBlobReply inputs index) : Processing Unit) fun _ => True :=
      namesWith_keeps (.update fun g => wakeBlobReply_fixes (fun _ _ _ _ => rfl) lib inputs index g)
    exact (kept g names).1

/-! ## Runs -/

variable {s : Tracked}

def Attributes (nodeId : String) (s : Tracked) : Prop :=
  ∃ assigned current, Names nodeId assigned current s.gateway ∧
    ((s.gateway.sessionManager.sessions nodeId).isSome → ∃ programHash, s.program = some programHash ∧
      current = some programHash)

theorem Sends.processFrame_handleAs {inputs : Inputs} {raw payload : Bytes} {decoded : DecodedFrame}
    (sends : Sends lib decoded node payload g) (decodes : decodeFrame raw = .ok decoded)
    (fromNode : decoded.header.msgType ≠ msgPeerRequest ∧ decoded.header.msgType ≠ msgDiagRequest)
    (answered : inputs.fault .nodesByKeyHint = false) :
    processFrame lib inputs raw g = handleAs lib inputs node decoded.header payload g := by
  have authentic : authenticateNode lib inputs decoded g = (.ok (node, payload), g) := by
    rw [sends.authenticate, answered]
    rfl
  rw [processFrame_node decodes fromNode, handleNodeFrame_eq, bind_run, authentic]

variable {assigned : Option Bytes}

theorem Names.unique
    (names : Names nodeId assigned current g) (names' : Names nodeId assigned' current' g) : current = current' := by
  obtain ⟨row, found, -, -, rfl⟩ := names
  obtain ⟨row', found', -, -, rfl⟩ := names'
  cases found.symm.trans found'
  rfl

theorem attributes_iff (names : Names nodeId assigned current s.gateway) :
    Attributes nodeId s ↔ ((s.gateway.sessionManager.sessions nodeId).isSome →
      ∃ programHash, s.program = some programHash ∧ current = some programHash) := by
  constructor
  · rintro ⟨assigned', current', names', matched⟩
    rw [names.unique names']
    exact matched
  · exact fun matched => ⟨assigned, current, names, matched⟩

theorem answerInSession_outputs (core : Processing (FrameHeader × Bytes)) (g : Gateway) :
    (answerInSession lib node core g).2.outputs = (core g).2.outputs := by
  unfold answerInSession
  rw [bind_run]
  cases core g with
  | mk result g' =>
    cases result with
    | error e => rfl
    | ok response =>
      have answered : Fixes Gateway.outputs (do
          let session ← Program.read fun g => g.sessionManager.getSession node.nodeId
          encodeResponse lib response.1 response.2 node.psk (session.map (·.number))) :=
        .bind (.read _) fun _ => encodeResponse_fixes (fun _ _ => rfl) _ _ _ _ _
      exact answered g'

theorem handleAs_appData {blob : Bytes} (kind : header.msgType = msgAppData)
    (decodes : decode lib.reader msgAppData payload = .ok (.appData blob))
    (accepted : (verifyAndAdvanceSeq inputs node.nodeId header.nonce g).1 = .ok ()) :
    (handleAs lib inputs node header payload g).2.outputs =
      node.currentProgramHash.elim g.outputs (forwarded inputs node.nodeId header.nonce · blob g) := by
  have postWake : handleAs lib inputs node header payload = handlePostWake lib inputs node header payload := by
    simp [handleAs, kind, msgWake, msgAppData]
  rcases verifyAndAdvanceSeq_cases inputs node.nodeId header.nonce g with ⟨g', run, -⟩ | ⟨session, -, -, run⟩
  · rw [run] at accepted
    cases accepted
  obtain ⟨result, deferredReplies, core, -⟩ := handleAppDataCore_run inputs node header blob
    { g with sessionManager := advanced node.nodeId session g.sessionManager }
  rw [postWake, handlePostWake, kind, decodes]
  simp only [Except.toOption, orDiscard, bind_run, pure_run, run, answerInSession_outputs, core]
  rfl

theorem forwarded_iff (inputs : Inputs) (nodeId : String) (nonce : BitVec 64) (blob programHash : Bytes)
    (current : Option Bytes) (g : Gateway) : current.elim g.outputs (forwarded inputs nodeId nonce · blob g) =
      forwarded inputs nodeId nonce programHash blob g ↔ current = some programHash := by
  refine ⟨fun same => ?_, fun here => by rw [here]; rfl⟩
  have emitted := congrArg Outputs.emitted same
  cases current with
  | none => simp [forwarded] at emitted
  | some other =>
    simp only [forwarded, elim_some, List.append_cancel_left_eq, List.cons.injEq, AppData.mk.injEq] at emitted
    rw [emitted.1.2.1]

theorem appDataAttributed_iff (names : Names nodeId assigned current s.gateway) :
    AppDataAttributed lib nodeId s ↔ Attributes nodeId s := by
  rw [attributes_iff names]
  obtain ⟨row, found, rfl, -, rfl⟩ := names
  constructor
  · intro attributed live
    obtain ⟨session, here⟩ := isSome_iff_exists.mp live
    have decodes := decode_encode lib.reader (show (appData []).Valid from show 0 < 2 ^ 64 by decide)
    have accepted : (verifyAndAdvanceSeq { smallInputs with instant := session.createdAt } row.nodeId session.nextExpectedSeq
        s.gateway).1 = .ok () := by
      simp [verifyAndAdvanceSeq, SessionManager.verifyAndAdvanceSeq, here, Except.mapError]
    obtain ⟨programHash, program, outputs, -⟩ := attributed _ ⟨0, msgAppData, session.nextExpectedSeq⟩ _ [] row rfl decodes
      found accepted
    rw [handleAs_appData rfl decodes accepted, forwarded_iff] at outputs
    exact ⟨programHash, program, outputs⟩
  · intro matched inputs header payload blob node kind decodes registered accepted
    cases found.symm.trans registered
    have live : (s.gateway.sessionManager.sessions row.nodeId).isSome := by
      cases here : s.gateway.sessionManager.sessions row.nodeId with
      | some session => rfl
      | none => simp [verifyAndAdvanceSeq, SessionManager.verifyAndAdvanceSeq, here, Except.mapError] at accepted
    obtain ⟨programHash, program, current⟩ := matched live
    have outputs := (handleAs_appData kind decodes accepted).trans ((forwarded_iff ..).mpr current)
    refine ⟨programHash, program, outputs, ?_⟩
    rintro raw ciphertext ⟨⟨decoded, fromNode⟩, answered, node, same, sends⟩
    obtain rfl : row = node := some.inj (found.symm.trans (same ▸ sends.registered))
    rw [sends.processFrame_handleAs decoded fromNode answered]
    exact outputs

theorem frame_attributes (inputs : Inputs) (header : FrameHeader) (payload : Bytes)
    (found : s.gateway.nodes.lookup node.nodeId = some node) (attributes : Attributes node.nodeId s) :
    let s' : Tracked := ⟨(handleAs lib inputs node header payload s.gateway).2,
      ((reported lib inputs node header payload s.gateway).or
        (confirmed lib inputs node header payload s.gateway)).or s.program⟩
    (∃ assigned current, Names node.nodeId assigned current s'.gateway) ∧
      (Attributes node.nodeId s' ↔ RecordsHash lib inputs node header payload s.gateway) := by
  unfold RecordsHash
  cases reports : reported lib inputs node header payload s.gateway with
  | some programHash =>
    have names := handleAs_reported reports found
    have unconfirmed : confirmed lib inputs node header payload s.gateway = none := by
      rw [confirmed, if_neg]
      rw [(reported_cases reports).1]
      decide
    refine ⟨⟨_, _, names.2⟩, (attributes_iff names.2).trans ?_⟩
    simp [unconfirmed, names.1, reconciled_iff]
  | none =>
    cases confirms : confirmed lib inputs node header payload s.gateway with
    | some programHash =>
      have names := handleAs_confirmed confirms found
      refine ⟨⟨_, _, names.2⟩, (attributes_iff names.2).trans ?_⟩
      cases writes : inputs.fault .confirmProgram with
      | true => simp [names.1]
      | false => simp [names.1]
    | none =>
      have steady := handleAs_steady reports confirms
      obtain ⟨assigned, current, ⟨row, present, id, assigns, here⟩, matched⟩ := attributes
      have names : Names node.nodeId assigned current (handleAs lib inputs node header payload s.gateway).2 :=
        ⟨row, by rw [steady.nodes, present], id, assigns, here⟩
      refine ⟨⟨_, _, names⟩, iff_of_true ?_ (by simp)⟩
      exact ⟨assigned, current, names, fun live => matched (steady.session live)⟩

theorem NodeEvent.step_attributes {event : NodeEvent} (genuine : event.Genuine lib nodeId s.gateway)
    (attributes : Attributes nodeId s) :
    (∃ assigned current, Names nodeId assigned current (event.step lib nodeId s).gateway) ∧
      (Attributes nodeId (event.step lib nodeId s) ↔ event.Records lib nodeId s.gateway) := by
  cases event with
  | frame inputs raw decoded payload =>
    obtain ⟨⟨decodes, fromNode⟩, answered, node, rfl, sends⟩ := genuine
    simp only [step, Records, sends.processFrame_handleAs decodes fromNode answered, sends.registered,
      some.injEq, forall_eq']
    exact frame_attributes inputs decoded.header payload sends.registered attributes
  | configure setting =>
    obtain ⟨assigned, current, names, matched⟩ := attributes
    obtain ⟨sessions, assigned', names'⟩ := setting.call_names lib ⟨rfl, assigned, names⟩
    refine ⟨⟨assigned', current, names'⟩, iff_of_true ⟨assigned', current, names', ?_⟩ trivial⟩
    rwa [show (step lib nodeId s (.configure setting)).gateway.sessionManager = s.gateway.sessionManager from sessions]

theorem tracked_attributed_iff {events : List NodeEvent} (attributes : Attributes nodeId s)
    (genuine : Along lib nodeId (fun g event => event.Genuine lib nodeId g) s events) :
    (∀ done rest, events = done ++ rest → AppDataAttributed lib nodeId (tracked lib nodeId s done)) ↔
      Along lib nodeId (fun g event => event.Records lib nodeId g) s events := by
  obtain ⟨assigned, current, names, -⟩ := id attributes
  induction events generalizing s assigned current with
  | nil =>
    refine iff_of_true (fun done rest split => ?_) trivial
    obtain ⟨rfl, -⟩ := List.append_eq_nil_iff.mp split.symm
    exact (appDataAttributed_iff names).mpr attributes
  | cons event events ih =>
    obtain ⟨⟨assigned', current', names'⟩, records⟩ := step_attributes genuine.1 attributes
    constructor
    · intro attributed
      have after : Attributes nodeId (event.step lib nodeId s) :=
        (appDataAttributed_iff names').mp (attributed [event] events rfl)
      refine ⟨records.mp after, (ih after genuine.2 _ _ names').mp fun done rest split => ?_⟩
      exact attributed (event :: done) rest (congrArg (event :: ·) split)
    · rintro ⟨recorded, later⟩ done rest split
      cases done with
      | nil => exact (appDataAttributed_iff names).mpr attributes
      | cons first done =>
        cases split
        exact (ih (records.mpr recorded) genuine.2 _ _ names').mpr later done rest rfl

theorem appData_attributed_iff (lib : Libraries) (g : Gateway) (node : NodeRecord) (events : List NodeEvent)
    (registered : g.nodes.lookup node.nodeId = some node) (idle : g.sessionManager.sessions node.nodeId = none)
    (genuine : Along lib node.nodeId (fun g event => event.Genuine lib node.nodeId g) ⟨g, none⟩ events) :
    (∀ done rest, events = done ++ rest → AppDataAttributed lib node.nodeId (tracked lib node.nodeId ⟨g, none⟩ done)) ↔
      Along lib node.nodeId (fun g event => event.Records lib node.nodeId g) ⟨g, none⟩ events := by
  refine tracked_attributed_iff ⟨_, _, ⟨node, registered, rfl, rfl, rfl⟩, fun live => ?_⟩ genuine
  rw [show (⟨g, none⟩ : Tracked).gateway.sessionManager.sessions node.nodeId = none from idle] at live
  cases live

def sent (nonce : BitVec 64) (message : NodeMessage) : NodeEvent :=
  let raw := smallFrame nonce message 7
  .frame smallInputs raw (((decodeFrame raw).toOption).getD ⟨⟨0, 0, 0⟩, []⟩) message.encode

def woken (nonce : BitVec 64) : NodeEvent := sent nonce (.wake 1 [9] 3000 [0x31] none)

theorem appData_attributed_resident : AppDataAttributed plainLib "n" (tracked plainLib "n" ⟨smallGateway, none⟩ [woken 1]) := by
  have records : (woken 1).Records plainLib "n" smallGateway := by
    intro node registered
    cases registered
    refine ⟨fun programHash reports => .inl ?_, fun programHash confirms => ?_⟩
    · obtain ⟨-, wake, chosen, t, decodes, -, rfl⟩ := reported_cases reports
      cases decodes
      rfl
    · cases confirms
  refine (appData_attributed_iff plainLib smallGateway smallNode [woken 1] rfl rfl ⟨?_, trivial⟩).mpr ⟨records, trivial⟩
    [woken 1] [] rfl
  exact ⟨⟨rfl, by decide, by decide⟩, rfl, smallNode, rfl, rfl, rfl, rfl, sole_of_only rfl⟩

def ephemeralGateway : Gateway :=
  { smallGateway with
    programs := fun _ => some ⟨smallHash, [1], 1, .ephemeral, none, none, none⟩
    pendingCommands := fun _ => [.runEphemeral smallHash] }

def seenNode : NodeRecord := { smallNode with firmwareAbiVersion := some 1, firmwareVersion := some "1" }

def ephemeralRun : List NodeEvent := [woken 1, sent 5 (.getChunk 0), sent 6 (.programAck smallHash), woken 2]

theorem ephemeral_ack_misattributes :
    Along plainLib "n" (fun g event => event.Genuine plainLib "n" g) ⟨ephemeralGateway, none⟩ ephemeralRun ∧
      ¬AppDataAttributed plainLib "n" (tracked plainLib "n" ⟨ephemeralGateway, none⟩ ephemeralRun) := by
  refine ⟨⟨?_, ?_, ?_, ?_, trivial⟩, fun attributed => ?_⟩
  · exact ⟨⟨rfl, by decide, by decide⟩, rfl, smallNode, rfl, rfl, rfl, rfl, sole_of_only rfl⟩
  · exact ⟨⟨rfl, by decide, by decide⟩, rfl, seenNode, rfl, rfl, rfl, rfl, sole_of_only rfl⟩
  · exact ⟨⟨rfl, by decide, by decide⟩, rfl, seenNode, rfl, rfl, rfl, rfl, sole_of_only rfl⟩
  · exact ⟨⟨rfl, by decide, by decide⟩, rfl, { seenNode with currentProgramHash := some smallHash }, rfl, rfl, rfl, rfl,
      sole_of_only rfl⟩
  · obtain ⟨programHash, session, outputs, -⟩ := attributed smallInputs ⟨0, msgAppData, 5⟩ (appData []).encode []
      { seenNode with currentProgramHash := some smallHash } rfl rfl rfl rfl
    cases session
    have emitted := congrArg (·.emitted.map AppData.programHash) outputs
    exact absurd emitted (by decide)

end Sonde.Engine
