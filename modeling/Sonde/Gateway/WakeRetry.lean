import Sonde.Gateway.Sender

/-!
# A retransmitted WAKE

The gateway answers a WAKE that it gets again from the session of the transfer that the first one opened, or it selects
a command anew from what the first one has left.
-/

namespace Sonde.Engine
open Lib Lib.Program Protocol Sonde.Gateway Gateway SessionManager Option

structure RowCore where
  nodeId : String
  keyHint : BitVec 16
  psk : Bytes32
  assignedProgramHash : Option Bytes

def rowCore (row : NodeRecord) : RowCore := ⟨row.nodeId, row.keyHint, row.psk, row.assignedProgramHash⟩

/-- What the gateway's answer to a WAKE of the node depends on, apart from its deferred reply. -/
structure NodeView where
  row : Option RowCore
  programs : Bytes → Option ProgramRecord
  session : Option Session
  queue : List PendingCommand

def Gateway.view (nodeId : String) (g : Gateway) : NodeView :=
  ⟨(g.nodes.lookup nodeId).map rowCore, g.programs, g.sessionManager.sessions nodeId, g.pendingCommands nodeId⟩

variable {m : Processing α} {record : NodeRecord}
    {nodeId : String} {lib : Libraries} {inputs : Inputs} {node : NodeRecord}

theorem rowCore_woken (inputs : Inputs) (node : NodeRecord) (wake : WakeFields) (record : NodeRecord) :
    rowCore (wokenRecord inputs node wake record) = rowCore record := by
  unfold wokenRecord reconcileCurrentProgramHash
  dsimp only
  repeat' split
  all_goals rfl

theorem lookup_woken (wake : WakeFields) (g : Gateway) :
    ((g.nodes.update node.nodeId (wokenRecord inputs node wake)).lookup nodeId).map rowCore =
      (g.nodes.lookup nodeId).map rowCore := by
  rw [Table.lookup_update]
  split
  · rw [map_map, show rowCore ∘ wokenRecord inputs node wake = rowCore from funext (rowCore_woken inputs node wake)]
  · rfl

section
variable (apart : nodeId ≠ node.nodeId)
include apart

theorem handleWake_view (header : FrameHeader) (payload : Bytes) :
    Fixes (view nodeId) (handleWake lib inputs node header payload) := by
  intro g
  rcases handleWake_final lib inputs node header payload g with
    unchanged | ⟨wake, command, t, opened, _, _, _, _, after, -⟩
  · rw [unchanged]
  · rw [after]
    simp only [view, lookup_woken, ((SessionStep.refl node.nodeId t.sessionManager).transferred command).others _ apart]
    rcases opened with rfl | ⟨seq, commands, -, rfl⟩
    · rfl
    · simp [createSession, apart]

theorem upsertNode_view (same : record.nodeId = node.nodeId) : Fixes (view nodeId) (upsertNode record) :=
  .update fun g => by simp [view, same, AList.lookup_insert_ne apart]

theorem handlePostWake_view (header : FrameHeader) (payload : Bytes) :
    Fixes (view nodeId) (handlePostWake lib inputs node header payload) := by
  intro g
  rcases handlePostWake_cases lib inputs node header payload g with ⟨-, refused⟩ | ⟨-, message, session, -, -, -, -, outcome⟩
  · rcases refused with unchanged | ⟨session, -, -, removed⟩
    · rw [unchanged]
    · rw [removed]
      simp [view, removeSession, apart]
  · generalize (handlePostWake lib inputs node header payload g).2 = g' at outcome
    cases outcome with
    | replies => simp [view, advanced, apart]
    | confirms =>
      simp only [view, advanced, setState, Function.update_of_ne apart]
      split
      · rw [AList.lookup_insert_ne apart]
      · rfl

end

/-! ## Events that do not come from the node -/

def Event.Elsewhere (lib : Libraries) (nodeId : String) (g : Gateway) : Event → Prop
  | .frame inputs raw => ∀ decoded, decodeFrame raw = .ok decoded → decoded.header.msgType ≠ msgPeerRequest →
      decoded.header.msgType ≠ msgDiagRequest → ∀ node payload,
      (authenticateNode lib inputs decoded g).1 = .ok (node, payload) → nodeId ≠ node.nodeId
  | .wakeBlobReply _ _ => True
  | .admin _ => False

def AllElsewhere (lib : Libraries) (nodeId : String) : Gateway → List Event → Prop
  | _, [] => True
  | g, event :: events => event.Elsewhere lib nodeId g ∧ AllElsewhere lib nodeId (g.step lib event) events

variable {g : Gateway} {raw : Bytes} {decoded : DecodedFrame} {v : NodeView} {α : Type}

theorem view_meets (fixed : Fixes (view nodeId) m) : Preserves (fun g : Gateway => g.view nodeId = v) m :=
  Fixes.meets (P := (· = v)) fixed

theorem tryRecoveryAuth_meets : Meets (fun g : Gateway => g.view nodeId = v) (tryRecoveryAuth lib inputs decoded)
      (fun found g => nodeId ≠ found.1.nodeId → g.view nodeId = v) fun g => g.view nodeId = v := by
  refine .bind (view_meets (.read _)) fun available => ?_
  refine .bind (view_meets (orDiscard_fixes _)) fun keyId => ?_
  refine .bind (view_meets (guardFault_fixes _ _)) fun _ => ?_
  refine .bind (view_meets (.read _)) fun candidates => ?_
  refine .bind (view_meets (orDiscard_fixes _)) fun found => ?_
  refine .bind (view_meets (guardFault_fixes _ _)) fun _ => ?_
  have promoted : Meets (fun g : Gateway => g.view nodeId = v) (upsertNode found.1)
      (fun _ g => nodeId ≠ found.1.nodeId → g.view nodeId = v) fun g => g.view nodeId = v :=
    .update fun g same apart => (upsertNode_view apart rfl g).trans same
  refine .bind promoted fun _ => .bind (.ite (fun _ => .update ?_) fun _ => .pure ?_) fun _ => .pure fun _ h => h
  · exact fun g same => same
  · exact fun g same => same

theorem authenticateNode_meets (lib : Libraries) (inputs : Inputs) (decoded : DecodedFrame) :
    Meets (fun g : Gateway => g.view nodeId = v) (authenticateNode lib inputs decoded)
      (fun found g => nodeId ≠ found.1.nodeId → g.view nodeId = v) fun g => g.view nodeId = v := by
  refine .bind (view_meets (guardFault_fixes _ _)) fun _ => .bind (view_meets (.read _)) fun candidates => ?_
  refine .ite (fun _ => tryRecoveryAuth_meets) fun _ => ?_
  exact .conseq (view_meets (orDiscard_fixes _)) (fun _ h => h) (fun _ _ h _ => h) fun _ h => h

theorem registerPeer_meets (present : v.row.isSome) :
    Preserves (fun g : Gateway => g.view nodeId = v) (registerPeer inputs record) := by
  refine .bind (view_meets (guardFault_fixes _ _)) fun _ => .bind .read fun existing => ?_
  cases existing with
  | none =>
    refine .update fun g found => ?_
    have apart : nodeId ≠ record.nodeId := by
      rintro rfl
      have row : (g.view record.nodeId).row = none := by simp [view, found.2]
      rw [found.1] at row
      simp [row] at present
    exact (upsertNode_view apart rfl g).trans found.1
  | some row =>
    have fixed : Fixes (view nodeId) (if inputs.fault .existingNode then discard
        else if row.psk ≠ record.psk then discard else pure () : Processing Unit) :=
      .ite (.stop _) (.ite (.stop _) (.pure _))
    exact .prior (view_meets fixed) (fun _ h => h.1)

theorem handlePeerRequest_meets (present : v.row.isSome) :
    Preserves (fun g : Gateway => g.view nodeId = v) (handlePeerRequest lib inputs decoded) := by
  refine .bind (view_meets authenticatePhone_fixes) fun phone => .bind (view_meets (orDiscard_fixes _)) fun request =>
    .bind (view_meets (orDiscard_fixes _)) fun now => ?_
  refine .ite (fun _ => .stop fun _ h => h) fun _ => .ite (fun _ => .stop fun _ h => h) fun _ => ?_
  exact .bind (registerPeer_meets present) fun _ => view_meets (encodeResponse_fixes (fun _ _ => rfl) _ _ _ _ _)

theorem handleNodeFrame_elsewhere
    (apart : ∀ node payload, (authenticateNode lib inputs decoded g).1 = .ok (node, payload) → nodeId ≠ node.nodeId) :
    (handleNodeFrame lib inputs decoded g).2.view nodeId = g.view nodeId := by
  have authentic := (authenticateNode_meets lib inputs decoded).exits g (rfl : g.view nodeId = g.view nodeId)
  simp only [handleNodeFrame, bind]
  cases run : authenticateNode lib inputs decoded g with
  | mk result g' =>
    rw [run] at authentic apart
    cases result with
    | error e => exact authentic
    | ok found =>
      have elsewhere := apart found.1 found.2 rfl
      refine Eq.trans ?_ (authentic elsewhere)
      dsimp only
      split
      · exact handleWake_view elsewhere _ _ g'
      split
      · exact handlePostWake_view elsewhere _ _ g'
      · rfl

theorem frame_elsewhere (elsewhere : (Event.frame inputs raw).Elsewhere lib nodeId g)
    (present : (g.nodes.lookup nodeId).isSome) : (processFrame lib inputs raw g).2.view nodeId = g.view nodeId := by
  unfold processFrame
  cases decodes : decodeFrame raw with
  | error e => rfl
  | ok decoded =>
    have elsewhere := elsewhere decoded decodes
    change ((if decoded.header.msgType = msgPeerRequest then handlePeerRequest lib inputs decoded
      else if decoded.header.msgType = msgDiagRequest then handleDiagRequest lib inputs decoded
      else handleNodeFrame lib inputs decoded) g).2.view nodeId = _
    split
    · exact (handlePeerRequest_meets (by simpa [view] using present)).ends rfl
    split
    · exact (handleDiagRequest_fixes fun _ _ => rfl) g
    · rename_i peer diag
      exact handleNodeFrame_elsewhere (elsewhere peer diag)

theorem step_elsewhere {event : Event} (elsewhere : event.Elsewhere lib nodeId g)
    (present : (g.nodes.lookup nodeId).isSome) : (g.step lib event).view nodeId = g.view nodeId := by
  cases event with
  | frame inputs raw => exact frame_elsewhere elsewhere present
  | wakeBlobReply inputs index => exact wakeBlobReply_fixes (fun _ _ _ _ => rfl) lib inputs index g
  | admin action => exact elsewhere.elim

theorem run_elsewhere {events : List Event} (elsewhere : AllElsewhere lib nodeId g events)
    (present : (g.nodes.lookup nodeId).isSome) : (g.run lib events).view nodeId = g.view nodeId := by
  induction events generalizing g with
  | nil => rfl
  | cons event events ih =>
    have step := step_elsewhere elsewhere.1 present
    have row := congrArg (fun v => v.row.isSome) step
    simp only [view, isSome_map] at row
    exact (ih elsewhere.2 (row.trans present)).trans step

/-! ## The answer to a WAKE -/

def Carries (lib : Libraries) (node : RowCore) (nonce : BitVec 64) (frame : Bytes) (command : CommandPayload)
    (blob : Option Bytes) : Prop :=
  ∃ startingSeq timestampMs, encodeFrame lib.provider ⟨node.keyHint, msgCommand, nonce⟩
    (GatewayMessage.command startingSeq timestampMs command blob).encode node.psk = .ok frame

variable {nonce : BitVec 64}

theorem Carries.unique {row : RowCore} {frame : Bytes} {blob blob' : Option Bytes}
    (carries : Carries lib row nonce frame .nop blob) (carries' : Carries lib row nonce frame .nop blob') :
    blob = blob' := by
  obtain ⟨seq, time, sent⟩ := carries
  obtain ⟨seq', time', sent'⟩ := carries'
  have read {seq time : BitVec 64} {blob : Option Bytes} (sent : encodeFrame lib.provider ⟨row.keyHint, msgCommand, nonce⟩
      (GatewayMessage.command seq time .nop blob).encode row.psk = .ok frame) :
      GatewayMessage.decode .definite msgCommand (GatewayMessage.command seq time .nop blob).encode =
        .ok (.command seq time .nop blob) := by
    refine GatewayMessage.decode_command .definite trivial fun _ data here => ?_
    subst here
    exact ((GatewayMessage.blob_length seq time data).trans (encodeFrame_ok.mp sent).1).trans_lt (by decide)
  have messages := read sent
  rw [encodeFrame_inj sent sent', read sent'] at messages
  cases messages
  rfl

variable {command : CommandPayload} {header : FrameHeader} {payload frame : Bytes} {wake : WakeFields} {g' : Gateway}

def chosen (inputs : Inputs) (node : NodeRecord) (nonce : BitVec 64) (wake : WakeFields) (g : Gateway) :
    CommandPayload × List PendingCommand :=
  match (g.sessionManager.getSession node.nodeId).bind (retriedCommand nonce) with
  | some retried => (retried.2, g.pendingCommands node.nodeId)
  | none => selection inputs node wake g (g.pendingCommands node.nodeId)

def chosenBlob (inputs : Inputs) (node : NodeRecord) (nonce : BitVec 64) (wake : WakeFields) (g : Gateway) : Option Bytes :=
  if (chosen inputs node nonce wake g).1 = .nop then g.deferredReplies node.nodeId else none

structure Answered (lib : Libraries) (inputs : Inputs) (node : NodeRecord) (nonce : BitVec 64) (wake : WakeFields)
    (frame : Bytes) (g g' : Gateway) : Prop where
  carries : Carries lib (rowCore node) nonce frame (chosen inputs node nonce wake g).1 (chosenBlob inputs node nonce wake g)
  queue : g'.pendingCommands node.nodeId = (chosen inputs node nonce wake g).2
  session : ∃ session, g'.sessionManager.sessions node.nodeId = some session ∧ session.wakeNonce = nonce ∧
    session.state = (transferState (chosen inputs node nonce wake g).1).getD .awaitingPostWake
  row : (g'.nodes.lookup node.nodeId).map rowCore = (g.nodes.lookup node.nodeId).map rowCore
  programs : g'.programs = g.programs
  deferred : g'.deferredReplies node.nodeId =
    if (chosen inputs node nonce wake g).1 = .nop then none else g.deferredReplies node.nodeId

variable {session : Session}

theorem retriedCommand_state {retried : BitVec 64 × CommandPayload}
    (found : retriedCommand nonce session = some retried) :
    session.wakeNonce = nonce ∧ transferState retried.2 = some session.state := by
  unfold retriedCommand at found
  split at found
  · split at found
    · cases found
      split <;> simp_all [transferState]
    · cases found
  · cases found

variable {seq : BitVec 64}

theorem wakeCommand_chosen (run : wakeCommand inputs node nonce wake g = (.ok (seq, command), g')) :
    command = (chosen inputs node nonce wake g).1 ∧ g'.pendingCommands node.nodeId = (chosen inputs node nonce wake g).2 ∧
      (∃ session, g'.sessionManager.sessions node.nodeId = some session ∧ session.wakeNonce = nonce ∧
        (transferState command = none → session.state = .awaitingPostWake)) ∧
      g'.nodes = g.nodes ∧ g'.programs = g.programs ∧ g'.deferredReplies = g.deferredReplies := by
  unfold chosen
  rw [wakeCommand_eq] at run
  cases retry : (g.sessionManager.getSession node.nodeId).bind (retriedCommand nonce) with
  | some retried =>
    rw [retry] at run
    cases run
    obtain ⟨session, found, fits⟩ := bind_eq_some_iff.mp retry
    obtain ⟨same, state⟩ := retriedCommand_state fits
    refine ⟨rfl, rfl, ⟨session, found, same, fun none => ?_⟩, rfl, rfl, rfl⟩
    simp [none] at state
  | none =>
    rw [retry] at run
    cases drawn : inputs.random with
    | none =>
      rw [drawn] at run
      cases run
    | some random =>
      rw [drawn] at run
      cases run
      exact ⟨rfl, Function.update_self .., ⟨_, Function.update_self .., rfl, fun _ => rfl⟩, rfl, rfl, rfl⟩

theorem handleWake_answered (run : handleWake lib inputs node header payload g = (.ok frame, g')) :
    ∃ wake, decodeWake lib payload = some wake ∧ Answered lib inputs node header.nonce wake frame g g' := by
  rcases handleWake_cases lib inputs node header payload g with stops | ⟨wake, seq, command, t, decodes, choice⟩
  · rw [stops] at run
    cases run
  obtain ⟨rfl, queue, ⟨session, found, nonce, waiting⟩, nodes, programs, kept⟩ := wakeCommand_chosen choice
  have entered := transferred_sessions node.nodeId (chosen inputs node header.nonce wake g).1 t.sessionManager
  rw [found, map_some] at entered
  obtain ⟨outputs, wakeBlobTasks, routed⟩ := routeWakeBlob_run inputs node.nodeId header.nonce wake
    (reconciledState inputs node wake (chosen inputs node header.nonce wake g).1 t)
  rw [handleWake_eq decodes choice] at run
  dsimp only at run
  rw [routed, reconciledState_eq] at run
  dsimp only at run
  rw [kept] at run
  split at run
  · cases run
  rename_i answer
  cases run
  refine ⟨wake, decodes, ⟨_, _, answer⟩, queue, ⟨_, entered, nonce, ?_⟩, nodes ▸ lookup_woken wake t, programs, ?_⟩
  · cases state : transferState (chosen inputs node header.nonce wake g).1 with
    | none => exact waiting state
    | some next => rfl
  · by_cases nop : (chosen inputs node header.nonce wake g).1 = .nop
    · cases deferred : g.deferredReplies node.nodeId <;> simp [nop, deferred]
    · simp [nop]

def wakeResponse (inputs : Inputs) (node : NodeRecord) (nonce seq : BitVec 64) (wake : WakeFields) (g : Gateway) :
    GatewayMessage :=
  .command seq (BitVec.ofNat 64 inputs.timestampMs) (chosen inputs node nonce wake g).1 (chosenBlob inputs node nonce wake g)

structure Served (inputs : Inputs) (node : NodeRecord) (nonce seq : BitVec 64) (wake : WakeFields) (g g' : Gateway) : Prop where
  queue : g'.pendingCommands node.nodeId = (chosen inputs node nonce wake g).2
  session : g'.sessionManager.sessions node.nodeId = some
    { nodeId := node.nodeId, peerAddress := inputs.peer, wakeNonce := nonce, nextExpectedSeq := seq,
      createdAt := inputs.instant, state := (transferState (chosen inputs node nonce wake g).1).getD .awaitingPostWake,
      number := g.sessionManager.created }
  deferred : g'.deferredReplies = g.deferredReplies

theorem wakeCommand_run (wake : WakeFields) (drawn : inputs.random = some seq)
    (fresh : (g.sessionManager.getSession node.nodeId).bind (retriedCommand nonce) = none) :
    wakeCommand inputs node nonce wake g = (.ok (seq, (chosen inputs node nonce wake g).1),
      { g with
        sessionManager := g.sessionManager.createSession inputs.instant node.nodeId inputs.peer nonce seq
        pendingCommands := Function.update g.pendingCommands node.nodeId (chosen inputs node nonce wake g).2 }) := by
  rw [wakeCommand_eq, fresh, drawn]
  unfold chosen
  rw [fresh]

section
variable (decodes : decodeWake lib payload = some wake) (drawn : inputs.random = some seq)
    (fresh : (g.sessionManager.getSession node.nodeId).bind (retriedCommand header.nonce) = none)
include decodes drawn fresh

theorem handleWake_run : ∃ t, Served inputs node header.nonce seq wake g t ∧
      handleWake lib inputs node header payload g =
        match encodeFrame lib.provider ⟨node.keyHint, msgCommand, header.nonce⟩
          (wakeResponse inputs node header.nonce seq wake g).encode node.psk with
        | .error _ => (.error .discarded, t)
        | .ok frame => (.ok frame, { t with
            sealed := ⟨node.psk, ⟨node.keyHint, msgCommand, header.nonce⟩,
              (wakeResponse inputs node header.nonce seq wake g).encode, none⟩ :: t.sealed
            deferredReplies := if (chosenBlob inputs node header.nonce wake g).isSome then
              Function.update t.deferredReplies node.nodeId none else t.deferredReplies }) := by
  have choice := wakeCommand_run wake drawn fresh
  obtain ⟨outputs, wakeBlobTasks, routed⟩ := routeWakeBlob_run inputs node.nodeId header.nonce wake
    (reconciledState inputs node wake (chosen inputs node header.nonce wake g).1 (wakeCommand inputs node header.nonce wake g).2)
  have run := handleWake_eq decodes choice
  rw [choice] at routed
  dsimp only at run
  rw [routed, reconciledState_eq] at run
  dsimp only at run
  refine ⟨_, ?_, run⟩
  refine ⟨Function.update_self .., (transferred_sessions _ _ _).trans ?_, rfl⟩
  simp [createSession]

theorem handleWake_response : (handleWake lib inputs node header payload g).1 =
      (encodeFrame lib.provider ⟨node.keyHint, msgCommand, header.nonce⟩
        (wakeResponse inputs node header.nonce seq wake g).encode node.psk).mapError fun _ => .discarded := by
  have answers := handleWake_answers decodes (wakeCommand_run wake drawn fresh)
  exact answers

end

/-! ## The second answer -/

theorem processFrame_answered (decodes : decodeFrame raw = .ok decoded)
    (request : decoded.header.msgType = msgWake) (sends : Sends lib decoded node payload g)
    (run : processFrame lib inputs raw g = (.ok frame, g')) :
    ∃ wake, decodeWake lib payload = some wake ∧ Answered lib inputs node decoded.header.nonce wake frame g g' := by
  rw [processFrame_node decodes (wakeFrame_fromNode request)] at run
  obtain ⟨result, t₁, authentic, handled⟩ := bind_ok run
  rw [sends.authenticate] at authentic
  split at authentic
  · cases authentic
  · cases authentic
    dsimp only at handled
    rw [if_pos request] at handled
    exact handleWake_answered handled

theorem retriedCommand_again (same : session.wakeNonce = nonce) (state : transferState command = some session.state) :
    retriedCommand nonce session = some (session.nextExpectedSeq, command) := by
  cases command with
  | runEphemeral programHash programSize chunkSize chunkCount =>
    simp only [transferState, some.injEq] at state
    simp [retriedCommand, ← state, same]
  | updateProgram programHash programSize chunkSize chunkCount =>
    simp only [transferState, some.injEq] at state
    simp [retriedCommand, ← state, same]
  | updateSchedule intervalS => cases state
  | reboot => cases state
  | nop => cases state

theorem chosen_unretried (fresh : transferState (chosen inputs node nonce wake g).1 = none) :
    chosen inputs node nonce wake g = selection inputs node wake g (g.pendingCommands node.nodeId) := by
  unfold chosen at fresh ⊢
  cases retry : (g.sessionManager.getSession node.nodeId).bind (retriedCommand nonce) with
  | none => rfl
  | some retried =>
    obtain ⟨session, -, fits⟩ := bind_eq_some_iff.mp retry
    rw [retry, (retriedCommand_state fits).2] at fresh
    cases fresh

section
variable {ephemeral assigned : Bytes → Option ProgramRecord} {assignedHash : Option Bytes} {nodeProgramHash : Bytes}
  {abi : Nat} {cmds : List PendingCommand} {p : PendingCommand → Bool}

variable {c : PendingCommand} {q : PendingCommand → Bool}

theorem countP_eraseP (member : c ∈ cmds) (holds : q c = true) :
    ∃ erased, q erased = true ∧ cmds.countP p = (cmds.eraseP q).countP p + if p erased then 1 else 0 := by
  obtain ⟨erased, before, after, -, satisfied, split, rest⟩ := List.exists_of_eraseP member holds
  refine ⟨erased, satisfied, ?_⟩
  rw [rest, split, List.countP_append, List.countP_append, List.countP_cons]
  omega

theorem countP_drop (apart : ∀ c, q c = true → p c = false) : (cmds.eraseP q).countP p = cmds.countP p := by
  by_cases found : ∃ c ∈ cmds, q c = true
  · obtain ⟨c, member, holds⟩ := found
    obtain ⟨erased, satisfied, count⟩ := countP_eraseP (p := p) member holds
    simpa [apart erased satisfied] using count.symm
  · rw [List.eraseP_of_forall_not fun c member holds => found ⟨c, member, holds⟩]

variable (ephemeral abi cmds) in
theorem selectEphemeral_countP (others : ∀ programHash, p (.runEphemeral programHash) = false) :
    (selectEphemeral ephemeral abi cmds).2.countP p = cmds.countP p := by
  have dropped (programHash : Bytes) (c : PendingCommand) (same : decide (c = .runEphemeral programHash) = true) :
      p c = false := by
    rw [decide_eq_true_eq.mp same, others]
  unfold selectEphemeral
  split
  · rfl
  split
  · rfl
  split
  · exact countP_drop (dropped _)
  split
  · rename_i program _ _ _
    rw [List.countP_filter]
    refine List.countP_congr fun c _ => ?_
    by_cases same : c = .runEphemeral program.hash
    · simp [same, others]
    · simp [same]
  split
  · exact countP_drop (dropped _)
  · rfl

theorem countP_deliver (member : c ∈ cmds) (holds : p c = true) : cmds.countP p = (cmds.eraseP p).countP p + 1 := by
  obtain ⟨erased, satisfied, count⟩ := countP_eraseP member holds
  rwa [if_pos satisfied] at count

def takes : CommandPayload → PendingCommand → Bool
  | .updateSchedule _ => fun c => (scheduleInterval c).isSome
  | .reboot => (· = .reboot)
  | _ => fun _ => false

theorem selectQueued_takes (some : (selectQueued cmds).1 ≠ .nop) :
    cmds.countP (takes (selectQueued cmds).1) = (selectQueued cmds).2.countP (takes (selectQueued cmds).1) + 1 := by
  revert some
  unfold selectQueued
  split
  · rename_i intervalS found
    obtain ⟨c, member, interval⟩ := List.exists_of_findSome?_eq_some found
    exact fun _ => countP_deliver member (by simp [takes, interval])
  split
  · rename_i member
    exact fun _ => countP_deliver member (by simp [takes])
  · exact fun some => absurd rfl some

theorem takes_ephemeral (command : CommandPayload) (programHash : Bytes) :
    takes command (.runEphemeral programHash) = false := by
  cases command <;> rfl

theorem selectEphemeral_transfer
    (selected : (selectEphemeral ephemeral abi cmds).1 = some command) : transferState command ≠ none := by
  unfold selectEphemeral at selected
  repeat' split at selected
  all_goals cases selected
  exact nofun

theorem selectUpdate_transfer (selected : selectUpdate assigned assignedHash nodeProgramHash abi = some command) :
    transferState command ≠ none := by
  obtain ⟨hash, _, selected⟩ := bind_eq_some_iff.mp selected
  split at selected
  · cases selected
  obtain ⟨program, _, selected⟩ := bind_eq_some_iff.mp selected
  split at selected
  · cases selected
  obtain ⟨count, _, selected⟩ := bind_eq_some_iff.mp selected
  cases selected
  exact nofun

variable (fresh : transferState (selectFrom ephemeral assigned assignedHash nodeProgramHash abi cmds).1 = none)
  (some : (selectFrom ephemeral assigned assignedHash nodeProgramHash abi cmds).1 ≠ .nop)

include fresh some in
theorem selectFrom_takes : cmds.countP (takes (selectFrom ephemeral assigned assignedHash nodeProgramHash abi cmds).1) =
      (selectFrom ephemeral assigned assignedHash nodeProgramHash abi cmds).2.countP
        (takes (selectFrom ephemeral assigned assignedHash nodeProgramHash abi cmds).1) + 1 := by
  revert fresh some
  unfold selectFrom
  split
  · rename_i selected
    exact fun fresh => absurd fresh (selectEphemeral_transfer (congrArg Prod.fst selected))
  · rename_i left selected
    split
    · rename_i updated
      exact fun fresh => absurd fresh (selectUpdate_transfer updated)
    · intro _ some
      have kept := selectEphemeral_countP ephemeral abi cmds (takes_ephemeral (selectQueued left).1)
      rw [selected] at kept
      rw [← kept]
      exact selectQueued_takes some

include fresh some in
theorem selectFrom_twice {ephemeral' assigned' : Bytes → Option ProgramRecord}
    (same : (selectFrom ephemeral' assigned' assignedHash nodeProgramHash abi
      (selectFrom ephemeral assigned assignedHash nodeProgramHash abi cmds).2).1 =
        (selectFrom ephemeral assigned assignedHash nodeProgramHash abi cmds).1) :
    2 ≤ cmds.countP (takes (selectFrom ephemeral assigned assignedHash nodeProgramHash abi cmds).1) := by
  have taken := selectFrom_takes fresh some
  have takenAgain := selectFrom_takes (same ▸ fresh) (same ▸ some)
  rw [same] at takenAgain
  omega

end

variable {inputs' : Inputs} {node' : NodeRecord} {frame' : Bytes} {g₁ g₂ : Gateway}

theorem Answered.sender (answered : Answered lib inputs node nonce wake frame g g₁)
    (sends : Sends lib decoded node payload g) (same : g₂.view node.nodeId = g₁.view node.nodeId) :
    ∃ node', g₂.nodes.lookup node.nodeId = some node' ∧ rowCore node' = rowCore node := by
  have row := congrArg NodeView.row same
  simp only [view, answered.row, sends.registered, map_some] at row
  exact map_eq_some_iff.mp row

theorem Answered.repeated (inputs' : Inputs) (answered : Answered lib inputs node nonce wake frame g g₁)
    (same : g₂.view node.nodeId = g₁.view node.nodeId) (core : node'.nodeId = node.nodeId)
    (transfer : transferState (chosen inputs node nonce wake g).1 ≠ none) :
    (chosen inputs' node' nonce wake g₂).1 = (chosen inputs node nonce wake g).1 := by
  obtain ⟨session, found, sameNonce, state⟩ := answered.session
  generalize (chosen inputs node nonce wake g).1 = command at transfer state ⊢
  obtain ⟨next, entered⟩ := ne_none_iff_exists'.mp transfer
  rw [entered, getD_some] at state
  have kept : g₂.sessionManager.getSession node'.nodeId = some session := by
    rw [core]
    exact (congrArg NodeView.session same).trans found
  unfold chosen
  rw [kept, bind_some, retriedCommand_again sameNonce (entered.trans (congrArg some state.symm))]

theorem Answered.reselected (inputs' : Inputs) (answered : Answered lib inputs node nonce wake frame g g₁)
    (same : g₂.view node.nodeId = g₁.view node.nodeId) (core : rowCore node' = rowCore node)
    (fresh : transferState (chosen inputs node nonce wake g).1 = none) : chosen inputs' node' nonce wake g₂ =
      selection inputs' node wake g (selection inputs node wake g (g.pendingCommands node.nodeId)).2 := by
  obtain ⟨session, found, sameNonce, state⟩ := answered.session
  rw [fresh, getD_none] at state
  have ids : node'.nodeId = node.nodeId := congrArg RowCore.nodeId core
  have kept : g₂.sessionManager.getSession node'.nodeId = some session := by
    rw [ids]
    exact (congrArg NodeView.session same).trans found
  have queue : g₂.pendingCommands node'.nodeId = (selection inputs node wake g (g.pendingCommands node.nodeId)).2 := by
    rw [ids, ← chosen_unretried fresh, ← answered.queue]
    exact congrArg NodeView.queue same
  have programs : g₂.programs = g.programs := (congrArg NodeView.programs same).trans answered.programs
  have assigned : node'.assignedProgramHash = node.assignedProgramHash := congrArg RowCore.assignedProgramHash core
  have waiting : retriedCommand nonce session = none := by simp [retriedCommand, state]
  have visible (call : StorageCall) : visibleProgram inputs' call g₂ = visibleProgram inputs' call g := by
    funext programHash
    simp only [visibleProgram, programs]
  unfold chosen
  rw [kept, bind_some, waiting, queue]
  simp only [selection, visible, assigned]

/-- A WAKE that is processed again, with nothing of the node and no admin action in between. If the first COMMAND opened
a transfer, the second repeats it. Otherwise the second is selected from the queue that the first selection left, and a
deferred reply that went out with the first is no longer stored. -/
theorem wake_retry (lib : Libraries) (inputs inputs' : Inputs) (g : Gateway) (node : NodeRecord) (decoded : DecodedFrame)
    (raw payload frame frame' : Bytes) (between : List Event) (decodes : decodeFrame raw = .ok decoded)
    (request : decoded.header.msgType = msgWake) (sends : Sends lib decoded node payload g)
    (first : (processFrame lib inputs raw g).1 = .ok frame)
    (elsewhere : AllElsewhere lib node.nodeId (processFrame lib inputs raw g).2 between)
    (sole : Sole lib decoded node.nodeId ((processFrame lib inputs raw g).2.run lib between))
    (second : (processFrame lib inputs' raw ((processFrame lib inputs raw g).2.run lib between)).1 = .ok frame') :
    ∃ wake command blob command' blob', decodeWake lib payload = some wake ∧
      Carries lib (rowCore node) decoded.header.nonce frame command blob ∧
      Carries lib (rowCore node) decoded.header.nonce frame' command' blob' ∧
      (transferState command ≠ none → blob = none ∧ command' = command ∧ blob' = blob) ∧
      (transferState command = none →
        (command, blob) = ((selection inputs node wake g (g.pendingCommands node.nodeId)).1,
          if command = .nop then g.deferredReplies node.nodeId else none) ∧
        (command', blob') =
          ((selection inputs' node wake g (selection inputs node wake g (g.pendingCommands node.nodeId)).2).1,
            if command' = .nop then ((processFrame lib inputs raw g).2.run lib between).deferredReplies node.nodeId
            else none) ∧
        (blob.isSome → (processFrame lib inputs raw g).2.deferredReplies node.nodeId = none) ∧
        (command ≠ .nop → command' = command → 2 ≤ (g.pendingCommands node.nodeId).countP (takes command))) := by
  obtain ⟨wake, fields, answered⟩ := processFrame_answered decodes request sends (Prod.ext first rfl)
  have present : ((processFrame lib inputs raw g).2.nodes.lookup node.nodeId).isSome := by
    have row := congrArg isSome answered.row
    simpa [sends.registered] using row
  have same := run_elsewhere elsewhere present
  obtain ⟨node', registered, core⟩ := answered.sender sends same
  have ids : node'.nodeId = node.nodeId := congrArg RowCore.nodeId core
  have keys : node'.psk = node.psk := congrArg RowCore.psk core
  have hints : node'.keyHint = node.keyHint := congrArg RowCore.keyHint core
  have sends' : Sends lib decoded node' payload ((processFrame lib inputs raw g).2.run lib between) :=
    ⟨ids ▸ registered, hints ▸ sends.hint, keys ▸ sends.opens, ids ▸ sole⟩
  obtain ⟨wake', fields', answered'⟩ := processFrame_answered decodes request sends' (Prod.ext second rfl)
  cases fields.symm.trans fields'
  have carries' := answered'.carries
  rw [core] at carries'
  refine ⟨wake, _, _, _, _, fields, answered.carries, carries', fun transfer => ?_, fun fresh => ?_⟩
  · have repeated := answered.repeated inputs' same ids transfer
    have notNop : (chosen inputs node decoded.header.nonce wake g).1 ≠ .nop := by
      intro nop
      exact transfer (by rw [nop]; rfl)
    simp [chosenBlob, repeated, notNop]
  · have unretried := chosen_unretried fresh
    have again := answered.reselected inputs' same core fresh
    refine ⟨congrArg₂ Prod.mk (congrArg Prod.fst unretried) rfl, congrArg₂ Prod.mk (congrArg Prod.fst again) ?_,
      fun delivered => ?_, fun other repeated => ?_⟩
    · simp only [chosenBlob, ids]
    · have nop : (chosen inputs node decoded.header.nonce wake g).1 = .nop := by
        by_contra other
        simp [chosenBlob, other] at delivered
      simpa [nop] using answered.deferred
    · rw [again, unretried] at repeated
      rw [unretried] at fresh other ⊢
      exact selectFrom_twice fresh other repeated

def readCommand (lib : Libraries) (psk : Bytes32) (frame : Bytes) : Option (CommandPayload × Option Bytes) := do
  let decoded ← (decodeFrame frame).toOption
  let payload ← (openFrame lib.provider decoded psk).toOption
  match GatewayMessage.decode lib.reader decoded.header.msgType payload with
  | .ok (.command _ _ command blob) => some (command, blob)
  | _ => none

def wakeTwice (g : Gateway) : List (Option (CommandPayload × Option Bytes)) :=
  let first := processFrame plainLib smallInputs (smallWake 1) g
  let second := processFrame plainLib smallInputs (smallWake 1) first.2
  [first.1, second.1].map fun answer => answer.toOption.bind (readCommand plainLib 7)

theorem wake_retry_consumes :
    wakeTwice { smallGateway with pendingCommands := fun _ => [.updateSchedule 60] } =
      [some (.updateSchedule 60, none), some (.nop, none)] ∧
    wakeTwice { smallGateway with pendingCommands := fun _ => [.reboot] } = [some (.reboot, none), some (.nop, none)] ∧
    wakeTwice { smallGateway with deferredReplies := fun _ => some [4] } = [some (.nop, some [4]), some (.nop, none)] := by
  decide +kernel

def assignedNode : NodeRecord := { smallNode with assignedProgramHash := some [5] }

def smallUpdate : Gateway :=
  { smallGateway with
    nodes := (∅ : Table String NodeRecord).insert "n" assignedNode
    programs := fun hash => if hash = [5] then some ⟨[5], [1, 2, 3], 3, .resident, none, none, none⟩ else none }

def smallDecoded : DecodedFrame := ((decodeFrame (smallWake 1)).toOption).getD ⟨⟨0, 0, 0⟩, []⟩

def smallPayload : Bytes := (NodeMessage.wake 1 [9] 3000 [0x31] none).encode

theorem sole_of_only {nodeId : String} (only : g.nodes.entries.map (·.1) = [nodeId]) : Sole lib decoded nodeId g := by
  intro id row found _ _
  have member : id ∈ g.nodes.entries.map (·.1) := List.mem_map_of_mem (AList.mem_lookup_iff.mp found)
  simpa [only] using member

theorem smallUpdate_sends : Sends plainLib smallDecoded assignedNode smallPayload smallUpdate :=
  ⟨rfl, rfl, rfl, sole_of_only rfl⟩

def answerTo (g : Gateway) : Bytes := ((processFrame plainLib smallInputs (smallWake 1) g).1.toOption).getD []

theorem wake_retry_repeats : ∃ command, transferState command ≠ none ∧
    Carries plainLib (rowCore assignedNode) 1 (answerTo smallUpdate) command none ∧
    Carries plainLib (rowCore assignedNode) 1
      (answerTo (processFrame plainLib smallInputs (smallWake 1) smallUpdate).2) command none := by
  obtain ⟨wake, command, blob, command', blob', fields, first, second, repeated, other⟩ :=
    wake_retry plainLib smallInputs smallInputs smallUpdate assignedNode smallDecoded (smallWake 1) smallPayload
      (answerTo smallUpdate) (answerTo (processFrame plainLib smallInputs (smallWake 1) smallUpdate).2) [] rfl
      rfl smallUpdate_sends rfl trivial (sole_of_only rfl) rfl
  have transfer : transferState command ≠ none := by
    intro fresh
    have parsed : decodeWake plainLib smallPayload = some ⟨1, [9], 3000, [0x31], none⟩ := rfl
    cases parsed.symm.trans fields
    rw [(Prod.mk.inj (other fresh).1).1] at fresh
    exact absurd fresh (by decide)
  obtain ⟨none, same, noneToo⟩ := repeated transfer
  rw [same, noneToo, none] at second
  rw [none] at first
  exact ⟨command, transfer, first, second⟩

end Sonde.Engine
