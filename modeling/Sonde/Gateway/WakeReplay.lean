import Sonde.Gateway.CommandQueue
import Sonde.Gateway.LaterAnswers

/-!
# A replayed WAKE

A WAKE of an earlier cycle is authentic, and the gateway takes it for a new one: it opens a session, selects a command and
takes it from the queue, and sends the deferred reply. Two runs, with and without the replay, are compared by the answers to
what the node sends later.
-/

namespace Sonde.Engine
open Lib Lib.Program Protocol Sonde.Gateway List

structure Harmless (lib : Libraries) (nodeId : String) (nonce : BitVec 64) (g g' : Gateway) : Prop where
  queue : g'.pendingCommands nodeId = g.pendingCommands nodeId
  deferred : g'.deferredReplies nodeId = g.deferredReplies nodeId
  session : ∀ session, g.sessionManager.sessions nodeId = some session → g'.sessionManager.sessions nodeId = some session
  responses : ∀ events, AllOwn lib nodeId nonce g' events → responses lib nodeId g' events = responses lib nodeId g events

/-! ## What the replay does -/

def blobRoute (handlers : List (List ProgramMatcher)) (wake : WakeFields) : Option (Nat × Bytes) :=
  wake.blob.bind fun data =>
    if data = [] ∨ wake.programHash = [] then none else (findHandler handlers wake.programHash).map (·, data)

def Enqueues (nodeId : String) (wake : WakeFields) (g g' : Gateway) : Prop :=
  (blobRoute g.handlers wake = none ∧ g'.wakeBlobTasks = g.wakeBlobTasks) ∨
    ∃ route message, blobRoute g.handlers wake = some route ∧
      g'.wakeBlobTasks = g.wakeBlobTasks ++ [⟨route.1, message, nodeId⟩]

variable {lib : Libraries} {inputs : Inputs} {node : NodeRecord} {header : FrameHeader} {payload : Bytes}
  {wake : WakeFields} {seq : BitVec 64} {g : Gateway}

theorem routeWakeBlob_enqueues {nodeId : String} {t : Gateway} (nonce : BitVec 64)
    (tasks : t.wakeBlobTasks = g.wakeBlobTasks) (handlers : t.handlers = g.handlers) :
    Enqueues nodeId wake g (routeWakeBlob inputs nodeId nonce wake t).2 := by
  unfold Enqueues blobRoute routeWakeBlob
  rw [update_run]
  cases wake.blob with
  | none => exact .inl ⟨rfl, tasks⟩
  | some data =>
    dsimp only
    rw [handlers, Option.bind_some]
    split
    · exact .inl ⟨rfl, tasks⟩
    cases findHandler g.handlers wake.programHash with
    | none => exact .inl ⟨rfl, tasks⟩
    | some handler => exact .inr ⟨(handler, data), _, rfl, by rw [tasks]⟩

def accompanies (inputs : Inputs) (node : NodeRecord) (wake : WakeFields) (g : Gateway) : Option Bytes :=
  if (selection inputs node wake g (g.pendingCommands node.nodeId)).1 = .nop then g.deferredReplies node.nodeId else none

def commandMessage (inputs : Inputs) (node : NodeRecord) (seq : BitVec 64) (wake : WakeFields) (g : Gateway) : GatewayMessage :=
  .command seq (BitVec.ofNat 64 inputs.timestampMs) (selection inputs node wake g (g.pendingCommands node.nodeId)).1
    (accompanies inputs node wake g)

structure Opened (inputs : Inputs) (node : NodeRecord) (nonce seq : BitVec 64) (wake : WakeFields) (g g' : Gateway) : Prop where
  programs : g'.programs = g.programs
  handlers : g'.handlers = g.handlers
  queue : g'.pendingCommands node.nodeId = (selection inputs node wake g (g.pendingCommands node.nodeId)).2
  session : g'.sessionManager.sessions node.nodeId = some
    { nodeId := node.nodeId, peerAddress := inputs.peer, wakeNonce := nonce, nextExpectedSeq := seq,
      createdAt := inputs.instant, state := (transferState (selection inputs node wake g
        (g.pendingCommands node.nodeId)).1).getD .awaitingPostWake, number := g.sessionManager.created }
  timeout : g'.sessionManager.timeout = g.sessionManager.timeout
  deferred : g'.deferredReplies =
    if (accompanies inputs node wake g).isSome ∧ (commandMessage inputs node seq wake g).encode.length ≤ maxPayloadSize then
      Function.update g.deferredReplies node.nodeId none
    else g.deferredReplies
  tasks : Enqueues node.nodeId wake g g'
  holds : Holds (rowCore node) (reconciled inputs node wake.programHash) g'

theorem handleWake_opens (decodes : decodeWake lib payload = some wake) (drawn : inputs.random = some seq)
    (fresh : (g.sessionManager.getSession node.nodeId).bind (retriedCommand header.nonce) = none)
    (found : g.nodes.lookup node.nodeId = some node) : (handleWake lib inputs node header payload g).1 =
        (encodeFrame lib.provider ⟨node.keyHint, msgCommand, header.nonce⟩ (commandMessage inputs node seq wake g).encode
          node.psk).mapError (fun _ => .discarded) ∧
      Opened inputs node header.nonce seq wake g (handleWake lib inputs node header payload g).2 := by
  have choice := wakeCommand_run wake drawn fresh
  have picked : chosen inputs node header.nonce wake g = selection inputs node wake g (g.pendingCommands node.nodeId) := by
    unfold chosen
    rw [fresh]
  have message : wakeResponse inputs node header.nonce seq wake g = commandMessage inputs node seq wake g := by
    unfold wakeResponse commandMessage chosenBlob accompanies
    rw [picked]
  obtain ⟨_, _, _, _, state, -⟩ := handleWake_state decodes choice
  obtain ⟨t, served, run⟩ := handleWake_run decodes drawn fresh
  have blob : chosenBlob inputs node header.nonce wake g = accompanies inputs node wake g := by
    unfold chosenBlob accompanies
    rw [picked]
  have unsent : (handleWake lib inputs node header payload g).2.pendingCommands = t.pendingCommands ∧
      (handleWake lib inputs node header payload g).2.sessionManager = t.sessionManager := by
    rw [run]
    split <;> exact ⟨rfl, rfl⟩
  refine ⟨?_, ?_, ?_, ?_, ?_, ?_, ?_, ?_, ?_⟩
  · rw [handleWake_response decodes drawn fresh, message]
  · rw [state]
  · rw [state]
  · rw [unsent.1, served.queue, picked]
  · rw [unsent.2, served.session, picked]
  · rw [state, transferred_timeout]
    rfl
  · rw [run, blob, message]
    cases sent : encodeFrame lib.provider ⟨node.keyHint, msgCommand, header.nonce⟩ (commandMessage inputs node seq wake g).encode
        node.psk with
    | error e =>
      have long : ¬(commandMessage inputs node seq wake g).encode.length ≤ maxPayloadSize := fun fits => by
        rw [encodeFrame_ok.mpr ⟨fits, rfl⟩] at sent
        cases sent
      simp only [long, and_false, if_false, served.deferred]
    | ok frame =>
      have fits := (encodeFrame_ok.mp sent).1
      simp only [fits, and_true, served.deferred]
  · unfold Enqueues
    rw [(handleWake_routes decodes choice).2]
    exact routeWakeBlob_enqueues header.nonce (by rw [reconciledState_eq]) (by rw [reconciledState_eq])
  · rw [state]
    exact ⟨wokenRecord inputs node wake node, by simp [rowCore, found], rowCore_woken _ _ _ _, wokenRecord_current wake rfl rfl⟩

/-! ## Frames that tell two gateways apart -/

def probeInputs : Inputs := { smallInputs with random := some 0, fault := fun _ => true }

def probePayload : Bytes := (NodeMessage.wake 0 [] 0 [] none).encode

def probe (nonce : BitVec 64) : Followup := .frame probeInputs ⟨0, msgWake, nonce⟩ probePayload

theorem probePayload_decodes (lib : Libraries) : decodeWake lib probePayload = some ⟨0, [], 0, [], none⟩ := by
  unfold decodeWake probePayload
  have valid : (NodeMessage.wake 0 [] 0 [] none).Valid := ⟨by decide, by decide, by decide, by decide, rfl, nofun⟩
  have decoded := NodeMessage.decode_encode lib.reader valid
  rw [NodeMessage.msgType] at decoded
  rw [decoded]

theorem probe_selection (node : NodeRecord) (s : Gateway) (cmds : List PendingCommand) :
    selection probeInputs node ⟨0, [], 0, [], none⟩ s cmds = selectQueued cmds := by
  have hidden (call : StorageCall) : visibleProgram probeInputs call s = fun _ => none := rfl
  have stays : EphemeralStays (fun _ => none) 0 cmds := fun _ _ => rfl
  have kept : selectEphemeral (fun _ => none) 0 cmds = (none, cmds) :=
    selectEphemeral_stays (fun _ _ stored => by cases stored) stays
  have current : selectUpdate (fun _ => none) node.assignedProgramHash [] 0 = none := by
    cases update : selectUpdate (fun _ => none) node.assignedProgramHash [] 0 with
    | none => rfl
    | some command =>
      obtain ⟨_, _, _, -, -, stored, -⟩ := updateDue_iff.mpr (Option.isSome_iff_exists.mpr ⟨command, update⟩)
      cases stored
  unfold selection
  rw [hidden, hidden, selectFrom_of_stays kept, current]

structure Probed (core : RowCore) (nonce : BitVec 64) (current : Option Bytes) (s s' : Gateway) : Prop where
  holds : Holds core current s'
  handlers : s'.handlers = s.handlers
  queue : s'.pendingCommands core.nodeId = (selectQueued (s.pendingCommands core.nodeId)).2
  session : ∃ session, s'.sessionManager.sessions core.nodeId = some session ∧ session.wakeNonce = nonce ∧
    session.nextExpectedSeq = 0 ∧ session.createdAt = 0 ∧ session.state = .awaitingPostWake
  deferred : (selectQueued (s.pendingCommands core.nodeId)).1 ≠ .nop → s'.deferredReplies = s.deferredReplies

def probeAnswer (lib : Libraries) (core : RowCore) (nonce : BitVec 64) (s : Gateway) : Option Bytes :=
  let command := (selectQueued (s.pendingCommands core.nodeId)).1
  let blob := if command = .nop then s.deferredReplies core.nodeId else none
  (encodeFrame lib.provider ⟨core.keyHint, msgCommand, nonce⟩ (GatewayMessage.command 0 1000 command blob).encode
    core.psk).toOption

variable {core : RowCore} {nonce : BitVec 64} {current : Option Bytes} {s : Gateway}

theorem probe_run (lib : Libraries) (nonce : BitVec 64) (holds : Holds core current s)
    (fresh : ∀ session, s.sessionManager.sessions core.nodeId = some session → retriedCommand nonce session = none) :
    ((probe nonce).run lib core.nodeId s).1 = probeAnswer lib core nonce s ∧
      Probed core nonce current s ((probe nonce).run lib core.nodeId s).2 := by
  obtain ⟨row, found, rfl, rfl⟩ := holds
  let header : FrameHeader := ⟨0, msgWake, nonce⟩
  have unretried : (s.sessionManager.getSession row.nodeId).bind (retriedCommand header.nonce) = none := by
    cases live : s.sessionManager.getSession row.nodeId with
    | none => rfl
    | some session => exact fresh session live
  obtain ⟨answer, opened⟩ := handleWake_opens (probePayload_decodes lib) (rfl : probeInputs.random = some 0) unretried found
  have picked := probe_selection row s (s.pendingCommands row.nodeId)
  have blob : accompanies probeInputs row ⟨0, [], 0, [], none⟩ s =
      if (selectQueued (s.pendingCommands row.nodeId)).1 = .nop then s.deferredReplies row.nodeId else none := by
    rw [accompanies, picked]
  have run : (probe nonce).run lib row.nodeId s = ((handleWake lib probeInputs row header probePayload s).1.toOption,
      (handleWake lib probeInputs row header probePayload s).2) := by
    have here : s.nodes.lookup row.nodeId = some row := found
    simp only [probe, Followup.run, here]
    rfl
  have unreconciled : reconciled probeInputs row [] = row.currentProgramHash := if_neg fun fires => by cases fires.2.2
  have untransferred : transferState (selectQueued (s.pendingCommands row.nodeId)).1 = none := by
    unfold selectQueued
    split
    · rfl
    · split <;> rfl
  rw [show (rowCore row).nodeId = row.nodeId from rfl, run]
  refine ⟨?_, unreconciled ▸ opened.holds, opened.handlers, ?_, ⟨_, opened.session, rfl, rfl, rfl, ?_⟩, ?_⟩
  · rw [answer, commandMessage, picked, blob]
    exact toOption_mapError _ _
  · exact opened.queue.trans (congrArg Prod.snd picked)
  · rw [picked, untransferred]
    rfl
  · intro (queued : (selectQueued (s.pendingCommands row.nodeId)).1 ≠ .nop)
    rw [opened.deferred, blob, if_neg queued]
    exact if_neg (by simp)

def dataInputs (target : Bytes) : Inputs :=
  { smallInputs with
    sendData := fun _ message =>
      match message with
      | .data _ _ programHash _ _ _ => if programHash = target then some ([1], 0) else none
      | .event .. => none }

def dataFrame (target : Bytes) : Followup := .frame (dataInputs target) ⟨0, msgAppData, 0⟩ (NodeMessage.appData []).encode

theorem callHandler_dataInputs (core : RowCore) (s : Gateway) (target blob programHash : Bytes) (header : FrameHeader)
    (handler : Nat) : (callHandler (dataInputs target) core header blob programHash handler s).1 =
      if programHash = target then
        .ok (⟨core.keyHint, msgAppDataReply, header.nonce⟩, (GatewayMessage.appDataReply [1]).encode)
      else .error .discarded := by
  by_cases same : programHash = target
  · simp only [callHandler, bind_run, read_run, update_run, dataInputs, if_pos same]
    rfl
  · simp only [callHandler, bind_run, read_run, update_run, dataInputs, if_neg same]
    rfl

theorem dataFrame_answered (lib : Libraries) {session : Session} (holds : Holds core current s) (target : Bytes)
    (live : s.sessionManager.sessions core.nodeId = some session) (next : session.nextExpectedSeq = 0)
    (created : session.createdAt = 0) :
    ((dataFrame target).run lib core.nodeId s).1.isSome = true ↔ (routed s.handlers current).map Prod.fst = some target := by
  obtain ⟨row, found, rfl, rfl⟩ := holds
  have accepted : verifyAndAdvanceSeq (dataInputs target) row.nodeId 0 s =
      (.ok (), s.withSession row.nodeId (some { session with nextExpectedSeq := session.nextExpectedSeq + 1 })) := by
    have here : s.sessionManager.sessions row.nodeId = some session := live
    rw [verifyAndAdvanceSeq_eq, here]
    dsimp only
    rw [created, next, if_neg (by simp [dataInputs, smallInputs]), if_neg (by simp)]
  have run : ((dataFrame target).run lib row.nodeId s).1 =
      ((answerInSession lib row (handleAppDataCore (dataInputs target) row ⟨0, msgAppData, 0⟩ [])
        (s.withSession row.nodeId (some { session with nextExpectedSeq := session.nextExpectedSeq + 1 }))).1).toOption := by
    have here : s.nodes.lookup row.nodeId = some row := found
    have decoded := NodeMessage.decode_encode lib.reader (show (NodeMessage.appData []).Valid from show 0 < 2 ^ 64 by decide)
    rw [NodeMessage.msgType] at decoded
    simp only [dataFrame, Followup.run, here, handleAs]
    rw [if_neg (by decide), if_pos (by decide), handlePostWake]
    simp only [bind_run, decoded, Except.toOption, orDiscard, pure_run, accepted]
  rw [show (rowCore row).nodeId = row.nodeId from rfl, run]
  generalize inSession : s.withSession row.nodeId _ = t
  have handlers : t.handlers = s.handlers := by rw [← inSession]; rfl
  obtain ⟨outputs, core⟩ := handleAppDataCore_eq (dataInputs target) row ⟨0, msgAppData, 0⟩ [] t
  unfold answerInSession
  rw [bind_run, core, handlers]
  cases routed s.handlers row.currentProgramHash with
  | none => simp [Except.toOption]
  | some route =>
    have called := callHandler_dataInputs (rowCore row) t target [] route.1 ⟨0, msgAppData, 0⟩ route.2
    cases run : callHandler (dataInputs target) (rowCore row) ⟨0, msgAppData, 0⟩ [] route.1 route.2 t with
    | mk outcome after =>
      rw [run] at called
      dsimp only at called ⊢
      subst called
      by_cases same : route.1 = target
      · rw [run, if_pos same]
        simp only [Option.map_some, same, iff_true, bind_run, read_run, encodeResponse]
        rw [encodeFrame_ok.mpr ⟨show (GatewayMessage.appDataReply [1]).encode.length ≤ maxPayloadSize by decide, rfl⟩]
        rfl
      · rw [run, if_neg same]
        simp [Except.toOption, same]

theorem probes_own {nodeId : String} (count : Nat) (s : Gateway) :
    AllOwn lib nodeId nonce s (replicate count (probe (nonce + 1))) := by
  induction count generalizing s with
  | zero => trivial
  | succ count ih =>
    refine ⟨fun session _ _ => ?_, ih _⟩
    simp

theorem retriedCommand_awaiting {session : Session} (waiting : session.state = .awaitingPostWake) :
    retriedCommand nonce session = none := by
  unfold retriedCommand
  rw [waiting]

theorem probeAnswer_carries {frame : Bytes} (nop : (selectQueued (s.pendingCommands core.nodeId)).1 = .nop)
    (answers : probeAnswer lib core nonce s = some frame) :
    Carries lib core nonce frame .nop (s.deferredReplies core.nodeId) := by
  refine ⟨0, 1000, ?_⟩
  rw [probeAnswer, nop, if_pos rfl] at answers
  cases sent : encodeFrame lib.provider ⟨core.keyHint, msgCommand, nonce⟩
      (GatewayMessage.command 0 1000 .nop (s.deferredReplies core.nodeId)).encode core.psk with
  | error e =>
    rw [sent] at answers
    cases answers
  | ok sealed =>
    rw [sent] at answers
    exact congrArg Except.ok (Option.some.inj answers)

theorem probes_differ (lib : Libraries) (nonce : BitVec 64) {current' : Option Bytes} {s' : Gateway} {b : BitVec 8}
    (holds : Holds core current s) (holds' : Holds core current' s')
    (fresh : ∀ session, s.sessionManager.sessions core.nodeId = some session → retriedCommand nonce session = none)
    (fresh' : ∀ session, s'.sessionManager.sessions core.nodeId = some session → retriedCommand nonce session = none)
    (queue : s'.pendingCommands core.nodeId = s.pendingCommands core.nodeId)
    (waits : s'.deferredReplies core.nodeId = some [b]) (other : s.deferredReplies core.nodeId ≠ some [b]) :
    ∃ count, responses lib core.nodeId s' (replicate count (probe nonce)) ≠
      responses lib core.nodeId s (replicate count (probe nonce)) := by
  induction length : (s.pendingCommands core.nodeId).length using Nat.strong_induction_on generalizing s s' with
  | _ length ih =>
    obtain ⟨answer, probed⟩ := probe_run lib nonce holds fresh
    obtain ⟨answer', probed'⟩ := probe_run lib nonce holds' fresh'
    by_cases nop : (selectQueued (s.pendingCommands core.nodeId)).1 = .nop
    · refine ⟨1, fun same => other ?_⟩
      have answers : probeAnswer lib core nonce s' = probeAnswer lib core nonce s := by
        rw [← answer, ← answer']
        exact (cons.inj same).1
      have nop' : (selectQueued (s'.pendingCommands core.nodeId)).1 = .nop := by rwa [queue]
      obtain ⟨frame, sent⟩ : ∃ frame, probeAnswer lib core nonce s' = some frame := by
        have short : (GatewayMessage.command 0 1000 .nop (some [b])).encode.length ≤ maxPayloadSize :=
          Nat.le_of_ble_eq_true rfl
        rw [probeAnswer, nop', waits, if_pos rfl, encodeFrame_ok.mpr ⟨short, rfl⟩]
        exact ⟨_, rfl⟩
      exact (probeAnswer_carries nop (answers ▸ sent)).unique (waits ▸ probeAnswer_carries nop' sent)
    · have shorter := (selectQueued_delivers (fun _ => none) 0 _).2.resolve_right fun only =>
          nop (congrArg Prod.fst (selectQueued_only ⟨only.1, count_eq_zero.mp only.2⟩))
      have unretried {t t' : Gateway} {was : Option Bytes} (probed : Probed core nonce was t t') (session : Session)
          (live : t'.sessionManager.sessions core.nodeId = some session) : retriedCommand nonce session = none := by
        obtain ⟨opened, here, -, -, -, waiting⟩ := probed.session
        cases here.symm.trans live
        exact retriedCommand_awaiting waiting
      obtain ⟨count, differ⟩ := ih _ (by rw [← length]; exact shorter) probed.holds probed'.holds (unretried probed)
        (unretried probed') (by rw [probed.queue, probed'.queue, queue]) (by rw [probed'.deferred (by rwa [queue])]; exact waits)
        (by rw [probed.deferred nop]; exact other) (by rw [probed.queue])
      exact ⟨count + 1, fun same => differ (cons.inj same).2⟩

/-! ## The replay -/

structure Unaffected (inputs : Inputs) (node : NodeRecord) (seq : BitVec 64) (wake : WakeFields) (g : Gateway) : Prop where
  session : g.sessionManager.sessions node.nodeId = none
  ephemeral : EphemeralStays (visibleProgram inputs .ephemeralProgram g) wake.firmwareAbiVersion (g.pendingCommands node.nodeId)
  queued : UpdateDue (visibleProgram inputs .assignedProgram g) node.assignedProgramHash wake.programHash
    wake.firmwareAbiVersion ∨ OnlyEphemeral (g.pendingCommands node.nodeId)
  deferred : UpdateDue (visibleProgram inputs .assignedProgram g) node.assignedProgramHash wake.programHash
    wake.firmwareAbiVersion ∨ ∀ data, g.deferredReplies node.nodeId = some data →
      maxPayloadSize < (GatewayMessage.command seq (BitVec.ofNat 64 inputs.timestampMs) .nop (some data)).encode.length
  routing : node.assignedProgramHash = some wake.programHash → inputs.fault .reconcile = false →
    routed g.handlers (some wake.programHash) = routed g.handlers node.currentProgramHash
  blob : blobRoute g.handlers wake = none

section
variable {g' : Gateway}

theorem visibleProgram_own (own : OwnHash g.programs) (call : StorageCall) : OwnHash (visibleProgram inputs call g) := by
  intro programHash record stored
  unfold visibleProgram at stored
  split at stored
  · cases stored
  · exact own programHash record stored

theorem routing_iff :
    routed g.handlers (reconciled inputs node wake.programHash) = routed g.handlers node.currentProgramHash ↔
    (node.assignedProgramHash = some wake.programHash → inputs.fault .reconcile = false →
      routed g.handlers (some wake.programHash) = routed g.handlers node.currentProgramHash) := by
  by_cases due : node.assignedProgramHash = some wake.programHash ∧ inputs.fault .reconcile = false
  · rw [(reconciled_iff _).mpr (.inr due)]
    exact ⟨fun same _ _ => same, fun same => same due.1 due.2⟩
  · rw [reconciled, if_neg fun fires => due ⟨fires.1, fires.2.2⟩]
    exact ⟨fun _ assigned works => absurd ⟨assigned, works⟩ due, fun _ => rfl⟩

theorem routed_unique {handlers : List (List ProgramMatcher)} {current current' : Option Bytes}
    (same : ∀ target, (routed handlers current).map Prod.fst = some target ↔ (routed handlers current').map Prod.fst = some target) :
    routed handlers current = routed handlers current' := by
  have route (current : Option Bytes) : routed handlers current =
      ((routed handlers current).map Prod.fst).bind fun programHash => (findHandler handlers programHash).map (programHash, ·) := by
    cases current with
    | none => rfl
    | some programHash => cases found : findHandler handlers programHash <;> simp [routed, found]
  rw [route current, route current', Option.ext same]

variable (opened : Opened inputs node nonce seq wake g g')
include opened

theorem Opened.queue_iff (own : OwnHash g.programs) : g'.pendingCommands node.nodeId = g.pendingCommands node.nodeId ↔
      EphemeralStays (visibleProgram inputs .ephemeralProgram g) wake.firmwareAbiVersion (g.pendingCommands node.nodeId) ∧
        (UpdateDue (visibleProgram inputs .assignedProgram g) node.assignedProgramHash wake.programHash
          wake.firmwareAbiVersion ∨ OnlyEphemeral (g.pendingCommands node.nodeId)) := by
  rw [opened.queue]
  exact selectFrom_stays_iff (visibleProgram_own own _)

theorem Opened.deferred_iff (own : OwnHash g.programs)
    (queue : g'.pendingCommands node.nodeId = g.pendingCommands node.nodeId) :
    g'.deferredReplies node.nodeId = g.deferredReplies node.nodeId ↔
      UpdateDue (visibleProgram inputs .assignedProgram g) node.assignedProgramHash wake.programHash
        wake.firmwareAbiVersion ∨ ∀ data, g.deferredReplies node.nodeId = some data →
          maxPayloadSize < (GatewayMessage.command seq (BitVec.ofNat 64 inputs.timestampMs) .nop (some data)).encode.length := by
  obtain ⟨stays, rest⟩ := (opened.queue_iff own).mp queue
  have nop : (selection inputs node wake g (g.pendingCommands node.nodeId)).1 = .nop ↔ ¬UpdateDue _ _ _ _ :=
    selectFrom_stays_nop (visibleProgram_own own _) stays rest
  rw [opened.deferred, commandMessage, accompanies]
  by_cases due : UpdateDue (visibleProgram inputs .assignedProgram g) node.assignedProgramHash wake.programHash
      wake.firmwareAbiVersion
  · have other : (selection inputs node wake g (g.pendingCommands node.nodeId)).1 ≠ .nop := fun idle => nop.mp idle due
    simp [due, other]
  · simp only [due, nop.mpr due, if_true, false_or]
    cases waits : g.deferredReplies node.nodeId with
    | none => simp [waits]
    | some data => simp [ite_apply, waits]

theorem Opened.deferred_all (stays : g'.deferredReplies node.nodeId = g.deferredReplies node.nodeId) :
    g'.deferredReplies = g.deferredReplies := by
  rw [opened.deferred] at stays ⊢
  split at stays
  · rename_i sent
    rw [if_pos sent]
    exact Function.update_eq_self_iff.mpr (by simpa using stays)
  · rename_i unsent
    rw [if_neg unsent]

theorem Opened.alike (own : OwnHash g.programs)
    (registered : g.nodes.lookup node.nodeId = some node) (unaffected : Unaffected inputs node seq wake g) :
    Alike (rowCore node) g.handlers nonce g' g := by
  have queue := (opened.queue_iff own).mpr ⟨unaffected.ephemeral, unaffected.queued⟩
  have deferred := opened.deferred_all ((opened.deferred_iff own queue).mpr unaffected.deferred)
  refine ⟨_, _, routing_iff.mpr unaffected.routing, opened.programs, ⟨opened.handlers, rfl⟩, queue, deferred, ?_,
    opened.timeout, .inr ⟨unaffected.session, fun session live => ?_⟩, opened.holds, node, registered, rfl, rfl⟩
  · rcases opened.tasks with ⟨-, same⟩ | ⟨route, message, routed, -⟩
    · exact same
    · cases unaffected.blob.symm.trans routed
  · cases opened.session.symm.trans live
    rfl

theorem Opened.fresh (session : Session) (live : g'.sessionManager.sessions node.nodeId = some session) :
    retriedCommand (nonce + 1) session = none := by
  cases opened.session.symm.trans live
  exact retriedCommand_other (by simp)

theorem Opened.routing (registered : g.nodes.lookup node.nodeId = some node)
    (vacant : g.sessionManager.sessions node.nodeId = none) (harmless : Harmless lib node.nodeId nonce g g') :
    routed g.handlers (reconciled inputs node wake.programHash) = routed g.handlers node.currentProgramHash := by
  refine routed_unique fun target => ?_
  have holds : Holds (rowCore node) node.currentProgramHash g := ⟨node, registered, rfl, rfl⟩
  obtain ⟨-, probed⟩ := probe_run lib (nonce + 1) holds fun session live => by cases vacant.symm.trans live
  obtain ⟨-, probed'⟩ := probe_run lib (nonce + 1) opened.holds opened.fresh
  obtain ⟨session, live, -, next, created, -⟩ := probed.session
  obtain ⟨session', live', opener, next', created', -⟩ := probed'.session
  have own : AllOwn lib node.nodeId nonce g' [probe (nonce + 1), dataFrame target] := by
    refine ⟨fun _ _ _ => by simp, fun session live same => ?_, trivial⟩
    cases live'.symm.trans live
    simp [opener] at same
  have answers := harmless.responses _ own
  have data := (cons.inj (cons.inj answers).2).1
  have routes := dataFrame_answered lib probed.holds target live next created
  have routes' := dataFrame_answered lib probed'.holds target live' next' created'
  rw [probed.handlers] at routes
  rw [probed'.handlers, opened.handlers] at routes'
  rw [← routes, ← routes']
  exact iff_of_eq (congrArg (fun response => response.isSome = true) data)

theorem Opened.blob (registered : g.nodes.lookup node.nodeId = some node)
    (vacant : g.sessionManager.sessions node.nodeId = none)
    (harmless : Harmless lib node.nodeId nonce g g') : blobRoute g.handlers wake = none := by
  rcases opened.tasks with ⟨none, -⟩ | ⟨route, message, -, tasks⟩
  · exact none
  obtain ⟨b, other⟩ : ∃ b : BitVec 8, g.deferredReplies node.nodeId ≠ some [b] := by
    by_cases zero : g.deferredReplies node.nodeId = some [0]
    · exact ⟨1, by simp [zero]⟩
    · exact ⟨0, zero⟩
  let replying : Inputs := { smallInputs with sendData := fun _ _ => some ([b], 0) }
  let reply : Event := .wakeBlobReply replying g.wakeBlobTasks.length
  have without : g.step lib reply = g := by simp [reply, Gateway.step]
  obtain ⟨outputs, wakeBlobTasks, replied⟩ : ∃ outputs wakeBlobTasks, g'.step lib reply =
      { g' with outputs, wakeBlobTasks, deferredReplies := Function.update g'.deferredReplies node.nodeId (some [b]) } := by
    simp only [reply, Gateway.step, tasks, getElem?_concat_length, runWakeBlobTask]
    exact ⟨_, _, rfl⟩
  have holds : Holds (rowCore node) node.currentProgramHash g := ⟨node, registered, rfl, rfl⟩
  have holds' : Holds (rowCore node) (reconciled inputs node wake.programHash) (g'.step lib reply) := by
    rw [replied]
    exact opened.holds
  obtain ⟨count, differ⟩ := probes_differ lib (nonce + 1) holds holds'
    (fun session live => by cases vacant.symm.trans live) (by rw [replied]; exact opened.fresh)
    (by rw [replied]; exact harmless.queue) (by rw [replied]; exact Function.update_self ..) other
  have answers := harmless.responses (.wakeBlobReply replying g.wakeBlobTasks.length :: replicate count (probe (nonce + 1)))
    ⟨trivial, probes_own _ _⟩
  have later : responses lib node.nodeId (g'.step lib reply) _ = responses lib node.nodeId (g.step lib reply) _ :=
    (cons.inj answers).2
  rw [without] at later
  exact absurd later differ

theorem Opened.harmless_iff (own : OwnHash g.programs) (registered : g.nodes.lookup node.nodeId = some node)
    (old : ∀ session, g.sessionManager.sessions node.nodeId = some session → session.wakeNonce ≠ nonce) :
    Harmless lib node.nodeId nonce g g' ↔ Unaffected inputs node seq wake g := by
  constructor
  · intro harmless
    have vacant : g.sessionManager.sessions node.nodeId = none := by
      refine Option.eq_none_iff_forall_ne_some.mpr fun session live => ?_
      cases opened.session.symm.trans (harmless.session session live)
      exact old _ live rfl
    obtain ⟨ephemeral, queued⟩ := (opened.queue_iff own).mp harmless.queue
    exact ⟨vacant, ephemeral, queued, (opened.deferred_iff own harmless.queue).mp harmless.deferred,
      routing_iff.mp (opened.routing registered vacant harmless), opened.blob registered vacant harmless⟩
  · intro unaffected
    have queue := (opened.queue_iff own).mpr ⟨unaffected.ephemeral, unaffected.queued⟩
    refine ⟨queue, (opened.deferred_iff own queue).mpr unaffected.deferred, fun session live => ?_, fun events genuine => ?_⟩
    · cases unaffected.session.symm.trans live
    · exact responses_alike (opened.alike own registered unaffected) genuine

end

theorem replayed_wake_harmless_iff (lib : Libraries) (inputs : Inputs) (g : Gateway) (node : NodeRecord)
    (decoded : DecodedFrame) (raw payload : Bytes) (decodes : decodeFrame raw = .ok decoded)
    (request : decoded.header.msgType = msgWake) (sends : Sends lib decoded node payload g) (own : OwnHash g.programs)
    (old : ∀ session, g.sessionManager.sessions node.nodeId = some session → session.wakeNonce ≠ decoded.header.nonce) :
    Harmless lib node.nodeId decoded.header.nonce g (processFrame lib inputs raw g).2 ↔
      (inputs.fault .nodesByKeyHint = false → ∀ wake seq, decodeWake lib payload = some wake → inputs.random = some seq →
        Unaffected inputs node seq wake g) := by
  have fresh : (g.sessionManager.getSession node.nodeId).bind (retriedCommand decoded.header.nonce) = none := by
    cases live : g.sessionManager.getSession node.nodeId with
    | none => rfl
    | some session => exact retriedCommand_other (old session live)
  have ignored (same : (processFrame lib inputs raw g).2 = g) :
      Harmless lib node.nodeId decoded.header.nonce g (processFrame lib inputs raw g).2 := by
    rw [same]
    exact ⟨rfl, rfl, fun _ live => live, fun _ _ => rfl⟩
  cases faulty : inputs.fault .nodesByKeyHint with
  | true =>
    refine iff_of_true (ignored ?_) (by rintro ⟨⟩)
    rw [sends.processFrame_faulty decodes (wakeFrame_fromNode request) faulty]
  | false =>
    have run := sends.processFrame_wake decodes request faulty
    cases decodesWake : decodeWake lib payload with
    | none =>
      refine iff_of_true (ignored ?_) (by rintro _ _ _ ⟨⟩)
      rw [run, handleWake, handleWakeCore, decodesWake]
      rfl
    | some wake =>
      cases drawn : inputs.random with
      | none =>
        refine iff_of_true (ignored ?_) (by rintro _ _ _ _ ⟨⟩)
        simp only [run, handleWake, handleWakeCore, decodesWake, wakeCommand, bind_run, read_run, fresh, drawn, orDiscard,
          pure_run]
        rfl
      | some seq =>
        obtain ⟨-, opened⟩ := handleWake_opens decodesWake drawn fresh sends.registered
        rw [run]
        simpa using opened.harmless_iff own sends.registered old

theorem replayed_wake_harmless : Harmless plainLib "n" 1 smallGateway (processFrame plainLib smallInputs (smallWake 1) smallGateway).2 := by
  refine (replayed_wake_harmless_iff plainLib smallInputs smallGateway smallNode smallDecoded (smallWake 1) smallPayload rfl rfl
    ⟨rfl, rfl, rfl, sole_of_only rfl⟩ nofun nofun).mpr fun _ wake seq decodes drawn => ?_
  cases (show decodeWake plainLib smallPayload = some ⟨1, [9], 3000, [0x31], none⟩ from rfl).symm.trans decodes
  exact ⟨rfl, nofun, .inr ⟨rfl, nofun⟩, .inr nofun, nofun, rfl⟩

def replayGateway : Gateway :=
  { (processFrame plainLib smallInputs (smallWake 2) smallGateway).2 with pendingCommands := fun _ => [.reboot] }

theorem replayed_wake_consumes : Sends plainLib smallDecoded seenNode smallPayload replayGateway ∧
      (∀ session, replayGateway.sessionManager.sessions "n" = some session → session.wakeNonce ≠ smallDecoded.header.nonce) ∧
      ¬Harmless plainLib "n" 1 replayGateway (processFrame plainLib smallInputs (smallWake 1) replayGateway).2 := by
  refine ⟨⟨rfl, rfl, rfl, sole_of_only rfl⟩, fun session live => ?_, fun harmless => ?_⟩
  · cases (show replayGateway.sessionManager.sessions "n" = some ⟨"n", [], 2, 5, 0, .awaitingPostWake, 0⟩ from rfl).symm.trans live
    decide
  · exact absurd harmless.queue (by decide +kernel)

end Sonde.Engine
