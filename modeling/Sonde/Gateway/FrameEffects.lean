import Sonde.Gateway.FrameOutcome
import Sonde.Gateway.Tasks

/-!
# What the steps of a frame do

Whatever holds of frames that are processed side by side follows from the effects of their steps.
-/

namespace Sonde.Engine
open Lib Lib.Program Protocol Sonde.Gateway FieldUpdate
open Lib.Task (Under)

def Access.outcome (nodeId : String) (before : Option NodeRecord) : Access → Option NodeRecord
  | .other | .removeSession _ => before
  | .upsertNode snapshot updates =>
    if nodeId = snapshot.nodeId then some (updates.foldl apply snapshot) else before
  | .updateNodeWakeMetadata id firmwareAbiVersion firmwareVersion =>
    if nodeId = id then before.map (apply · (.firmwareMetadata firmwareAbiVersion firmwareVersion))
    else before
  | .reconcileCurrentProgramHash id programHash =>
    if nodeId = id then before.map (Engine.reconcileCurrentProgramHash programHash) else before
  | .insertNodeIfNotExists record => if nodeId = record.nodeId then some (before.getD record) else before
  | .registerNode record => if nodeId = record.nodeId then some record else before
  | .deleteNode id => if nodeId = id then none else before

variable (record : NodeRecord)

theorem FieldUpdate.apply_nodeId (update : FieldUpdate) : (update.apply record).nodeId = record.nodeId := by
  cases update <;> rfl

theorem updates_nodeId (updates : List FieldUpdate) : (updates.foldl apply record).nodeId = record.nodeId := by
  induction updates generalizing record with
  | nil => rfl
  | cons update updates ih => exact (ih _).trans (apply_nodeId record update)

theorem insert_lookup (nodes : Table String NodeRecord) (record : NodeRecord) (nodeId : String) :
    (nodes.insert record.nodeId record).lookup nodeId =
      if nodeId = record.nodeId then some record else nodes.lookup nodeId := by
  split
  · rename_i here
    rw [here, AList.lookup_insert]
  · rename_i other
    rw [AList.lookup_insert_ne other]

theorem insert_outcome (nodes : Table String NodeRecord) (snapshot : NodeRecord) (updates : List FieldUpdate)
    (nodeId : String) : (nodes.insert snapshot.nodeId (updates.foldl apply snapshot)).lookup nodeId =
      (Access.upsertNode snapshot updates).outcome nodeId (nodes.lookup nodeId) := by
  have inserted := insert_lookup nodes (updates.foldl apply snapshot) nodeId
  rwa [updates_nodeId] at inserted

theorem Concurrent.insertNodeIfNotExists_records (g : Gateway) (nodeId : String) :
    (insertNodeIfNotExists record g).2.nodes.lookup nodeId =
      (Access.insertNodeIfNotExists record).outcome nodeId (g.nodes.lookup nodeId) := by
  unfold insertNodeIfNotExists
  simp only [bind_run, read_run, Access.outcome]
  cases found : g.nodes.lookup record.nodeId with
  | none =>
    refine (insert_lookup g.nodes record nodeId).trans ?_
    split
    · rename_i here
      rw [here, found]
      rfl
    · rfl
  | some existing =>
    split
    · rename_i here
      rw [here]
      refine found.trans ?_
      rw [found]
      rfl
    · rfl

/-! ## Effects -/

def Gateway.served (g : Gateway) : Table String NodeRecord × (Bytes → Option ProgramRecord) × SessionManager ×
    (String → List PendingCommand) × (String → Option Bytes) × List Sealed :=
  (g.nodes, g.programs, g.sessionManager, g.pendingCommands, g.deferredReplies, g.sealed)

def Access.MadeBy (holder : Option String) : Access → Prop
  | .upsertNode snapshot _ => holder = some snapshot.nodeId
  | .updateNodeWakeMetadata id .. | .reconcileCurrentProgramHash id _ => holder = some id
  | .insertNodeIfNotExists _ | .registerNode _ => holder = none
  | _ => False

def Commands (C : CommandPayload → Prop) (plaintext : Bytes) : Prop :=
  ∃ startingSeq timestampMs command blob,
    plaintext = (GatewayMessage.command startingSeq timestampMs command blob).encode ∧ C command

def Transfers (C : CommandPayload → Prop) (state : SessionState) : Prop :=
  ∀ command, transferState command = some state → C command

/-- What one call does for the node whose record the task holds, if it holds one. COMMANDs and transfers are of commands
that satisfy `C`; a deferred reply is removed only if `R`. -/
inductive Effect (R : Prop) (C : CommandPayload → Prop) (holder : Option String) (g : Gateway) :
    Access → Gateway → Prop
  | aside {g' : Gateway} (same : g'.served = g.served) : Effect R C holder g .other g'
  | queue {pendingCommands : String → List PendingCommand}
      (fewer : ∀ id, pendingCommands id ⊆ g.pendingCommands id) :
      Effect R C holder g .other { g with pendingCommands }
  | session {nodeId : String} {entry : Option Session} {sessionManager : SessionManager} (held : holder = some nodeId)
      (same : sessionManager.sessions = Function.update g.sessionManager.sessions nodeId entry)
      (states : ∀ session, entry = some session → Transfers C session.state ∨
        ∃ before, g.sessionManager.sessions nodeId = some before ∧ before.state = session.state) :
      Effect R C holder g .other { g with sessionManager }
  | record {access : Access} {nodes : Table String NodeRecord} (maker : access.MadeBy holder)
      (records : ∀ id, nodes.lookup id = access.outcome id (g.nodes.lookup id)) :
      Effect R C holder g access { g with nodes }
  | reply (nodeId : String) (entry : Option Bytes) (kept : entry = none → R) :
      Effect R C holder g .other { g with deferredReplies := Function.update g.deferredReplies nodeId entry }
  | sealing {frame : Sealed} (short : frame.plaintext.length ≤ maxPayloadSize)
      (commands : frame.header.msgType = msgCommand → Commands C frame.plaintext) :
      Effect R C holder g .other { g with sealed := frame :: g.sealed }

def Does (R : Prop) (C : CommandPayload → Prop) (holder : Option String) (g : Gateway) (label : Label) (g' : Gateway) :
    Prop :=
  label.holds = holder ∧ Effect R C holder g label.access g'

/-- The commands that the gateway finds in a state that satisfies `I` satisfy `C`. -/
structure Vouches (I : Gateway → Prop) (C : CommandPayload → Prop) : Prop where
  nop : C .nop
  reboot : C .reboot
  queued : ∀ g nodeId command intervalS, I g → command ∈ g.pendingCommands nodeId →
    scheduleInterval command = some intervalS → C (.updateSchedule intervalS)
  stored : ∀ g programHash program count, I g → g.programs programHash = some program →
    chunkCount program.image.length defaultChunkSize = some count →
    C (.updateProgram program.hash program.size defaultChunkSize count) ∧
      C (.runEphemeral program.hash program.size defaultChunkSize count)
  sessions : ∀ g nodeId session, I g → g.sessionManager.sessions nodeId = some session → Transfers C session.state

theorem Vouches.trivially {I : Gateway → Prop} : Vouches I fun _ => True :=
  ⟨trivial, trivial, fun _ _ _ _ _ _ _ => trivial, fun _ _ _ _ _ _ _ => ⟨trivial, trivial⟩, fun _ _ _ _ _ _ _ => trivial⟩

section
variable {α : Type} {R : Prop} {I : Gateway → Prop} {C : CommandPayload → Prop} {holder : Option String} {Q : α → Prop}
  {m : Processing α} {g : Gateway} {nodeId : String} {inputs : Inputs}

variable (R I C holder Q) in
abbrev Follows (t : Steps α) : Prop := t.Under I (Does R C holder) Q

variable (R I C holder) in
abbrev Goes (t : Steps α) : Prop := Follows R I C holder (fun _ => True) t

variable (C) in
def Offers (selected : Option CommandPayload) : Prop := ∀ command, selected = some command → C command

theorem call_follows (effect : ∀ g, I g → Effect R C holder g .other (m g).2) :
    Goes R I C holder (Concurrent.call holder m) :=
  .atomic (fun g holds => ⟨rfl, effect g holds⟩) fun _ _ _ _ _ => trivial

theorem aside_follows (fixed : Fixes Gateway.served m) : Goes R I C holder (Concurrent.call holder m) :=
  call_follows fun g _ => .aside (fixed g)

theorem read_follows {view : Gateway → α} (value : ∀ g, I g → Q (view g)) :
    Follows R I C holder Q (Concurrent.call holder (Program.read view)) := by
  refine .atomic (fun g _ => ⟨rfl, .aside rfl⟩) fun g holds _ a same => ?_
  cases same
  exact value g holds

theorem orDiscard_under {G : Gateway → Label → Gateway → Prop} {a : Option α} :
    (Concurrent.orDiscard a).Under I G fun b => a = some b := by
  cases a with
  | none => exact .stop
  | some a => exact .pure rfl

theorem onlyIf_follows {c : Prop} [Decidable c] {t : Steps Unit} (follows : c → Goes R I C holder t) :
    Goes R I C holder (Task.onlyIf c t) :=
  .ite follows fun _ => .pure trivial

theorem setState_effect (nodeId : String) {state : SessionState} (transfers : Transfers C state) (g : Gateway) :
    Effect R C (some nodeId) g .other (modifySessions (·.setState nodeId state) g).2 := by
  refine .session rfl rfl fun session found => .inl ?_
  obtain ⟨before, -, rfl⟩ := Option.map_eq_some_iff.mp found
  exact transfers

theorem enterTransfer_effect {command : CommandPayload} (proper : C command) (g : Gateway) :
    Effect R C (some nodeId) g .other (enterTransfer nodeId command g).2 := by
  unfold enterTransfer
  cases entered : transferState command with
  | none => exact .aside rfl
  | some state =>
    refine setState_effect nodeId (fun other same => ?_) g
    have again : other = command := by
      cases command <;> cases entered <;> cases other <;> cases same <;> rfl
    exact again ▸ proper

theorem verifyAndAdvanceSeq_effect (nodeId : String) (seq : BitVec 64) (g : Gateway) :
    Effect R C (some nodeId) g .other (verifyAndAdvanceSeq inputs nodeId seq g).2 := by
  unfold verifyAndAdvanceSeq SessionManager.verifyAndAdvanceSeq
  cases found : g.sessionManager.sessions nodeId with
  | none => exact .aside rfl
  | some session =>
    dsimp only
    split
    · exact .session rfl rfl fun _ none => by cases none
    split
    · exact .aside rfl
    · refine .session rfl rfl ?_
      rintro _ ⟨⟩
      exact .inr ⟨session, found, rfl⟩

theorem encodeResponse_effect (lib : Libraries) {header : FrameHeader} {cbor : Bytes}
    (commands : header.msgType = msgCommand → Commands C cbor) (psk : Bytes32) (session : Option Nat) (g : Gateway) :
    Effect R C holder g .other (encodeResponse lib header cbor psk session g).2 := by
  unfold encodeResponse
  cases sealing : encodeFrame lib.provider header cbor psk with
  | error e => exact .aside rfl
  | ok frame => exact .sealing (encodeFrame_ok.mp sealing).1 commands

theorem Concurrent.insertNodeIfNotExists_effect (record : NodeRecord) (g : Gateway) :
    Effect R C none g (.insertNodeIfNotExists record) (insertNodeIfNotExists record g).2 := by
  have only : (insertNodeIfNotExists record g).2 = { g with nodes := (insertNodeIfNotExists record g).2.nodes } := by
    unfold insertNodeIfNotExists
    simp only [bind_run, read_run]
    cases g.nodes.lookup record.nodeId <;> rfl
  rw [only]
  exact .record rfl (insertNodeIfNotExists_records record g)

end

/-! ## Frames -/

namespace Concurrent

variable {R : Prop} {I : Gateway → Prop} {C : CommandPayload → Prop} {nodeId : String} {lib : Libraries}
  {inputs : Inputs} {node : NodeRecord} {header : FrameHeader} {payload : Bytes} {decoded : DecodedFrame}

theorem editQueue_follows {edit : List PendingCommand → List PendingCommand} (fewer : ∀ commands, edit commands ⊆ commands) :
    Goes R I C (some nodeId) (call (some nodeId) (editQueue nodeId edit)) := by
  refine call_follows fun g _ => .queue fun id => ?_
  by_cases same : id = nodeId
  · subst same
    rw [Function.update_self]
    exact fewer _
  · rw [Function.update_of_ne same]
    exact List.Subset.refl _

section
variable (vouches : Vouches I C)
include vouches

theorem visibleProgram_follows (storage : StorageCall) (programHash : Bytes) :
    Follows R I C (some nodeId) (fun found => ∀ program, found = some program → ∀ count,
        chunkCount program.image.length defaultChunkSize = some count →
        C (.updateProgram program.hash program.size defaultChunkSize count) ∧
          C (.runEphemeral program.hash program.size defaultChunkSize count))
      (call (some nodeId) (Program.read fun g => visibleProgram inputs storage g programHash)) := by
  refine read_follows fun g holds program found count counted => ?_
  unfold visibleProgram at found
  split at found
  · cases found
  · exact vouches.stored g programHash program count holds found counted

omit vouches in
theorem none_follows : Follows R I C (some nodeId) (Offers C) (pure none) := .pure nofun

theorem selectEphemeral_follows (firmwareAbiVersion : Nat) : Follows R I C (some nodeId) (Offers C)
      (selectEphemeral inputs nodeId firmwareAbiVersion) := by
  refine .bind (aside_follows (.read _)) fun found _ => ?_
  cases found with
  | none => exact none_follows
  | some programHash =>
    refine .bind (visibleProgram_follows vouches _ _) fun found vouched => ?_
    cases found with
    | none => exact none_follows
    | some program =>
      refine .ite (fun _ => .bind (editQueue_follows fun _ => List.eraseP_subset) fun _ _ => none_follows)
        fun _ => .ite (fun _ => .bind (editQueue_follows List.filter_subset_self) fun _ _ => none_follows)
        fun _ => ?_
      cases counted : chunkCount program.image.length defaultChunkSize with
      | none => exact none_follows
      | some count =>
        refine .bind (editQueue_follows fun _ => List.eraseP_subset) fun _ _ => .pure ?_
        rintro command ⟨⟩
        exact (vouched program rfl count counted).2

theorem selectUpdate_follows (nodeProgramHash : Bytes) (firmwareAbiVersion : Nat) :
    Follows R I C (some node.nodeId) (Offers C) (selectUpdate inputs node nodeProgramHash firmwareAbiVersion) := by
  unfold selectUpdate
  cases node.assignedProgramHash with
  | none => exact none_follows
  | some assignedHash =>
    refine .ite (fun _ => none_follows) fun _ => .bind (visibleProgram_follows vouches _ _) fun found vouched => ?_
    cases found with
    | none => exact none_follows
    | some program =>
      refine .ite (fun _ => none_follows) fun _ => .pure fun command selected => ?_
      obtain ⟨count, counted, rfl⟩ := Option.map_eq_some_iff.mp selected
      exact (vouched program rfl count counted).1

theorem takeSchedule_follows : Follows R I C (some nodeId)
      (fun found => ∀ intervalS, found = some intervalS → C (.updateSchedule intervalS))
      (call (some nodeId) (takeSchedule nodeId)) := by
  have edit : Goes R I C (some nodeId)
      (call (some nodeId) (editQueue nodeId (·.eraseP fun c => (scheduleInterval c).isSome))) :=
    editQueue_follows fun _ => List.eraseP_subset
  refine .atomic (fun g holds => (edit g holds).1) fun g holds _ found same intervalS scheduled => ?_
  cases same
  obtain ⟨command, member, scheduled⟩ := List.exists_of_findSome?_eq_some scheduled
  exact vouches.queued g nodeId command intervalS holds member scheduled

theorem selectQueued_follows : Follows R I C (some nodeId) C (selectQueued nodeId) := by
  have edit : Goes R I C (some nodeId)
      (call (some nodeId) (editQueue nodeId (·.eraseP (· = .reboot)))) := editQueue_follows fun _ => List.eraseP_subset
  refine .bind (takeSchedule_follows vouches) fun scheduled proper => ?_
  cases scheduled with
  | some intervalS => exact .pure (proper intervalS rfl)
  | none =>
    refine .bind (call_follows fun g holds => (edit g holds).1.2) fun reboots _ => .pure ?_
    cases reboots with
    | true => exact vouches.reboot
    | false => exact vouches.nop

theorem selectCommand_follows (nodeProgramHash : Bytes) (firmwareAbiVersion : Nat) :
    Follows R I C (some node.nodeId) C (selectCommand inputs node nodeProgramHash firmwareAbiVersion) := by
  refine .bind (selectEphemeral_follows vouches _) fun ephemeral proper => ?_
  cases ephemeral with
  | some command => exact .pure (proper command rfl)
  | none =>
    refine .bind (selectUpdate_follows vouches _ _) fun update proper => ?_
    cases update with
    | some command => exact .pure (proper command rfl)
    | none => exact selectQueued_follows vouches

theorem wakeCommand_follows (nonce : BitVec 64) (wake : WakeFields) :
    Follows R I C (some node.nodeId) (fun answer => C answer.2) (wakeCommand inputs node nonce wake) := by
  refine .bind (read_follows (Q := fun existing => ∀ session : Session, existing = some session →
    Transfers C session.state) fun g holds session => vouches.sessions g _ session holds) fun existing transfers => ?_
  cases retries : existing.bind (retriedCommand nonce) with
  | some retried =>
    obtain ⟨session, present, retried⟩ := Option.bind_eq_some_iff.mp retries
    have transfers := transfers session present
    unfold retriedCommand at retried
    split at retried
    · rename_i isEphemeral state
      rw [state] at transfers
      split at retried
      · cases retried
        cases isEphemeral with
        | true => exact .pure (transfers _ rfl)
        | false => exact .pure (transfers _ rfl)
      · cases retried
    · cases retried
  | none =>
    refine .bind orDiscard_under fun seq _ => .bind (call_follows fun g _ => .session rfl rfl ?_)
      fun _ _ => .bind (selectCommand_follows vouches _ _) fun command proper => .pure proper
    rintro session ⟨⟩
    exact .inl fun command entered => by cases command <;> cases entered

def Built (node : NodeRecord) (nonce : BitVec 64) (response : FrameHeader × Bytes × Bool) : Prop :=
  response.1 = ⟨node.keyHint, msgCommand, nonce⟩ ∧ ∃ startingSeq timestampMs command blob,
    response.2.1 = (GatewayMessage.command startingSeq timestampMs command blob).encode ∧
    response.2.2 = blob.isSome ∧ (blob.isSome → command = .nop)

theorem handleWakeCore_follows : Follows R I C (some node.nodeId)
      (fun response => Built node header.nonce response ∧ Commands C response.2.1)
      (handleWakeCore lib inputs node header payload) := by
  refine .bind orDiscard_under fun wake _ => .bind (wakeCommand_follows vouches _ _) ?_
  rintro ⟨startingSeq, command⟩ proper
  refine .bind (call_follows fun g _ => enterTransfer_effect proper g) fun _ _ =>
    .bind (onlyIf_follows fun persists => .atomic (fun g _ => ⟨rfl, ?_⟩) fun _ _ _ _ _ => trivial)
    fun _ _ => .bind (aside_follows fun _ => rfl) fun _ _ =>
    .bind (onlyIf_follows fun _ => .atomic (fun g _ => ⟨rfl, .record rfl fun id => ?_⟩)
      fun _ _ _ _ _ => trivial) fun _ _ => .bind (aside_follows (.read _)) fun deferred _ =>
    .bind (aside_follows fun g => ?_) fun _ _ => .pure ?_
  · unfold updateNodeWakeMetadata Program.onlyIf
    rw [if_pos persists]
    exact .record rfl fun id => Table.lookup_update ..
  · exact Table.lookup_update ..
  · obtain ⟨_, _, routed⟩ := routeWakeBlob_run inputs node.nodeId header.nonce wake g
    exact congrArg (·.2.served) routed
  · refine ⟨⟨rfl, startingSeq, _, command, _, rfl, rfl, fun some => ?_⟩, _, _, _, _, rfl, proper⟩
    by_contra other
    rw [if_neg other] at some
    cases some

theorem handleWake_follows : Goes True I C (some node.nodeId) (handleWake lib inputs node header payload) := by
  refine .bind (handleWakeCore_follows vouches) ?_
  rintro ⟨responseHeader, responseCbor, deferredDelivered⟩ ⟨-, commands⟩
  exact .bind (call_follows fun g _ => encodeResponse_effect _ (fun _ => commands) _ _ g) fun _ _ => .bind
    (onlyIf_follows fun _ => call_follows fun g _ => .reply _ none fun _ => trivial) fun _ _ => .pure trivial

end

theorem handleGetChunkCore_follows (chunkIndex : Nat) :
    Follows R I C (some node.nodeId) (fun answer => answer.1.msgType ≠ msgCommand)
      (handleGetChunkCore inputs node header chunkIndex) := by
  refine .bind (aside_follows (.read _)) fun found _ => .bind orDiscard_under fun session _ => ?_
  cases session.state with
  | awaitingPostWake => exact .stop
  | bpfExecuting => exact .stop
  | chunkedTransfer programHash programSize chunkSize chunkCount isEphemeral =>
    exact .bind (aside_follows (.read _)) fun _ _ => .bind orDiscard_under fun _ _ =>
      .bind orDiscard_under fun _ _ => .pure (by simp [msgChunk, msgCommand])

theorem handleProgramAck_follows (programHash : Bytes) :
    Goes R I C (some node.nodeId) (handleProgramAck inputs node programHash) := by
  refine .bind (aside_follows (.read _)) fun found _ => onlyIf_follows fun _ => .bind
    (onlyIf_follows fun _ => .atomic (fun g _ => ⟨rfl, .record rfl ?_⟩) fun _ _ _ _ _ => trivial) fun _ _ =>
    .bind (aside_follows fun _ => rfl) fun _ _ => call_follows fun g _ => setState_effect _ (fun command entered => ?_) g
  · exact insert_outcome g.nodes node [.currentProgramHash programHash]
  · cases command <;> cases entered

theorem handleAppDataCore_follows (blob : Bytes) :
    Follows R I C (some node.nodeId) (fun answer => answer.1.msgType ≠ msgCommand)
      (handleAppDataCore inputs node header blob) := by
  refine .bind orDiscard_under fun programHash _ => .bind (aside_follows (.read _)) fun _ _ =>
    .bind (aside_follows (.read _)) fun _ _ => .bind (aside_follows fun _ => rfl) fun _ _ =>
    .bind orDiscard_under fun handler _ => .bind (aside_follows fun _ => rfl) fun _ _ => .bind orDiscard_under ?_
  rintro ⟨data, delivery⟩ -
  refine .ite (fun _ => .stop) fun _ => .ite (fun _ => ?_) fun _ => .pure (by simp [msgAppDataReply, msgCommand])
  exact .bind (onlyIf_follows fun _ => call_follows fun g _ => .reply _ (some data) fun none => by cases none)
    fun _ _ => .stop

theorem answerInSession_follows {core : Steps (FrameHeader × Bytes)}
    (follows : Follows R I C (some node.nodeId) (fun answer => answer.1.msgType ≠ msgCommand) core) :
    Goes R I C (some node.nodeId) (answerInSession lib node core) :=
  .bind follows fun _ other => call_follows fun g _ => encodeResponse_effect lib (fun command => absurd command other) _ _ g

theorem handlePostWake_follows : Goes R I C (some node.nodeId) (handlePostWake lib inputs node header payload) := by
  refine .bind orDiscard_under fun message _ =>
    .bind (call_follows fun g _ => verifyAndAdvanceSeq_effect _ _ g) fun _ _ => ?_
  cases message with
  | getChunk chunkIndex => exact answerInSession_follows (handleGetChunkCore_follows chunkIndex)
  | programAck programHash => exact .bind (handleProgramAck_follows programHash) fun _ _ => .stop
  | appData blob => exact answerInSession_follows (handleAppDataCore_follows blob)
  | _ => exact .stop

theorem authenticatePhone_follows : Goes R I C none (authenticatePhone lib inputs decoded) :=
  aside_follows (.bind (guardFault_fixes _ _) fun _ => .bind (.read _) fun _ => orDiscard_fixes _)

theorem registerPeer_follows (record : NodeRecord) : Goes R I C none (registerPeer inputs record) := by
  refine .ite (fun _ => .stop) fun _ => .bind (.atomic
    (fun g _ => ⟨rfl, insertNodeIfNotExists_effect record g⟩) fun _ _ _ _ _ => trivial) fun inserted _ =>
    .ite (fun _ => .pure trivial) fun _ => ?_
  exact .bind (aside_follows (.bind (guardFault_fixes _ _) fun _ => .read _)) fun _ _ =>
    .bind orDiscard_under fun _ _ => .ite (fun _ => .stop) fun _ => .pure trivial

theorem handlePeerRequest_follows : Goes R I C none (handlePeerRequest lib inputs decoded) := by
  refine .bind authenticatePhone_follows fun phone _ => .bind orDiscard_under fun request _ =>
    .bind orDiscard_under fun now _ => .ite (fun _ => .stop) fun _ =>
    .ite (fun _ => .stop) fun _ => .bind (registerPeer_follows _) fun _ _ =>
    call_follows fun g _ => encodeResponse_effect lib ?_ _ _ g
  intro command
  cases command

theorem handleDiagRequest_follows : Goes R I C none (handleDiagRequest lib inputs decoded) := by
  refine .bind authenticatePhone_follows ?_
  rintro ⟨phone, payload⟩ -
  dsimp only
  cases NodeMessage.decode lib.reader msgDiagRequest payload with
  | error e => exact .stop
  | ok message =>
    cases message with
    | diagRequest diagnosticType =>
      refine .ite (fun _ => .stop) fun _ => call_follows fun g _ => encodeResponse_effect lib ?_ _ _ g
      intro command
      cases command
    | _ => exact .stop

theorem tryRecoveryAuth_follows : (tryRecoveryAuth lib inputs decoded).Under I
      (fun g label g' => Effect R C none g label.access g') fun _ => True := by
  have aside {α : Type} {m : Processing α} {holds : Option String} (fixed : Fixes Gateway.served m) :
      (call holds m).Under I (fun g label g' => Effect R C none g label.access g') fun _ => True :=
    .atomic (fun g _ => .aside (fixed g)) fun _ _ _ _ _ => trivial
  refine .bind (aside (.read _)) fun _ _ => .bind orDiscard_under fun keyId _ =>
    .bind (aside (.bind (guardFault_fixes _ _) fun _ => .read _)) fun candidates _ =>
    .bind orDiscard_under ?_
  rintro ⟨node, payload⟩ -
  exact .ite (fun _ => .stop) fun _ => .bind (.atomic
    (fun g _ => .record rfl fun id => insert_lookup g.nodes node id) fun _ _ _ _ _ => trivial) fun _ _ =>
    .bind (.ite (fun _ => aside fun _ => rfl) fun _ => .pure trivial) fun _ _ =>
    .pure trivial

end Concurrent

end Sonde.Engine
