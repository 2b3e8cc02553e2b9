import Sonde.Gateway.FrameOutcome

/-!
# Recovery of a node

A frame opens under the key of a row of `pending_recovery`. What process_frame does with it depends on whether a registered
node has the frame's key hint.
-/

namespace Sonde.Engine
open Lib Lib.Program Protocol Sonde.Gateway List

structure Configuration where
  phonePsks : List PhonePskRecord
  programs : Bytes → Option ProgramRecord
  pendingRecovery : List PendingRecoveryRecord
  handlers : List (List ProgramMatcher)

def Gateway.configuration (g : Gateway) : Configuration := ⟨g.phonePsks, g.programs, g.pendingRecovery, g.handlers⟩

section
variable {lib : Libraries} {inputs : Inputs} {node : NodeRecord} {header : FrameHeader} {payload : Bytes}

variable (lib inputs node header payload) in
def handleAs : Processing Bytes :=
  if header.msgType = msgWake then handleWake lib inputs node header payload
  else if header.msgType = msgGetChunk ∨ header.msgType = msgProgramAck ∨ header.msgType = msgAppData then
    handlePostWake lib inputs node header payload
  else discard

theorem handleAs_configuration : Fixes Gateway.configuration (handleAs lib inputs node header payload) :=
  .ite (handleWake_fixes (fun _ _ _ _ _ _ _ _ => rfl) _ _ _ _ _)
    (.ite (handlePostWake_fixes (fun _ _ _ _ _ _ => rfl) _ _ _ _ _) (.stop _))

end

/-! ## Recovery -/

/-- A frame that opens under the key of a row of `pending_recovery`, and under that of no other candidate there. -/
structure Recoverable (lib : Libraries) (inputs : Inputs) (g : Gateway) (raw : Bytes) (decoded : DecodedFrame)
    (row : PendingRecoveryRecord) (psk : Bytes32) (payload : Bytes) : Prop where
  decodes : decodeFrame raw = .ok decoded
  fromNode : decoded.header.msgType ≠ msgPeerRequest ∧ decoded.header.msgType ≠ msgDiagRequest
  sqlite : g.sqliteStorage = true
  current : g.cachedMasterKeyId = some row.masterKeyId
  pending : row ∈ g.pendingRecovery
  hint : row.keyHint = decoded.header.keyHint
  key : row.psk = some psk
  opens : openFrame lib.provider decoded psk = .ok payload
  only : ∀ other ∈ g.pendingRecovery, other.keyHint = decoded.header.keyHint → ∀ otherPsk, other.psk = some otherPsk →
    (openFrame lib.provider decoded otherPsk).isOk → other.nodeId = row.nodeId ∧ otherPsk = psk
  few : (g.pendingRecovery.filter (·.keyHint = decoded.header.keyHint)).length ≤ maxTrialCandidates
  answered : inputs.fault .nodesByKeyHint = false ∧ inputs.fault .pendingRecovery = false ∧
    inputs.fault .promoteNode = false ∧ inputs.fault .deletePendingRecovery = false

def recoveredNode (row : PendingRecoveryRecord) (psk : Bytes32) : NodeRecord := NodeRecord.new row.nodeId row.keyHint psk

def Gateway.promote (row : PendingRecoveryRecord) (psk : Bytes32) (g : Gateway) : Gateway :=
  { g with
    nodes := g.nodes.insert row.nodeId (recoveredNode row psk)
    pendingRecovery := g.pendingRecovery.filter fun other => ¬(other.keyHint = row.keyHint ∧ other.nodeId = row.nodeId) }

section
variable {lib : Libraries} {inputs : Inputs} {g : Gateway} {raw : Bytes} {decoded : DecodedFrame}
  {row : PendingRecoveryRecord} {psk : Bytes32} {payload : Bytes}

theorem handleNodeFrame_eq : handleNodeFrame lib inputs decoded = (do
    let (node, payload) ← authenticateNode lib inputs decoded
    handleAs lib inputs node decoded.header payload) := rfl

theorem findSome?_eq_of_unique {α β : Type} {f : α → Option β} {l : List α} {b : β} (found : ∃ a ∈ l, f a = some b)
    (unique : ∀ a ∈ l, ∀ b', f a = some b' → b' = b) : l.findSome? f = some b := by
  cases result : l.findSome? f with
  | none =>
    obtain ⟨a, member, here⟩ := found
    rw [findSome?_eq_none_iff.mp result a member] at here
    cases here
  | some b' =>
    obtain ⟨a, member, here⟩ := exists_of_findSome?_eq_some result
    rw [unique a member b' here]

variable (recoverable : Recoverable lib inputs g raw decoded row psk payload)

include recoverable in
theorem Recoverable.mem_candidates
    (candidate : NodeRecord) : candidate ∈ recoveryCandidates decoded row.masterKeyId g ↔
      ∃ other ∈ g.pendingRecovery, (other.keyHint = decoded.header.keyHint ∧ other.masterKeyId = row.masterKeyId) ∧
        ∃ otherPsk, other.psk = some otherPsk ∧ NodeRecord.new other.nodeId decoded.header.keyHint otherPsk = candidate := by
  have short : (g.pendingRecovery.filter fun other => other.keyHint = decoded.header.keyHint ∧
      other.masterKeyId = row.masterKeyId).length ≤ maxTrialCandidates := by
    refine le_trans ?_ recoverable.few
    refine Sublist.length_le (monotone_filter_right _ fun other both => ?_)
    exact decide_eq_true (of_decide_eq_true both).1
  simp only [recoveryCandidates, take_of_length_le short, mem_filterMap, mem_filter, decide_eq_true_eq,
    Option.map_eq_some_iff, and_assoc]

include recoverable in
theorem Recoverable.opening :
    openingNode lib decoded (recoveryCandidates decoded row.masterKeyId g) = some (recoveredNode row psk, payload) := by
  refine findSome?_eq_of_unique ⟨recoveredNode row psk, ?_, ?_⟩ fun candidate member result opened => ?_
  · rw [recoverable.mem_candidates]
    exact ⟨row, recoverable.pending, ⟨recoverable.hint, rfl⟩, psk, recoverable.key, by rw [recoveredNode, recoverable.hint]⟩
  · rw [show (recoveredNode row psk).psk = psk from rfl, recoverable.opens]
    rfl
  · obtain ⟨other, pending, ⟨hint, -⟩, otherPsk, key, rfl⟩ := (recoverable.mem_candidates candidate).mp member
    rw [show (NodeRecord.new other.nodeId decoded.header.keyHint otherPsk).psk = otherPsk from rfl] at opened
    cases open' : openFrame lib.provider decoded otherPsk with
    | error e =>
      rw [open'] at opened
      cases opened
    | ok plaintext =>
      obtain ⟨same, rfl⟩ := recoverable.only other pending hint otherPsk key (by rw [open']; rfl)
      rw [recoverable.opens] at opened
      cases opened
      rw [recoveredNode, same, recoverable.hint]

include recoverable in
theorem Recoverable.tryRecoveryAuth :
    tryRecoveryAuth lib inputs decoded g = (.ok (recoveredNode row psk, payload), g.promote row psk) := by
  obtain ⟨-, lookup, promote, delete⟩ := recoverable.answered
  simp only [Engine.tryRecoveryAuth, guardFault, lookup, promote, delete, bind_run, read_run, recoverable.sqlite,
    recoverable.current, orDiscard, pure_run, recoverable.opening, upsertNode, update_run, Program.onlyIf, if_true, if_false,
    Bool.false_eq_true]
  rw [Gateway.promote, recoverable.hint, recoverable.sqlite, recoverable.current]
  rfl

theorem registered_configuration (answered : inputs.fault .nodesByKeyHint = false)
    (registered : nodesByKeyHint decoded.header.keyHint g ≠ []) :
    (handleNodeFrame lib inputs decoded g).2.configuration = g.configuration := by
  have authenticated : authenticateNode lib inputs decoded g =
      orDiscard (openingNode lib decoded (nodesByKeyHint decoded.header.keyHint g)) g := by
    simp only [authenticateNode, guardFault, answered, bind_run, read_run, pure_run, if_neg registered, Bool.false_eq_true,
      if_false]
  rw [handleNodeFrame_eq, bind_run, authenticated]
  cases openingNode lib decoded (nodesByKeyHint decoded.header.keyHint g) with
  | none => rfl
  | some found => exact handleAs_configuration g

theorem recovery_iff (recoverable : Recoverable lib inputs g raw decoded row psk payload) :
    Engine.processFrame lib inputs raw g =
        handleAs lib inputs (recoveredNode row psk) decoded.header payload (g.promote row psk) ↔
      nodesByKeyHint decoded.header.keyHint g = [] := by
  rw [processFrame_node recoverable.decodes recoverable.fromNode]
  by_cases none : nodesByKeyHint decoded.header.keyHint g = []
  · refine iff_of_true ?_ none
    have authenticated : authenticateNode lib inputs decoded g =
        (.ok (recoveredNode row psk, payload), g.promote row psk) := by
      simp only [authenticateNode, guardFault, recoverable.answered.1, bind_run, read_run, pure_run, none, if_true,
        Bool.false_eq_true, if_false, recoverable.tryRecoveryAuth]
    rw [handleNodeFrame_eq, bind_run, authenticated]
  · refine iff_of_false (fun same => ?_) none
    -- Without a recovery the row is still there, and with it the row is gone.
    have kept : (handleNodeFrame lib inputs decoded g).2.pendingRecovery = g.pendingRecovery :=
      congrArg Configuration.pendingRecovery (registered_configuration recoverable.answered.1 none)
    have deleted : (handleAs lib inputs (recoveredNode row psk) decoded.header payload (g.promote row psk)).2.pendingRecovery =
        (g.promote row psk).pendingRecovery :=
      congrArg Configuration.pendingRecovery (handleAs_configuration _)
    have pending := recoverable.pending
    rw [← kept, same, deleted] at pending
    have absent := of_decide_eq_true (mem_filter.mp pending).2
    exact absent ⟨rfl, rfl⟩

end

def recoveryRow : PendingRecoveryRecord := ⟨0, "m", 0, some 8⟩

def recoveryGateway (nodes : Table String NodeRecord) : Gateway :=
  { smallGateway with nodes, sqliteStorage := true, cachedMasterKeyId := some 0, pendingRecovery := [recoveryRow] }

def recoveryWake : Bytes := smallFrame 1 (.wake 1 [9] 3000 [0x31] none) 8

def recoveryDecoded : DecodedFrame := ⟨⟨0, msgWake, 1⟩, recoveryWake.drop headerSize⟩

def recoveryPayload : Bytes := (NodeMessage.wake 1 [9] 3000 [0x31] none).encode

theorem recoveryGateway_recoverable (nodes : Table String NodeRecord) :
    Recoverable plainLib smallInputs (recoveryGateway nodes) recoveryWake recoveryDecoded recoveryRow 8 recoveryPayload where
  decodes := by decide +kernel
  fromNode := by decide
  sqlite := rfl
  current := rfl
  pending := mem_singleton_self _
  hint := rfl
  key := rfl
  opens := by decide +kernel
  only other member _ otherPsk key _ := by
    obtain rfl := mem_singleton.mp member
    exact ⟨rfl, (Option.some.inj key).symm⟩
  few := show ([recoveryRow].filter _).length ≤ _ by decide
  answered := ⟨rfl, rfl, rfl, rfl⟩

theorem recovery_iff_unknown_hint : Engine.processFrame plainLib smallInputs recoveryWake (recoveryGateway ∅) =
      handleAs plainLib smallInputs (recoveredNode recoveryRow 8) recoveryDecoded.header recoveryPayload
        ((recoveryGateway ∅).promote recoveryRow 8) :=
  (recovery_iff (recoveryGateway_recoverable ∅)).mpr rfl

theorem shared_hint_not_recovered :
    Recoverable plainLib smallInputs (recoveryGateway smallGateway.nodes) recoveryWake recoveryDecoded recoveryRow 8
      recoveryPayload ∧ Engine.processFrame plainLib smallInputs recoveryWake (recoveryGateway smallGateway.nodes) ≠
      handleAs plainLib smallInputs (recoveredNode recoveryRow 8) recoveryDecoded.header recoveryPayload
        ((recoveryGateway smallGateway.nodes).promote recoveryRow 8) := by
  refine ⟨recoveryGateway_recoverable _, fun same => ?_⟩
  have registered := congrArg (fun run => (run.2.nodes.lookup "m").isSome) same
  revert registered
  decide +kernel

end Sonde.Engine
