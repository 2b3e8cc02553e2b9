import Sonde.Gateway.FrameOutcome

namespace Sonde.Engine
open Lib Lib.Program Protocol Sonde.Gateway

variable {lib : Libraries} {inputs : Inputs} {node : NodeRecord} {header : FrameHeader} {payload frame : Bytes}
  {g g' : Gateway}

theorem encodeResponse_ok {cbor : Bytes} {psk : Bytes32} {session : Option Nat}
    (run : encodeResponse lib header cbor psk session g = (.ok frame, g')) :
    encodeFrame lib.provider header cbor psk = .ok frame := by
  unfold encodeResponse at run
  cases encoded : encodeFrame lib.provider header cbor psk with
  | error e =>
    rw [encoded] at run
    cases run
  | ok frame =>
    rw [encoded] at run
    cases run
    rfl

/-! ## Who sent a frame -/

def Sole (lib : Libraries) (decoded : DecodedFrame) (nodeId : String) (g : Gateway) : Prop :=
  ∀ id row, g.nodes.lookup id = some row → row.keyHint = decoded.header.keyHint →
    (openFrame lib.provider decoded row.psk).isOk → id = nodeId

structure Sends (lib : Libraries) (decoded : DecodedFrame) (node : NodeRecord) (payload : Bytes) (g : Gateway) : Prop where
  registered : g.nodes.lookup node.nodeId = some node
  hint : node.keyHint = decoded.header.keyHint
  opens : openFrame lib.provider decoded node.psk = .ok payload
  sole : Sole lib decoded node.nodeId g

theorem wakeFrame_fromNode {decoded : DecodedFrame} (request : decoded.header.msgType = msgWake) :
    decoded.header.msgType ≠ msgPeerRequest ∧ decoded.header.msgType ≠ msgDiagRequest := by
  rw [request]
  decide

section
variable {decoded : DecodedFrame} (sends : Sends lib decoded node payload g)
include sends

theorem Sends.candidate : node ∈ nodesByKeyHint decoded.header.keyHint g := by
  refine List.mem_filter.mpr ⟨List.mem_map.mpr ⟨⟨_, node⟩, AList.mem_lookup_iff.mp sends.registered, rfl⟩, ?_⟩
  simpa using sends.hint

theorem Sends.unique {row : NodeRecord} {plain : Bytes} (among : row ∈ nodesByKeyHint decoded.header.keyHint g)
    (opens : openFrame lib.provider decoded row.psk = .ok plain) : row = node := by
  obtain ⟨inTable, hint⟩ := List.mem_filter.mp among
  obtain ⟨⟨id, row⟩, entry, rfl⟩ := List.mem_map.mp inTable
  have found : g.nodes.lookup id = some row := AList.mem_lookup_iff.mpr entry
  have here : id = node.nodeId := sends.sole id row found (by simpa using hint) (by rw [opens]; rfl)
  rw [here, sends.registered] at found
  exact (Option.some.inj found).symm

theorem Sends.opening : openingNode lib decoded (nodesByKeyHint decoded.header.keyHint g) = some (node, payload) := by
  cases opened : openingNode lib decoded (nodesByKeyHint decoded.header.keyHint g) with
  | none =>
    have none := List.findSome?_eq_none_iff.mp opened node sends.candidate
    simp [sends.opens, Except.toOption] at none
  | some found =>
    obtain ⟨row, among, opened⟩ := List.exists_of_findSome?_eq_some opened
    cases opens : openFrame lib.provider decoded row.psk with
    | error e => simp [opens, Except.toOption] at opened
    | ok plain =>
      cases sends.unique among opens
      rw [sends.opens] at opened
      exact congrArg some (Option.some.inj opened).symm

theorem Sends.authenticate : authenticateNode lib inputs decoded g =
    if inputs.fault .nodesByKeyHint then (.error .discarded, g) else (.ok (node, payload), g) := by
  unfold authenticateNode
  cases fault : inputs.fault .nodesByKeyHint with
  | true =>
    rw [show guardFault inputs .nodesByKeyHint = discard by simp [guardFault, fault]]
    rfl
  | false =>
    rw [show guardFault inputs .nodesByKeyHint = pure () by simp [guardFault, fault]]
    change (if nodesByKeyHint decoded.header.keyHint g = [] then tryRecoveryAuth lib inputs decoded
      else orDiscard (openingNode lib decoded (nodesByKeyHint decoded.header.keyHint g))) g = _
    rw [if_neg (List.ne_nil_of_mem sends.candidate), sends.opening]
    rfl

theorem Sends.processFrame_wake {raw : Bytes} (decodes : decodeFrame raw = .ok decoded)
    (request : decoded.header.msgType = msgWake) (answered : inputs.fault .nodesByKeyHint = false) :
    processFrame lib inputs raw g = handleWake lib inputs node decoded.header payload g := by
  have authentic : authenticateNode lib inputs decoded g = (.ok (node, payload), g) := by
    rw [sends.authenticate, answered]
    rfl
  rw [processFrame_node decodes (wakeFrame_fromNode request), handleNodeFrame, bind_run, authentic]
  dsimp only
  rw [if_pos request]

theorem Sends.processFrame_faulty {raw : Bytes} (decodes : decodeFrame raw = .ok decoded)
    (fromNode : decoded.header.msgType ≠ msgPeerRequest ∧ decoded.header.msgType ≠ msgDiagRequest)
    (faulty : inputs.fault .nodesByKeyHint = true) : processFrame lib inputs raw g = (.error .discarded, g) := by
  rw [processFrame_node decodes fromNode, handleNodeFrame, bind_run, sends.authenticate, faulty]
  rfl

end

end Sonde.Engine
