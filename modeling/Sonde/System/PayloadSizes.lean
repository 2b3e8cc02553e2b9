import Sonde.Gateway.Engine
import Sonde.Node.Dispatch

namespace Sonde.System
open Lib Protocol Node Engine GatewayMessage List

structure Framed (provider : Provider) (payload : Bytes) : Prop where
  length : payload.length ≤ maxPayloadSize
  encodes : ∀ header psk, ∃ frame, encodeFrame provider header payload psk = .ok frame

variable {provider : Provider} {startingSeq timestampMs : BitVec 64} {blob : Option Bytes}

theorem Framed.of_length {payload : Bytes} (fits : payload.length ≤ maxPayloadSize) : Framed provider payload :=
  ⟨fits, fun _ _ => ⟨_, encodeFrame_ok.mpr ⟨fits, rfl⟩⟩⟩

theorem nop_framed (short : ∀ data ∈ blob, data.length ≤ maxCommandBlobSize) :
    Framed provider (command startingSeq timestampMs .nop blob).encode := by
  refine .of_length ((command_length _ _ _ _).trans ?_)
  cases blob with
  | none => decide
  | some data =>
    have bound : data.length ≤ 193 := short data rfl
    have encoded := Cbor.bytes_length (bound.trans_lt (by decide))
    simp only [CommandPayload.payloadVal, Option.elim, if_true, show maxPayloadSize = 223 from rfl]
    omega

theorem program_framed {payload : CommandPayload} (other : payload ≠ .nop) {programHash : Bytes}
    {programSize chunkSize chunkCount : Nat} (hash : programHash.length = 32)
    (carries : payload.payloadVal = (CommandPayload.updateProgram programHash programSize chunkSize chunkCount).payloadVal) :
    Framed provider (command startingSeq timestampMs payload blob).encode := by
  have whole := command_length startingSeq timestampMs payload blob
  have inner : (cborEncodeMap [(keyProgramHash, .bytes programHash), (keyProgramSize, .unsigned programSize),
      (keyChunkSize, .unsigned chunkSize), (keyChunkCount, .unsigned chunkCount)]).length ≤ 66 := by
    have encoded := Cbor.bytes_length (hash.trans_lt (by decide))
    have size := Cbor.head_length_le 0 programSize
    have chunk := Cbor.head_length_le 0 chunkSize
    have count := Cbor.head_length_le 0 chunkCount
    rw [cborEncodeMap_small (by simp [keyProgramHash, keyProgramSize, keyChunkSize, keyChunkCount])]
    simp only [map_cons, map_nil, sum_cons, sum_nil]
    simp only [show ∀ n, (Cbor.unsigned n).encode = Cbor.head 0 n from fun _ => rfl]
    omega
  rw [carries, if_neg other] at whole
  exact .of_length (whole.trans ((Nat.add_le_add_left (Nat.add_le_add_left inner 1) 23).trans (by decide)))

theorem appData_framed {queue : AsyncQueue} {data : Bytes} (accepted : (queue.push data).1 = 0) :
    Framed provider (NodeMessage.appData data).encode := by
  have bound : data.length ≤ 218 := by
    unfold AsyncQueue.push at accepted
    split at accepted
    · cases accepted
    · rename_i short
      exact Nat.le_of_not_lt short
  have encoded := Cbor.bytes_length (bound.trans_lt (by decide))
  refine .of_length ?_
  rw [NodeMessage.encode, NodeMessage.pairs, cborEncodeMap_small (by simp [keyBlob])]
  simp only [map_cons, map_nil, sum_cons, sum_nil, show maxPayloadSize = 223 from rfl]
  omega

theorem chunk_framed {chunkIndex : Nat} {data : Bytes} (short : data.length ≤ defaultChunkSize) :
    Framed provider (chunk chunkIndex data).encode := by
  have bound : data.length ≤ 128 := short
  have encoded := Cbor.bytes_length (bound.trans_lt (by decide))
  have index := Cbor.head_length_le 0 chunkIndex
  refine .of_length ?_
  rw [encode, pairs, cborEncodeMap_small (by simp [keyChunkIndex, keyChunkData])]
  simp only [map_cons, map_nil, sum_cons, sum_nil, show maxPayloadSize = 223 from rfl,
    show (Cbor.unsigned chunkIndex).encode = Cbor.head 0 chunkIndex from rfl]
  omega

/-- Number and length headers take 1, 2, 3, 5 or 9 bytes (`Cbor.head_length`). -/
theorem payload_sizes (provider : Provider) :
    (∀ startingSeq timestampMs blob, (∀ data ∈ blob, data.length ≤ maxCommandBlobSize) →
      Framed provider (GatewayMessage.command startingSeq timestampMs .nop blob).encode) ∧
    (∀ (queue : AsyncQueue) data, (queue.push data).1 = 0 → Framed provider (NodeMessage.appData data).encode) ∧
    (∀ chunkIndex data, data.length ≤ defaultChunkSize → Framed provider (GatewayMessage.chunk chunkIndex data).encode) ∧
    (∀ startingSeq timestampMs blob programHash programSize chunkSize chunkCount, programHash.length = 32 →
      Framed provider (GatewayMessage.command startingSeq timestampMs
        (.updateProgram programHash programSize chunkSize chunkCount) blob).encode ∧
      Framed provider (GatewayMessage.command startingSeq timestampMs
        (.runEphemeral programHash programSize chunkSize chunkCount) blob).encode) ∧
    ∀ startingSeq timestampMs blob intervalS,
      Framed provider (GatewayMessage.command startingSeq timestampMs (.updateSchedule intervalS) blob).encode := by
  refine ⟨fun _ _ _ => nop_framed, fun _ _ => appData_framed, fun _ _ => chunk_framed, ?_, ?_⟩
  · intro _ _ _ programHash _ _ _ hash
    exact ⟨program_framed nofun hash rfl, program_framed nofun hash rfl⟩
  · intro _ _ _ _
    exact .of_length ((schedule_length _ _ _ _).trans (by decide))

theorem payload_sizes_full : Framed plainProvider
      (GatewayMessage.command (-1) (-1) .nop (some (List.replicate maxCommandBlobSize 0))).encode ∧
    Framed plainProvider (NodeMessage.appData (List.replicate maxAppDataBlobSize 0)).encode ∧
    Framed plainProvider (GatewayMessage.chunk (2 ^ 32 - 1) (List.replicate defaultChunkSize 0)).encode := by
  obtain ⟨nop, appData, chunk, -⟩ := payload_sizes plainProvider
  exact ⟨nop _ _ _ (by simp), appData [] _ (by simp [AsyncQueue.push, maxMessages]), chunk _ _ (by simp)⟩

end Sonde.System
