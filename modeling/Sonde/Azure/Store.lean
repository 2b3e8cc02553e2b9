import Mathlib
import Sonde.Azure.Codec
import Sonde.Lib.Hex
import Sonde.Lib.Program

/-!
# The tables of the cloud handler

`actualstate` and `desiredstate` keep histories: a row is never replaced, and its key makes the newest row the first of
its partition. The partition of a node is named by the hash of its identifier, that of a gateway by the identifier.
-/

namespace Sonde.Azure
open Lib Program

abbrev RowKey := List Char

def historyRowKey (timestampMs sequence processNonce : BitVec 64) : RowKey :=
  fixedHex 16 (2 ^ 64 - 1 - timestampMs.toNat) ++
    ':' :: (fixedHex 16 (2 ^ 64 - 1 - sequence.toNat) ++ ':' :: fixedHex 16 processNonce.toNat)

theorem historyRowKey_lt {t t' : BitVec 64} (later : t < t') (sequence sequence' nonce nonce' : BitVec 64) :
    historyRowKey t' sequence' nonce' < historyRowKey t sequence nonce := by
  have less : t.toNat < t'.toNat := later
  refine append_lt_append_of_lt (by rw [fixedHex_length, fixedHex_length]) ?_ _ _
  rw [fixedHex_lt_iff (by omega) (by omega)]
  omega

structure ActualStateRow where
  rowKey : RowKey
  nodeId : Bytes
  observedCurrentProgramHash : Option Bytes
  observedAssignedProgramHash : Option Bytes
  observedScheduleIntervalS : Option Nat
  batteryMv : Option Nat
  wakeRssiDbm : Option (BitVec 8)
  firmwareAbiVersion : Option Nat
  firmwareVersion : Option Bytes
  timestampMs : BitVec 64
  encryptedPsk : Option Bytes
  escrowKeyHint : Option Nat
  masterKeyId : Option Bytes

def ActualStateRow.fromMessage (rowKey : RowKey) (message : ActualStateMessage) : ActualStateRow where
  rowKey := rowKey
  nodeId := message.entityId
  observedCurrentProgramHash := message.currentProgramHash
  observedAssignedProgramHash := message.assignedProgramHash
  observedScheduleIntervalS := message.scheduleIntervalS
  batteryMv := message.batteryMv
  wakeRssiDbm := message.wakeRssiDbm
  firmwareAbiVersion := message.firmwareAbiVersion
  firmwareVersion := message.firmwareVersion
  timestampMs := message.timestampMs
  encryptedPsk := message.encryptedPsk
  escrowKeyHint := message.escrowKeyHint
  masterKeyId := message.nodeMasterKeyId

structure GatewayActualStateRow where
  rowKey : RowKey
  timestampMs : BitVec 64
  masterKeyEpoch : Option Nat

-- The row that `handle_gateway_actual_state` builds.
def GatewayActualStateRow.ofMessage (rowKey : RowKey) (message : ActualStateMessage) : GatewayActualStateRow where
  rowKey := rowKey
  timestampMs := message.timestampMs
  masterKeyEpoch := message.masterKeyEpoch

structure GatewayDesiredStateRow where
  rowKey : RowKey
  rotationPayload : Option Bytes
  timestampMs : BitVec 64

structure ProgramImageEntity where
  elfImage : Option Bytes
  sourceFilename : Option Bytes
  abiVersion : Option Nat
  verificationProfile : Option Bytes
  filename_utf8 : ∀ filename ∈ sourceFilename, Cbor.isUtf8 filename = true
  abiVersion_lt : ∀ abi ∈ abiVersion, abi < 2 ^ 32
  profile_utf8 : ∀ profile ∈ verificationProfile, Cbor.isUtf8 profile = true
  deriving Repr

theorem ProgramImageEntity.profile_valid (entity : ProgramImageEntity) :
    Cbor.isUtf8 ((entity.verificationProfile.filter (· ≠ [])).getD (ascii "resident")) = true := by
  cases found : entity.verificationProfile.filter (· ≠ []) with
  | none => decide
  | some profile => exact entity.profile_utf8 profile (Option.filter_eq_some_iff.mp found).1

def ProgramImageEntity.row (entity : ProgramImageEntity) : ProgramImageRow where
  elfImage := entity.elfImage.getD []
  sourceFilename := entity.sourceFilename
  abiVersion := entity.abiVersion
  verificationProfile := (entity.verificationProfile.filter (· ≠ [])).getD (ascii "resident")
  filename_utf8 := entity.filename_utf8
  abiVersion_lt := entity.abiVersion_lt
  profile_utf8 := entity.profile_valid

inductive DesiredStateMessage where
  | node (row : DesiredStateRow) (program : Option ProgramImageRow)
  | gateway (gatewayId : Bytes) (rotationPayload : Option Bytes) (recoveredPsks : List NodeEscrowRecord)

def DesiredStateMessage.encode : DesiredStateMessage → Bytes
  | .node row program => encodeDesiredState row program
  | .gateway gatewayId rotationPayload recoveredPsks => encodeGatewayDesiredState gatewayId rotationPayload recoveredPsks

/-- The tables, and the messages that have been put into the downstream queue. The rows of gateways stand by partition. -/
structure Tables where
  actualState : List ActualStateRow
  gatewayActualState : Bytes → List GatewayActualStateRow
  desiredState : List DesiredStateRow
  gatewayDesiredState : Bytes → List GatewayDesiredStateRow
  programs : Bytes → Option ProgramImageEntity
  published : List DesiredStateMessage

abbrev Operation := Program Tables HandlerError

def first {ρ : Type} (rowKey : ρ → RowKey) (rows : List ρ) : Option ρ := rows.argmin rowKey

theorem first_isSome {ρ : Type} {rowKey : ρ → RowKey} {rows : List ρ} {row : ρ} (member : row ∈ rows) :
    ∃ latest, first rowKey rows = some latest := by
  refine Option.ne_none_iff_exists'.mp fun none => ?_
  rw [List.argmin_eq_none.mp none] at member
  cases member

theorem first_le {ρ : Type} {rowKey : ρ → RowKey} {rows : List ρ} {latest row : ρ}
    (found : first rowKey rows = some latest) (member : row ∈ rows) : rowKey latest ≤ rowKey row := by
  unfold first at found
  exact List.le_of_mem_argmin member (Option.mem_def.mpr (by convert found))

section
variable (sha256 : Bytes → Bytes)

def nodePartition {ρ : Type} (nodeId : ρ → Bytes) (id : Bytes) (rows : List ρ) : List ρ :=
  rows.filter fun row => sha256 (nodeId row) = sha256 id

def appendActualState (row : ActualStateRow) : Operation Unit := fun t =>
  if (nodePartition sha256 (·.nodeId) row.nodeId t.actualState).any (·.rowKey = row.rowKey) then
    (.error (.store "append actual-state row failed: EntityAlreadyExists"), t)
  else (.ok (), { t with actualState := t.actualState ++ [row] })

def loadLatestActualState (nodeId : Bytes) : Operation (Option ActualStateRow) :=
  read fun t => first (·.rowKey) (nodePartition sha256 (·.nodeId) nodeId t.actualState)

def loadLatestDesiredState (nodeId : Bytes) : Operation (Option DesiredStateRow) :=
  read fun t => first (·.rowKey) (nodePartition sha256 (·.nodeId) nodeId t.desiredState)

end

def loadProgramImage (programHash : Bytes) : Operation (Option ProgramImageRow) :=
  read fun t => (t.programs programHash).map (·.row)

def appendGatewayActualState (gatewayId : Bytes) (row : GatewayActualStateRow) : Operation Unit := fun t =>
  let rows := t.gatewayActualState gatewayId
  if rows.any (·.rowKey = row.rowKey) then
    (.error (.store "append gateway actual-state row failed: EntityAlreadyExists"), t)
  else (.ok (), { t with gatewayActualState := Function.update t.gatewayActualState gatewayId (rows ++ [row]) })

def loadGatewayActualState (gatewayId : Bytes) : Operation (Option GatewayActualStateRow) :=
  read fun t => first (·.rowKey) (t.gatewayActualState gatewayId)

def appendGatewayDesiredState (gatewayId : Bytes) (row : GatewayDesiredStateRow) : Operation Unit := fun t =>
  let rows := t.gatewayDesiredState gatewayId
  if rows.any (·.rowKey = row.rowKey) then
    (.error (.store "append gateway desired-state row failed: EntityAlreadyExists"), t)
  else (.ok (), { t with gatewayDesiredState := Function.update t.gatewayDesiredState gatewayId (rows ++ [row]) })

def loadGatewayDesiredState (gatewayId : Bytes) : Operation (Option GatewayDesiredStateRow) :=
  read fun t => first (·.rowKey) (t.gatewayDesiredState gatewayId)

def publish (message : DesiredStateMessage) : Operation Unit :=
  update fun t => { t with published := t.published ++ [message] }

def Keyed (rows : List ActualStateRow) : Prop :=
  ∀ row ∈ rows, ∃ sequence nonce, row.rowKey = historyRowKey row.timestampMs sequence nonce

theorem first_newest {rows : List ActualStateRow} {latest : ActualStateRow} (keyed : Keyed rows)
    (found : first (·.rowKey) rows = some latest) : ∀ row ∈ rows, row.timestampMs ≤ latest.timestampMs := by
  intro row member
  refine BitVec.not_lt.mp fun newer => ?_
  obtain ⟨sequence, nonce, key⟩ := keyed latest (List.argmin_mem found)
  obtain ⟨sequence', nonce', key'⟩ := keyed row member
  have less := historyRowKey_lt newer sequence sequence' nonce nonce'
  rw [← key, ← key'] at less
  exact absurd (first_le found member) (not_le_of_gt less)

def escrowRecord (keyHint : Nat) (row : ActualStateRow) : Option (RowKey × NodeEscrowRecord) := do
  if row.escrowKeyHint = some keyHint then
    let masterKeyId ← row.masterKeyId
    let encryptedPsk ← row.encryptedPsk
    some (row.rowKey, ⟨row.nodeId, keyHint, encryptedPsk, masterKeyId⟩)
  else none

def keepLatest (seen : List (RowKey × NodeEscrowRecord)) (record : RowKey × NodeEscrowRecord) :
    List (RowKey × NodeEscrowRecord) :=
  if seen.any (·.2.entityId = record.2.entityId) then
    seen.map fun existing => if existing.2.entityId = record.2.entityId ∧ record.1 < existing.1 then record else existing
  else seen ++ [record]

def queryNodesByKeyHint (keyHint : Nat) : Operation (List NodeEscrowRecord) :=
  read fun t => ((t.actualState.filterMap (escrowRecord keyHint)).foldl keepLatest []).map (·.2)

end Sonde.Azure
